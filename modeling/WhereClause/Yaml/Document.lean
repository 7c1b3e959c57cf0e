import WhereClause.Yaml.Token.Lexer

/-!
# YAML documents

The documents that settings are written as: a single mapping from scalars to scalars, in block or in
flow style, or nothing at all. Whatever else YAML has, nested collections, aliases, several
documents, is refused, and so is every text that is no YAML.

Headlines:
* `document?_of_mappingStart`: a document that is a block mapping has the entries of the mapping.
-/

namespace WhereClause.Yaml

/-- An entry of a mapping. -/
structure Entry where
  key : Scalar
  value : Scalar
  deriving Repr, DecidableEq

/-! ## Scalars -/

/-- What stands in front of a value: whether there is anything, and its tag. -/
structure Properties where
  isGiven : Bool := true
  tag : Option Address := none
  deriving Repr, DecidableEq

/-- Reads the properties of a value: a tag and an anchor, in either order, or one of them. -/
def Properties.read? (handles : List Handle) : List Token → Option (Properties × List Token)
  | .anchor :: .tag t :: s | .tag t :: .anchor :: s | .tag t :: s =>
    (t.resolve? handles).map fun a => (⟨true, some a⟩, s)
  | .anchor :: s => some ({}, s)
  | s => some (⟨false, none⟩, s)

/-- The scalar that stands where nothing is written. -/
def Scalar.empty (tag : Option String) : Scalar := ⟨tag, true, ""⟩

/-- Reads a scalar with its properties, of which one has to be there. -/
def Scalar.read? (handles : List Handle) (s : List Token) : Option (Scalar × List Token) := do
  let (properties, s) ← Properties.read? handles s
  let tag := properties.tag.bind Address.localName?
  match s with
  | .scalar isPlain text :: s => some (⟨tag, isPlain, text⟩, s)
  | s => if properties.isGiven then some (empty tag, s) else none

/-- Reads a scalar that may be left out before some tokens. -/
def Scalar.readBefore? (handles : List Handle) (before : List Token) (s : List Token) :
    Option (Scalar × List Token) :=
  if Token.leavesEmpty before s then some (empty none, s) else read? handles s

/-! ## Entries -/

/-- Reads what stands behind a key: a value behind its token, or no value. -/
def Entry.readValue? (handles : List Handle) (before : List Token) (key : Scalar) :
    List Token → Option (Entry × List Token)
  | .value :: s => (Scalar.readBefore? handles before s).map fun r => (⟨key, r.1⟩, r.2)
  | s => some (⟨key, .empty none⟩, s)

/-- Reads the entries of a block mapping, and what follows it. The number bounds them; those read so
far come last first. -/
def blockEntries? (handles : List Handle) :
    Nat → List Entry → List Token → Option (List Entry × List Token)
  | 0, _, _ => none
  | n + 1, done, s =>
    match s with
    | .mappingEnd :: s => some (done.reverse, s)
    | .key :: s => do
      let before := [.key, .value, .mappingEnd]
      let (key, s) ← Scalar.readBefore? handles before s
      let (e, s) ← Entry.readValue? handles before key s
      blockEntries? handles n (e :: done) s
    | _ => none

/-- Reads an entry of a flow mapping. A key without its token has no value. -/
def flowEntry? (handles : List Handle) : List Token → Option (Entry × List Token)
  | .key :: s => do
    let (key, s) ← Scalar.readBefore? handles [.value, .flowEntry, .flowEnd] s
    Entry.readValue? handles [.flowEntry, .flowEnd] key s
  | s => (Scalar.read? handles s).map fun r => (⟨r.1, .empty none⟩, r.2)

/-- Reads the entries of a flow mapping, and what follows it. The number bounds them; those read so
far come last first. -/
def flowEntries? (handles : List Handle) :
    Nat → List Entry → List Token → Option (List Entry × List Token)
  | 0, _, _ => none
  | n + 1, done, s =>
    match s with
    | .flowEnd :: s => some (done.reverse, s)
    | s => do
      let (e, s) ← flowEntry? handles s
      match s with
      | .flowEnd :: s => some ((e :: done).reverse, s)
      | .flowEntry :: s => flowEntries? handles n (e :: done) s
      | _ => none

/-! ## Documents -/

/-- Reads the directives of a document: its version, once, and the handles of tags, each once. -/
def directives? (versioned : Bool) (handles : List Handle) :
    List Token → Option (List Handle × List Token)
  | .directive (.version v) :: s =>
    if versioned || !v.isKnown then none else directives? true handles s
  | .directive (.handle h) :: s =>
    if handles.any (·.name == h.name) then none else directives? versioned (h :: handles) s
  | s => some (handles, s)

/-- Reads the entries of a document's mapping, and what follows it. Properties without a mapping are
an empty one. -/
def content? (handles : List Handle) (s : List Token) : Option (List Entry × List Token) := do
  let (properties, s) ← Properties.read? handles s
  match s with
  | .mappingStart :: s => blockEntries? handles s.length [] s
  | .flowStart :: s => flowEntries? handles s.length [] s
  | s => if properties.isGiven then some ([], s) else none

/-- The entries of the only document of some tokens. Its start is marked if it has directives; a
document whose start is marked may be empty. At most end markers follow it. -/
def document? (s : List Token) : Option (List Entry) := do
  let isEnd (s : List Token) := s.all (· == .documentEnd)
  let (handles, t) ← directives? false [] s
  match t with
  | .documentStart :: t =>
    if isEnd t then some []
    else
      let (es, rest) ← content? handles t
      if isEnd rest then some es else none
  | [] => if s.isEmpty then some [] else none
  | _ =>
    if t.length = s.length then
      let (es, rest) ← content? handles t
      if isEnd rest then some es else none
    else none

theorem document?_of_mappingStart {ts : List Token} {es : List Entry}
    (h : blockEntries? [] ts.length [] ts = some (es, [])) :
    document? (.mappingStart :: ts) = some es := by
  have hcontent : content? [] (.mappingStart :: ts) = some (es, []) := h
  simp [document?, directives?, hcontent]

/-- The mapping of the only document of a text. -/
def mapping? (text : String) : Option (List Entry) := (Token.ofText? text).bind document?

end WhereClause.Yaml
