import WhereClause.Yaml.Layout
import WhereClause.Yaml.Scalar.Block
import WhereClause.Yaml.Scalar.Plain
import WhereClause.Yaml.Scalar.Quoted

/-!
# Reading tokens

The tokens of a text, one after the other. Blanks, line ends and comments between them are passed
over; a new line outside flow mappings may start with a key. A text with sequences, aliases or
nested mappings is refused.

Headlines:
* `Layout.step?_of_isOpening`, `Layout.step?_quote`, `Layout.step?_colon`: words, texts between
  quotes and colons are told from other tokens by how they start.
* `Layout.tokens?_of_step?`: the tokens of a text are those of its first step and of the rest.
-/

namespace WhereClause.Yaml

open Placed

/-- Passes over blanks, line ends and comments, and tells whether a key may start behind them. A tab
is no blank where a key may start outside flow mappings. A byte order mark that starts a line is a
blank. -/
def passGap (inFlow keyAllowed inComment : Bool) : List Placed → Bool × List Placed
  | [] => (keyAllowed, [])
  | p :: s =>
    if isBreak p.char then passGap inFlow (keyAllowed || !inFlow) false s
    else if inComment || p.char == ' ' then passGap inFlow keyAllowed inComment s
    else if p.char == '\t' && (inFlow || !keyAllowed) then passGap inFlow keyAllowed false s
    else if p.char == '\ufeff' && p.column == 0 then passGap inFlow keyAllowed false s
    else if p.char == '#' then passGap inFlow keyAllowed true s
    else (keyAllowed, p :: s)

/-- What a word may start with starts no gap. -/
theorem passGap_of_isOpening {p : Placed} (hp : isOpening p.char = true) (allowed : Bool)
    (s : List Placed) : passGap false allowed false (p :: s) = (allowed, p :: s) := by
  have hbreak := isBreak_of_isSeparator (isSeparator_of_isWordChar (isWordChar_of_isOpening hp))
  have hspace : (p.char == ' ') = false := beq_eq_false_of_kind hp (by decide)
  have htab : (p.char == '\t') = false := beq_eq_false_of_kind hp (by decide)
  have hmark : (p.char == '\ufeff') = false := beq_eq_false_of_kind hp (by decide)
  have hcomment : (p.char == '#') = false := beq_eq_false_of_kind hp (by decide)
  rw [passGap]
  simp only [hbreak, hspace, htab, hmark, hcomment, Bool.false_and, Bool.or_self,
    Bool.false_eq_true, if_false]

/-- Passes over the name of an anchor. -/
def anchor? (s : List Placed) : Option (List Placed) :=
  let rest := s.dropWhile (isNameChar ·.char)
  if !s.head?.any (isNameChar ·.char) then none
  else if rest.head?.all fun p => isSeparator p.char || "?:,]\x7d%@`".toList.contains p.char then
    some rest
  else none

namespace Layout

/-- The layout behind a scalar between quotes, which starts at `p`. -/
def quoted? (p : Placed) (l : Layout) (r : Option (String × List Placed)) :
    Option (Layout × List Placed) := do
  let (text, rest) ← r
  let l ← l.offer? p
  some (l.emit (.scalar false text), rest)

/-- Reads the token that starts with `p`, in front of `s`. -/
def step? (l : Layout) (p : Placed) (s : List Placed) : Option (Layout × List Placed) :=
  let c := p.char
  if c == '%' && p.column == 0 then do
    let (d, rest) ← Directive.read? s
    let l ← l.separate? (.directive d)
    some (l, rest)
  else if isMarker '-' (p :: s) then do
    let l ← l.separate? .documentStart
    some (l, s.drop 2)
  else if isMarker '.' (p :: s) then do
    let l ← l.separate? .documentEnd
    some (l, s.drop 2)
  else if c == '{' then l.flowStart?.map (·, s)
  else if c == '}' then l.flowEnd?.map (·, s)
  else if c == ',' then l.flowEntry?.map (·, s)
  else if c == '?' && (l.inFlow || atSeparator s) then (l.key? p).map (·, s)
  else if c == ':' && (l.inFlow || atSeparator s) then (l.value? p).map (·, s)
  else if c == '&' then do
    let rest ← anchor? s
    let l ← l.offer? p
    some (l.emit .anchor, rest)
  else if c == '!' then do
    let (t, rest) ← Tag.read? l.inFlow s
    let l ← l.offer? p
    some (l.emit (.tag t), rest)
  else if (c == '|' || c == '>') && !l.inFlow then do
    let (text, rest) ← block? (c == '>') l.indent s
    let l ← l.abandon?
    some ({ l with keyAllowed := true }.emit (.scalar false text), rest)
  else if c == '\'' then l.quoted? p (singleQuoted? {} s)
  else if c == '"' then l.quoted? p (doubleQuoted? .closed {} s)
  else if startsPlain l.inFlow p s then do
    let r ← plain? l.inFlow (l.indent.elim 0 (· + 1)) {} (p :: s)
    let l ← l.offer? p
    some ({ l with keyAllowed := l.keyAllowed || r.broke }.emit (.scalar true r.text), r.rest)
  else none

variable {n : Nat} {l : Layout} {p : Placed} {t : List Placed}

theorem isMarker_of_ne {mark : Char} (hp : (p.char == mark) = false) :
    isMarker mark (p :: t) = false := isMarker_eq_false (by rw [hp, Bool.and_false]) t

/-- What a word may start with starts a plain scalar. -/
theorem step?_of_isOpening (hl : l.inFlow = false) (hp : isOpening p.char = true) :
    l.step? p t =
      (plain? false (l.indent.elim 0 (· + 1)) {} (p :: t)).bind fun r =>
        (l.offer? p).bind fun l =>
          some ({ l with keyAllowed := l.keyAllowed || r.broke }.emit (.scalar true r.text),
            r.rest) := by
  have hne : ∀ x, isOpening x = false → (p.char == x) = false := fun x => beq_eq_false_of_kind hp
  unfold step?
  simp only [hne '%' (by decide), hne '{' (by decide), hne '}' (by decide), hne ',' (by decide),
    hne '?' (by decide), hne ':' (by decide), hne '&' (by decide), hne '!' (by decide),
    hne '|' (by decide), hne '>' (by decide), hne '\'' (by decide), hne '"' (by decide),
    isMarker_of_ne (hne '-' (by decide)), isMarker_of_ne (hne '.' (by decide)),
    startsPlain_of_isOpening hp t, hl, Bool.false_and, Bool.or_self, Bool.false_eq_true, if_false,
    if_true]
  rfl

theorem step?_colon (hp : p.char = ':') (ht : atSeparator t = true) :
    l.step? p t = (l.value? p).map (·, t) := by
  have hmarker : ∀ mark, (':' == mark) = false → isMarker mark (p :: t) = false :=
    fun mark h => isMarker_of_ne (by rw [hp, h])
  unfold step?
  simp [hp, ht, hmarker]

theorem step?_quote (hp : p.char = '\'') : l.step? p t = l.quoted? p (singleQuoted? {} t) := by
  have hmarker : ∀ mark, ('\'' == mark) = false → isMarker mark (p :: t) = false :=
    fun mark h => isMarker_of_ne (by rw [hp, h])
  unfold step?
  simp [hp, hmarker]

/-- Reads the tokens of a text. The first number bounds them. -/
def tokens? : Nat → Layout → List Placed → Option (List Token)
  | 0, _, _ => none
  | n + 1, l, s =>
    let (keyAllowed, rest) := passGap l.inFlow l.keyAllowed false s
    match rest with
    | [] => l.finish?
    | p :: t => do
      let l ← { l with keyAllowed }.expire? p
      let (l, t) ← (l.closeDeeper p).step? p t
      tokens? n l t

/-- A token is read, where no gap is in front of it and it ends nothing else. -/
theorem tokens?_of_step? {m : Layout} {u : List Placed}
    (hgap : passGap l.inFlow l.keyAllowed false (p :: t) = (l.keyAllowed, p :: t))
    (hexpire : l.expire? p = some l) (hdeeper : l.closeDeeper p = l)
    (hstep : l.step? p t = some (m, u)) : tokens? (n + 1) l (p :: t) = tokens? n m u := by
  rw [tokens?, hgap]
  show (l.expire? p >>= fun l => (l.closeDeeper p).step? p t >>= fun r => tokens? n r.1 r.2) = _
  simp only [hexpire, hdeeper, hstep, Option.bind_eq_bind, Option.bind_some]

theorem tokens?_space (line column : Nat) (s : List Char) :
    tokens? n l (place line column [] (' ' :: s)) = tokens? n l (place line (column + 1) [] s) := by
  cases n with
  | zero => rfl
  | succ n =>
    rw [place_cons, if_neg (by decide), tokens?, passGap, tokens?]
    rfl

end Layout

/-- The tokens of a text. Each takes at least one character. -/
def Token.ofText? (text : String) : Option (List Token) := do
  let s ← Placed.ofText? text
  Layout.tokens? (s.length + 1) {} s

end WhereClause.Yaml
