import WhereClause.EnumType
import WhereClause.EnumType.Discriminant
import WhereClause.Text.Numeral
import WhereClause.Word

/-!
# Enum declarations

A declared type becomes an enum type when it is an enum of plain members, each with an ordinal and
a stored name of its own. An ordinal is the member's discriminant, or one more than the ordinal
before it, from zero on. The stored name is the member's identifier, unless the attribute `sql`
gives another one. The first fault in the declaration is reported.
-/

namespace WhereClause

/-- What is declared. -/
inductive DeclarationKind where
  | enum
  | struct
  | union
  deriving Repr, DecidableEq

/-- What an entry of an attribute assigns. -/
inductive EntryValue where
  | absent
  | text (s : String)
  | other
  deriving Repr, DecidableEq

/-- An entry of an attribute. -/
structure AttributeEntry where
  key : String
  value : EntryValue
  deriving Repr, DecidableEq

/-- An attribute: its path, and its entries when it has parentheses. -/
structure Attribute where
  path : String
  entries : Option (List AttributeEntry)
  deriving Repr, DecidableEq

/-- A member of a declared enum. -/
structure Variant where
  name : String
  discriminant : Option Discriminant
  hasFields : Bool
  attributes : List Attribute
  deriving Repr, DecidableEq

/-- A declared type. -/
structure EnumDeclaration where
  kind : DeclarationKind
  name : String
  isGeneric : Bool
  attributes : List Attribute
  variants : List Variant
  deriving Repr, DecidableEq

/-- What is wrong with a declaration. -/
inductive DeclarationError where
  | generic
  | notEnum
  | noVariants
  | fields
  | notLiteral
  | tooLarge
  | doesNotFit
  | duplicateOrdinal (ordinal : Int64)
  | duplicateName (name : String)
  | noNextOrdinal
  | manyAttributes
  | noParentheses
  | renameNotText
  | duplicateRename
  | emptyRename
  | unknownEntry
  deriving Repr, DecidableEq

/-- How a fault is reported. -/
def DeclarationError.message : DeclarationError → String
  | generic => "SqlEnum cannot be derived for generic enums"
  | notEnum => "SqlEnum can only be derived for enums"
  | noVariants => "SqlEnum needs at least one variant"
  | fields => "SqlEnum variants cannot have fields"
  | notLiteral => "SqlEnum discriminants must be integer literals"
  | tooLarge => "number too large to fit in target type"
  | doesNotFit => "discriminant does not fit in i64"
  | duplicateOrdinal ordinal =>
    "ordinal " ++ Text.ofInt ordinal.toInt ++ " is used by more than one variant"
  | duplicateName name => "name '" ++ name ++ "' is used by more than one variant"
  | noNextOrdinal => "implicit ordinal after this variant overflows i64"
  | manyAttributes => "only one #[sql(...)] attribute is allowed"
  | noParentheses => "expected attribute arguments in parentheses: #[sql(...)]"
  | renameNotText => "rename must be a string literal"
  | duplicateRename => "duplicate rename"
  | emptyRename => "rename must not be empty"
  | unknownEntry => "unknown sql attribute. Expected: rename = \"...\""

/-! ## Attributes -/

namespace Attribute

/-- The name that the entries of an attribute give, where `given` is the one given so far. -/
def renameFrom (given : Option String) :
    List AttributeEntry → Except DeclarationError (Option String)
  | [] => .ok given
  | e :: es =>
    match e.key == "rename", e.value with
    | true, .text s =>
      if given.isSome then .error .duplicateRename
      else if s.isEmpty then .error .emptyRename
      else renameFrom (some s) es
    | true, .other => .error .renameNotText
    | _, _ => .error .unknownEntry

/-- The name that the attribute `sql` gives. There may be one such attribute, and other attributes
do not matter. -/
def rename (attributes : List Attribute) : Except DeclarationError (Option String) :=
  match attributes.filter fun a => a.path == "sql" with
  | [] => .ok none
  | [a] =>
    match a.entries with
    | some entries => renameFrom none entries
    | none => .error .noParentheses
  | _ => .error .manyAttributes

end Attribute

/-! ## Members -/

namespace Discriminant

/-- The ordinal that a discriminant gives. The magnitude of a negative literal is read as a word of
128 bits, so that the least ordinal can be negated into place. -/
def ordinal : Discriminant → Except DeclarationError Int64
  | literal false n =>
    match Word.signed? n with
    | some w => .ok w
    | none => .error .tooLarge
  | literal true n =>
    if 170141183460469231731687303715884105727 < n then .error .tooLarge
    else
      match Word.signed? (-n) with
      | some w => .ok w
      | none => .error .doesNotFit
  | other => .error .notLiteral

end Discriminant

/-- A member as it is declared, with its ordinal and stored name. -/
structure DeclaredMember where
  identifier : String
  ordinal : Int64
  name : String
  deriving Repr, DecidableEq

namespace EnumDeclaration

/-- The member of a variant, behind the members `done`, where `next` is the ordinal that it has
when it has no discriminant. -/
def memberOf (done : List DeclaredMember) (next : Int64) (v : Variant) :
    Except DeclarationError DeclaredMember := do
  if v.hasFields then throw .fields
  let ordinal ← match v.discriminant with
    | some d => d.ordinal
    | none => pure next
  if done.any fun m => m.ordinal == ordinal then throw (.duplicateOrdinal ordinal)
  let name := (← Attribute.rename v.attributes).getD v.name
  if done.any fun m => m.name == name then throw (.duplicateName name)
  return ⟨v.name, ordinal, name⟩

/-- The ordinal behind a given one. -/
def nextOrdinal (ordinal : Int64) : Except DeclarationError Int64 :=
  match Word.add? ordinal 1 with
  | some next => .ok next
  | none => .error .noNextOrdinal

/-- The members of the variants, behind the members `done`. The next ordinal has to exist behind
the last member too. -/
def membersFrom (done : List DeclaredMember) (next : Int64) :
    List Variant → Except DeclarationError (List DeclaredMember)
  | [] => .ok done
  | v :: vs => do
    let m ← memberOf done next v
    let next ← nextOrdinal m.ordinal
    membersFrom (done ++ [m]) next vs

/-- The members of a declared enum, in the order of their declaration. -/
def members (d : EnumDeclaration) : Except DeclarationError (List DeclaredMember) :=
  membersFrom [] 0 d.variants

/-- The name of the enum type and its members. -/
def check (d : EnumDeclaration) : Except DeclarationError (String × List DeclaredMember) := do
  if d.isGeneric then throw .generic
  if d.kind ≠ .enum then throw .notEnum
  if d.variants.isEmpty then throw .noVariants
  let name := (← Attribute.rename d.attributes).getD d.name
  return (name, ← d.members)

/-- The enum type of a declaration. -/
def enumType (d : EnumDeclaration) : Except DeclarationError EnumType :=
  d.check.map fun r => ⟨r.1, r.2.map fun m => (m.ordinal, m.name)⟩

end EnumDeclaration

end WhereClause
