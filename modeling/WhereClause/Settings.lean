import WhereClause.Dialect.Builtin
import WhereClause.Yaml.Document

/-!
# Settings

Settings are a document with the single entry `dialect`, which names a built-in dialect exactly. It
may be left out. A local tag may name the dialect in place of a text.
-/

namespace WhereClause

/-- What can be set. -/
structure Settings where
  dialect : BuiltinDialect := default
  deriving Repr, DecidableEq

/-- What is wrong with a settings document. -/
inductive SettingsError where
  | notMapping
  | unknownKey (key : String)
  | repeatedKey
  | notDialect
  deriving Repr, DecidableEq

namespace Settings

/-- The dialect of exactly the given name. -/
def dialectNamed? : String → Option BuiltinDialect
  | "firebird" => some .firebird
  | "sqlite" => some .sqlite
  | _ => none

/-- Whether a scalar stands for no value. -/
def isVoid (s : Yaml.Scalar) : Bool :=
  s.isPlain && ["", "~", "null", "Null", "NULL"].contains s.text

/-- The dialect that a scalar names, by its local tag or else by its text. -/
def dialectOf? (s : Yaml.Scalar) : Option BuiltinDialect :=
  match s.tag with
  | some tag => if isVoid s then dialectNamed? tag else none
  | none => dialectNamed? s.text

/-- The settings of entries, where `given` is what was set so far. -/
def ofEntries (given : Option BuiltinDialect) : List Yaml.Entry → Except SettingsError Settings
  | [] => .ok ⟨given.getD default⟩
  | e :: es =>
    if e.key.text != "dialect" then .error (.unknownKey e.key.text)
    else if given.isSome then .error .repeatedKey
    else
      match dialectOf? e.value with
      | some b => ofEntries (some b) es
      | none => .error .notDialect

/-- The settings of a document. -/
def ofDocument (text : String) : Except SettingsError Settings :=
  match Yaml.mapping? text with
  | some entries => ofEntries none entries
  | none => .error .notMapping

end Settings

end WhereClause
