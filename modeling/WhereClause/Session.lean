import WhereClause.Query
import WhereClause.Settings

/-!
# Sessions

A session has one active dialect, for callers that name none. It is chosen by a setting of the
environment, which counts when the session is reset, by installing a dialect, or by a settings
document. Using the dialect changes nothing.
-/

namespace WhereClause

/-- The state of a session: the environment's setting, and the active dialect. -/
structure Session where
  setting : Option String
  active : Dialect
  deriving Repr, DecidableEq

/-- A step of a session. -/
inductive SessionStep where
  | setEnvironment (setting : Option String)
  | reset
  | install (d : Dialect)
  | configure (document : String)
  | observe
  | compile (e : Expr)
  | page (p : Page)
  | query (q : Query)
  deriving Repr

/-- What a step answers. -/
inductive SessionAnswer where
  | active (name : String)
  | refused (e : SettingsError)
  | predicate (r : Except CompileError String)
  | page (r : Except CompileError String)
  | query (r : Except CompileError CompiledQuery)
  deriving Repr

namespace Session

/-- A fresh session: the environment sets nothing. -/
def fresh : Session := ⟨none, (default : BuiltinDialect).dialect⟩

/-- The dialect that a setting names; the default one when it is absent or names none. -/
def dialectOf (setting : Option String) : Dialect :=
  match setting with
  | none => (default : BuiltinDialect).dialect
  | some name =>
    match BuiltinDialect.ofName name with
    | .ok b => b.dialect
    | .error _ => (default : BuiltinDialect).dialect

/-- Makes a dialect the active one, and answers with its name. -/
def activate (s : Session) (d : Dialect) : Session × SessionAnswer :=
  ({ s with active := d }, .active d.name)

/-- Takes a step. -/
def step (s : Session) : SessionStep → Session × SessionAnswer
  | .setEnvironment setting => ({ s with setting := setting }, .active s.active.name)
  | .reset => s.activate (dialectOf s.setting)
  | .install d => s.activate d
  | .configure document =>
    match Settings.ofDocument document with
    | .ok settings => s.activate settings.dialect.dialect
    | .error e => (s, .refused e)
  | .observe => (s, .active s.active.name)
  | .compile e => (s, .predicate (e.compile s.active))
  | .page p => (s, .page (p.compile s.active))
  | .query q => (s, .query (q.compile s.active))

/-- Takes steps one after the other, and collects their answers. -/
def run (s : Session) : List SessionStep → Session × List SessionAnswer
  | [] => (s, [])
  | t :: ts =>
    let (s, a) := s.step t
    let (s, as) := s.run ts
    (s, a :: as)

end Session

end WhereClause
