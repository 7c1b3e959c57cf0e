import WhereClause.Compile

/-!
# Queries

A query collects filters, which all have to hold, and a page. It compiles to a predicate and a
paging clause.
-/

namespace WhereClause

/-- Filters in the order in which they were added, and a page. -/
structure Query where
  filters : List Expr := []
  page : Page := {}
  deriving Repr

/-- The SQL of a query. Without filters the predicate is empty, and without a skip the page is. -/
structure CompiledQuery where
  predicate : String
  page : String
  deriving Repr, DecidableEq

namespace Query

/-- The query that takes every row. -/
def empty : Query := {}

/-- Adds a filter. -/
def filter (q : Query) (e : Expr) : Query := { q with filters := q.filters ++ [e] }

/-- Sets how many rows to skip. -/
def withSkip (q : Query) (n : Int64) : Query := { q with page := { q.page with skip := some n } }

/-- Sets how many rows to take. It only has an effect together with a skip. -/
def withLimit (q : Query) (n : Int64) : Query := { q with page := { q.page with limit := some n } }

/-- Whether nothing was added or set. -/
def isEmpty (q : Query) : Bool := q.filters.isEmpty && q.page == {}

/-- The conjunction of the filters, nested to the left. -/
def predicate? (q : Query) : Option Expr :=
  match q.filters with
  | [] => none
  | e :: es => some (es.foldl (fun acc f => .binary (.connective .and) acc f) e)

/-- Compiles a query. A fault in a filter comes before one in the page. -/
def compile (d : Dialect) (q : Query) : Except CompileError CompiledQuery := do
  let predicate ← match q.predicate? with
    | some e => e.compile d
    | none => pure ""
  let page ← q.page.compile d
  return ⟨predicate, page⟩

end Query

end WhereClause
