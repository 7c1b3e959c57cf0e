import WhereClause.Number
import WhereClause.Timestamp

/-!
# Values

The values of the host: null, truth values, numbers, texts, timestamps, and records of named
values. A record has each name once, in ascending order.

Headlines:
* `Value.field?_ofFields`: a field of a record is the last value given for its name.
-/

namespace WhereClause

/-- The kind of a value, by which errors speak of it. -/
inductive Kind where
  | null
  | boolean
  | integer
  | float
  | text
  | timestamp
  | record
  deriving Repr, DecidableEq

/-- The name of a kind. -/
def Kind.name : Kind → String
  | null => "null"
  | boolean => "boolean"
  | integer => "integer"
  | float => "float"
  | text => "text"
  | timestamp => "datetime"
  | record => "record"

/-- A value of the host. -/
inductive Value where
  | null
  | bool (b : Bool)
  | number (n : Number)
  | text (s : String)
  | timestamp (t : Timestamp)
  | record (fields : List (String × Value))
  deriving Repr

namespace Value

/-- The kind of a value. -/
def kind : Value → Kind
  | null => .null
  | bool _ => .boolean
  | number n => if n.isIntegral then .integer else .float
  | text _ => .text
  | timestamp _ => .timestamp
  | record _ => .record

/-- Whether the value is null. -/
def isNull : Value → Bool
  | null => true
  | _ => false

/-- The truth value, if it is one. -/
def bool? : Value → Option Bool
  | bool b => some b
  | _ => none

/-- The number, if it is one. -/
def number? : Value → Option Number
  | number n => some n
  | _ => none

/-- The text, if it is one. -/
def text? : Value → Option String
  | text s => some s
  | _ => none

/-! ## Records -/

/-- Puts a field into a list of fields in ascending order; a field of that name is replaced. -/
def insertField (name : String) (v : Value) : List (String × Value) → List (String × Value)
  | [] => [(name, v)]
  | (n, w) :: rest =>
    if name = n then (name, v) :: rest
    else if name < n then (name, v) :: (n, w) :: rest
    else (n, w) :: insertField name v rest

/-- The record of the given fields; of a repeated name the last value counts. -/
def ofFields (fields : List (String × Value)) : Value :=
  record (fields.foldl (fun acc f => insertField f.1 f.2 acc) [])

/-- The value of a field, if the value is a record that has it. -/
def field? (name : String) : Value → Option Value
  | record fields => fields.lookup name
  | _ => none

theorem lookup_insertField (name key : String) (v : Value) (fields : List (String × Value)) :
    (insertField name v fields).lookup key = if key = name then some v else fields.lookup key := by
  induction fields with
  | nil =>
    simp only [insertField, List.lookup_cons, List.lookup_nil]
    by_cases h : key = name
    · simp [h]
    · simp [h, beq_false_of_ne h]
  | cons f rest ih =>
    obtain ⟨n, w⟩ := f
    by_cases hk : key = name
    · subst hk
      by_cases hn : key = n
      · simp [insertField, hn]
      · by_cases hlt : key < n
        · simp [insertField, hn, hlt]
        · simp [insertField, hn, hlt, List.lookup_cons, beq_false_of_ne hn, ih]
    · by_cases hn : name = n
      · subst hn
        simp [insertField, List.lookup_cons, beq_false_of_ne hk, hk]
      · by_cases hlt : name < n
        · simp [insertField, hn, hlt, List.lookup_cons, beq_false_of_ne hk, hk]
        · simp [insertField, hn, hlt, List.lookup_cons, ih, hk]

/-- A field of a record is the last value given for its name. -/
theorem field?_ofFields (fields : List (String × Value)) (key : String) :
    (ofFields fields).field? key = fields.reverse.lookup key := by
  suffices h : ∀ (l acc : List (String × Value)),
      (l.foldl (fun acc f => insertField f.1 f.2 acc) acc).lookup key
        = (l.reverse ++ acc).lookup key by
    simpa [ofFields, field?] using h fields []
  intro l
  induction l with
  | nil => intro acc; rfl
  | cons f l ih =>
    intro acc
    obtain ⟨n, v⟩ := f
    rw [List.foldl_cons, ih, List.reverse_cons, List.append_assoc, List.singleton_append]
    induction l.reverse with
    | nil =>
      simp only [List.nil_append, lookup_insertField, List.lookup_cons]
      by_cases h : key = n
      · simp [h]
      · simp [h, beq_false_of_ne h]
    | cons g r ihr =>
      obtain ⟨m, w⟩ := g
      simp only [List.cons_append, List.lookup_cons]
      rw [ihr]

/-! ## Sameness -/

mutual

/-- Whether two values are the same: of one form and with the same parts. Numbers are the same when
they are equal in one representation, so a value that holds a NaN is not the same as itself. -/
def same : Value → Value → Bool
  | null, null => true
  | bool a, bool b => a == b
  | number a, number b => a.same b
  | text a, text b => a == b
  | timestamp a, timestamp b => a == b
  | record a, record b => sameFields a b
  | _, _ => false

/-- Whether two lists of fields have the same names and the same values. -/
def sameFields : List (String × Value) → List (String × Value) → Bool
  | [], [] => true
  | (n, v) :: a, (m, w) :: b => n == m && same v w && sameFields a b
  | _, _ => false

end

end Value

end WhereClause
