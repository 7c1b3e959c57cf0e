import WhereClause.Word
import WhereClause.Text.Numeral

/-!
# Pages

A page of a result says how many rows to skip and how many to take. Without a skip it is the whole
result, whatever the limit. Otherwise it is a window of rows, which are numbered from one: a page
that skips `s` rows and takes `l` runs from row `s + 1` to row `s + l`, and both numbers have to be
words.

Headlines:
* `Page.firstRow_eq_ok_iff`: the first row is there for a skip that is not negative, and it is the
  skip's successor.
* `Page.lastRow_eq_ok_iff`: the last row is there for a limit that is not negative, and the limit
  counts the rows up to it.
-/

namespace WhereClause

/-- How many rows to skip and how many to take, each if it is given. -/
structure Page where
  skip : Option Int64 := none
  limit : Option Int64 := none
  deriving Repr, DecidableEq

/-- The two numbers that give a page. -/
inductive PageBound where
  | skip
  | limit
  deriving Repr, DecidableEq

/-- A number of a page was refused. -/
structure PageError where
  bound : PageBound
  value : Int64
  deriving Repr, DecidableEq

/-- The name of a page bound. -/
def PageBound.name : PageBound → String
  | .skip => "skip"
  | .limit => "limit"

/-- What is wrong with the page. -/
def PageError.message (e : PageError) : String :=
  e.bound.name ++ " value '" ++ Text.ofInt e.value.toInt ++ "' must be >= 0"

/-- A window of rows: how it was asked for, and its first and last row. Without a limit the window
is open. A limit of zero puts the last row before the first. -/
structure RowWindow where
  skip : Int64
  limit : Option Int64
  first : Int64
  last : Option Int64
  deriving Repr, DecidableEq

namespace Page

/-- The first row behind `skip` rows. -/
def firstRow (skip : Int64) : Except PageError Int64 :=
  match Word.add? skip 1 with
  | some row => if 0 < row.toInt then .ok row else .error ⟨.skip, skip⟩
  | none => .error ⟨.skip, skip⟩

/-- The last of `limit` rows from row `first` on. A limit that is not negative can be decreased
without overflow, which is done first so that a window may end at the greatest word. -/
def lastRow (first limit : Int64) : Except PageError Int64 :=
  if limit.toInt < 0 then .error ⟨.limit, limit⟩
  else
    match Word.add? first (limit - 1) with
    | some row => .ok row
    | none => .error ⟨.limit, limit⟩

/-- The window of a page; none when nothing is skipped. -/
def window (p : Page) : Except PageError (Option RowWindow) :=
  match p.skip with
  | none => .ok none
  | some skip => do
    let first ← firstRow skip
    let last ← p.limit.mapM (lastRow first)
    return some ⟨skip, p.limit, first, last⟩

theorem firstRow_eq_ok_iff {skip row : Int64} :
    firstRow skip = .ok row ↔ 0 ≤ skip.toInt ∧ row.toInt = skip.toInt + 1 := by
  have hone : (1 : Int64).toInt = 1 := by decide
  unfold firstRow
  split
  · rename_i r hr
    rw [Word.add?_eq_some_iff, hone] at hr
    split
    · constructor
      · intro h
        cases h
        omega
      · intro h
        rw [Int64.toInt_inj.mp (hr.trans h.2.symm)]
    · constructor
      · intro h
        cases h
      · intro h
        omega
  · rename_i hn
    constructor
    · intro h
      cases h
    · intro h
      have hw : Word.add? skip 1 = some row := by rw [Word.add?_eq_some_iff, hone, h.2]
      rw [hn] at hw
      cases hw

theorem toInt_pred {limit : Int64} (h : 0 ≤ limit.toInt) : (limit - 1).toInt = limit.toInt - 1 := by
  have hb := Word.toInt_bounds limit
  have hone : (1 : Int64).toInt = 1 := by decide
  rw [Int64.toInt_sub, hone]
  exact Int.bmod_eq_of_le (by omega) (by omega)

theorem lastRow_eq_ok_iff {first limit row : Int64} :
    lastRow first limit = .ok row ↔ 0 ≤ limit.toInt ∧ row.toInt = first.toInt + limit.toInt - 1 := by
  unfold lastRow
  split
  · constructor
    · intro h
      cases h
    · intro h
      omega
  · have hpred : (limit - 1).toInt = limit.toInt - 1 := toInt_pred (by omega)
    split
    · rename_i r hr
      rw [Word.add?_eq_some_iff, hpred] at hr
      constructor
      · intro h
        cases h
        omega
      · intro h
        rw [Int64.toInt_inj.mp (show r.toInt = row.toInt by omega)]
    · rename_i hn
      constructor
      · intro h
        cases h
      · intro h
        have hw : Word.add? first (limit - 1) = some row := by
          rw [Word.add?_eq_some_iff, hpred]
          omega
        rw [hn] at hw
        cases hw

end Page

end WhereClause
