import WhereClause.Proofs.Reduce

/-!
# Pages of rows

A paging clause is read here as a database reads it: its words are told apart by spaces, its numbers
are decimal numerals, and it selects from the rows that a statement has found. `ROWS m TO n` names
the rows from number `m` up to number `n`, counted from one; `LIMIT l OFFSET s` passes over `s` rows
and keeps `l` of what is left, where `-1` keeps everything. Both are compared with what a page asks
for, which is said without numbering the rows (`Page.select`).

Headlines:
* `Page.exists_window_iff`: which pages have a window.
* `Dialect.select?_pageClause`: the clause of a page selects the rows of the page.
* `Page.clauses_select`: so the two forms of clauses select the same rows.
-/

namespace WhereClause

/-! ## Windows -/

/-- The rows of the window are those behind `skip` rows, as many as the limit says. -/
structure RowWindow.Numbers (w : RowWindow) : Prop where
  skip_nonneg : 0 ≤ w.skip.toInt
  first_eq : w.first.toInt = w.skip.toInt + 1
  limit_nonneg : ∀ l ∈ w.limit, 0 ≤ l.toInt
  last_eq : w.last.map Int64.toInt = w.limit.map fun l => w.skip.toInt + l.toInt

namespace Page

/-- The rows of the page can be numbered by words: neither of its numbers is negative, and neither
the row behind those that are skipped nor the last one is beyond the greatest word. -/
def IsValid (p : Page) : Prop :=
  ∀ s ∈ p.skip, 0 ≤ s.toInt ∧ s.toInt + 1 ≤ 9223372036854775807 ∧
    ∀ l ∈ p.limit, 0 ≤ l.toInt ∧ s.toInt + l.toInt ≤ 9223372036854775807

theorem mapM_lastRow_eq_ok_iff {first : Int64} {limit last : Option Int64} :
    limit.mapM (lastRow first) = .ok last ↔
      (∀ l ∈ limit, 0 ≤ l.toInt) ∧
        last.map Int64.toInt = limit.map fun l => first.toInt + l.toInt - 1 := by
  cases limit with
  | none =>
    have h : (none : Option Int64).mapM (lastRow first) = .ok none := rfl
    rw [h]
    cases last <;> simp
  | some l =>
    have h : (some l).mapM (lastRow first) = (lastRow first l).map some := rfl
    rw [h, except_map_eq_ok]
    cases last <;> simp [lastRow_eq_ok_iff]

/-- **The window of a page numbers the rows of the page**, and nothing else does. -/
theorem window_eq_ok_some_iff {p : Page} {w : RowWindow} :
    p.window = .ok (some w) ↔ p.skip = some w.skip ∧ p.limit = w.limit ∧ w.Numbers := by
  obtain ⟨skip, limit⟩ := p
  obtain ⟨wskip, wlimit, first, last⟩ := w
  have hshift : first.toInt = wskip.toInt + 1 →
      (fun l : Int64 => first.toInt + l.toInt - 1) = fun l => wskip.toInt + l.toInt := by
    intro hfirst
    funext l
    omega
  cases skip with
  | none => exact ⟨nofun, fun h => nomatch h.1⟩
  | some s =>
    constructor
    · intro h
      obtain ⟨row, hrow, h⟩ := except_bind_eq_ok.mp h
      obtain ⟨rows, hrows, h⟩ := except_bind_eq_ok.mp h
      cases h
      obtain ⟨hskip, hfirst⟩ := firstRow_eq_ok_iff.mp hrow
      obtain ⟨hlimit, hlast⟩ := mapM_lastRow_eq_ok_iff.mp hrows
      rw [hshift hfirst] at hlast
      exact ⟨rfl, rfl, hskip, hfirst, hlimit, hlast⟩
    · rintro ⟨hs, rfl, hskip, hfirst, hlimit, hlast⟩
      obtain rfl : s = wskip := Option.some.inj hs
      rw [← hshift hfirst] at hlast
      refine except_bind_eq_ok.mpr ⟨first, firstRow_eq_ok_iff.mpr ⟨hskip, hfirst⟩, ?_⟩
      exact except_bind_eq_ok.mpr ⟨last, mapM_lastRow_eq_ok_iff.mpr ⟨hlimit, hlast⟩, rfl⟩

theorem window_eq_ok_none_iff {p : Page} : p.window = .ok none ↔ p.skip = none := by
  obtain ⟨skip, limit⟩ := p
  cases skip with
  | none => exact ⟨fun _ => rfl, fun _ => rfl⟩
  | some s =>
    refine iff_of_false (fun h => ?_) nofun
    obtain ⟨row, -, h⟩ := except_bind_eq_ok.mp h
    obtain ⟨rows, -, h⟩ := except_bind_eq_ok.mp h
    cases h

/-- **A page has a window exactly if it is valid.** -/
theorem exists_window_iff {p : Page} : (∃ w, p.window = .ok w) ↔ p.IsValid := by
  constructor
  · rintro ⟨w, h⟩ s hs
    cases w with
    | none =>
      rw [window_eq_ok_none_iff.mp h] at hs
      cases hs
    | some w =>
      obtain ⟨hskip, hlimit, hw⟩ := window_eq_ok_some_iff.mp h
      obtain rfl : w.skip = s := Option.some.inj (hskip.symm.trans hs)
      have hfirst := Word.toInt_bounds w.first
      refine ⟨hw.skip_nonneg, by rw [← hw.first_eq]; exact hfirst.2, fun l hl => ?_⟩
      rw [hlimit] at hl
      have hlast := hw.last_eq
      rw [hl, Option.map_some] at hlast
      obtain ⟨row, -, hrow⟩ := Option.map_eq_some_iff.mp hlast
      exact ⟨hw.limit_nonneg l hl, by rw [← hrow]; exact (Word.toInt_bounds row).2⟩
  · intro h
    cases hskip : p.skip with
    | none => exact ⟨none, window_eq_ok_none_iff.mpr hskip⟩
    | some s =>
      obtain ⟨hs, hfirst, hlimit⟩ := h s hskip
      refine ⟨some ⟨s, p.limit, .ofInt (s.toInt + 1),
        p.limit.map fun l => .ofInt (s.toInt + l.toInt)⟩, window_eq_ok_some_iff.mpr ?_⟩
      refine ⟨hskip, rfl, hs, Word.toInt_ofInt (by omega) hfirst, fun l hl => (hlimit l hl).1, ?_⟩
      rw [Option.map_map]
      refine Option.map_congr fun l hl => ?_
      obtain ⟨hl, hlast⟩ := hlimit l hl
      exact Word.toInt_ofInt (by omega) hlast

/-! ## Rows of pages -/

/-- The rows of the page: all of them if none are skipped, and otherwise as many of those behind the
skipped ones as the limit says. -/
def select {α : Type} (p : Page) (rows : List α) : List α :=
  match p.skip, p.limit with
  | none, _ => rows
  | some s, none => rows.drop s.toInt.toNat
  | some s, some l => (rows.drop s.toInt.toNat).take l.toInt.toNat

end Page

/-! ## Words and numbers of clauses -/

namespace Text

/-- The words of a text, between which spaces stand. -/
def words (s : String) : List String :=
  ((s.toList.splitOn ' ').filter fun w => !w.isEmpty).map String.ofList

/-- The value of a numeral without a sign. -/
def natural? (s : List Char) : Option Nat :=
  if s ≠ [] ∧ s.all Char.isDigit then some (Nat.ofDigitChars 10 s 0) else none

/-- The value of a numeral. -/
def integer? : List Char → Option Int
  | '-' :: s => (natural? s).map fun n : Nat => -(n : Int)
  | s => (natural? s).map Int.ofNat

theorem words_of_intercalate {s : String} {ws : List (List Char)}
    (h : s.toList = [' '].intercalate ws) (hws : ∀ w ∈ ws, ' ' ∉ w) (hne : ws ≠ []) :
    words s = (ws.filter fun w => !w.isEmpty).map String.ofList := by
  rw [words, h, List.splitOn_intercalate ' ' hws hne]

theorem natural?_toDigits (n : Nat) : natural? (Nat.toDigits 10 n) = some n := by
  have hne : Nat.toDigits 10 n ≠ [] := List.length_pos_iff.mp Nat.length_toDigits_pos
  have hall : (Nat.toDigits 10 n).all Char.isDigit = true :=
    List.all_eq_true.mpr fun _ hc => Nat.isDigit_of_mem_toDigits (by decide) (by decide) hc
  rw [natural?, if_pos ⟨hne, hall⟩, Nat.ofDigitChars_ten_toDigits]

/-- **The numeral of an integer has its value.** -/
theorem integer?_integer (n : Int) : integer? (integer n) = some n := by
  unfold integer
  split
  · rw [integer?, natural?_toDigits, Option.map_some]
    congr 1
    omega
  · have hunsigned : integer? (Nat.toDigits 10 n.natAbs) =
        (natural? (Nat.toDigits 10 n.natAbs)).map Int.ofNat := by
      rw [integer?]
      exact fun s hs => minus_not_mem_toDigits hs.symm
    rw [hunsigned, natural?_toDigits, Option.map_some]
    congr 1
    simp only [Int.ofNat_eq_natCast]
    omega

theorem space_not_mem_integer (n : Int) : ' ' ∉ integer n := by
  have hdigits : ' ' ∉ Nat.toDigits 10 n.natAbs := fun h =>
    absurd (Nat.isDigit_of_mem_toDigits (by decide) (by decide) h) (by decide)
  unfold integer
  split
  · simp [hdigits]
  · exact hdigits

end Text

/-! ## Rows of clauses -/

/-- The rows with the numbers from `first` up to `last`, if there is a last one. The numbers start
with one. -/
def rowsBetween {α : Type} (first : Int) (last : Option Int) (rows : List α) : List α :=
  ((rows.zipIdx 1).filter fun r => first ≤ r.2 && last.all fun n => r.2 ≤ n).map Prod.fst

/-- The rows behind `offset` rows, at most `limit` of them; a limit of `-1` keeps all of them. -/
def rowsBehind {α : Type} (limit offset : Int) (rows : List α) : List α :=
  if limit = -1 then rows.drop offset.toNat else (rows.drop offset.toNat).take limit.toNat

/-- The rows that a clause of the form selects, read off its text; none if the text is no clause of
the form. An empty clause selects all rows. -/
def PageForm.select? {α : Type} (form : PageForm) (clause : String) (rows : List α) :
    Option (List α) :=
  match form, Text.words clause with
  | _, [] => some rows
  | .rows, ["ROWS", m] => do
    let first ← Text.integer? m.toList
    return rowsBetween first none rows
  | .rows, ["ROWS", m, "TO", n] => do
    let first ← Text.integer? m.toList
    let last ← Text.integer? n.toList
    return rowsBetween first (some last) rows
  | .limitOffset, ["LIMIT", l, "OFFSET", s] => do
    let limit ← Text.integer? l.toList
    let offset ← Text.integer? s.toList
    return rowsBehind limit offset rows
  | _, _ => none

variable {α : Type}

/-- Of rows that are numbered from `k` on, those from number `m` on are behind `m - k` rows. -/
theorem map_filter_zipIdx_ge (rows : List α) (k m : Nat) :
    ((rows.zipIdx k).filter fun r => decide (m ≤ r.2)).map Prod.fst = rows.drop (m - k) := by
  induction rows generalizing k with
  | nil => simp
  | cons a rows ih =>
    rw [List.zipIdx_cons, List.filter_cons]
    by_cases hm : m ≤ k
    · rw [if_pos (by simpa using hm), List.map_cons, ih, Nat.sub_eq_zero_of_le hm,
        Nat.sub_eq_zero_of_le (Nat.le_succ_of_le hm), List.drop_zero, List.drop_zero]
    · have hsucc : m - k = m - (k + 1) + 1 := by omega
      rw [if_neg (by simpa using hm), ih, hsucc, List.drop_succ_cons]

/-- Of rows that are numbered from `k` on, those up to number `n` are the first ones. -/
theorem filter_zipIdx_le (rows : List α) (k n : Nat) :
    ((rows.zipIdx k).filter fun r => decide (r.2 ≤ n)) = (rows.take (n + 1 - k)).zipIdx k := by
  induction rows generalizing k with
  | nil => simp
  | cons a rows ih =>
    rw [List.zipIdx_cons, List.filter_cons, ih]
    by_cases hn : k ≤ n
    · have hsucc : n + 1 - k = n + 1 - (k + 1) + 1 := by omega
      rw [if_pos (by simpa using hn), hsucc, List.take_succ_cons, List.zipIdx_cons]
    · have hzero : n + 1 - k = 0 := by omega
      have hzero' : n + 1 - (k + 1) = 0 := by omega
      rw [if_neg (by simpa using hn), hzero, hzero', List.take_zero]
      rfl

theorem rowsBetween_none (rows : List α) (s : Nat) :
    rowsBetween (s + 1) none rows = rows.drop s := by
  have h := map_filter_zipIdx_ge rows 1 (s + 1)
  rw [Nat.add_sub_cancel] at h
  rw [← h, rowsBetween]
  congr 1
  refine List.filter_congr fun r _ => ?_
  simp only [Option.all_none, Bool.and_true, decide_eq_decide]
  omega

theorem rowsBetween_some (rows : List α) (s l : Nat) :
    rowsBetween (s + 1) (some (s + l)) rows = (rows.drop s).take l := by
  have h := map_filter_zipIdx_ge (rows.take (s + l)) 1 (s + 1)
  have hle := filter_zipIdx_le rows 1 (s + l)
  rw [Nat.add_sub_cancel] at h hle
  rw [← hle, List.drop_take, Nat.add_sub_cancel_left, List.filter_filter] at h
  rw [← h, rowsBetween]
  congr 1
  refine List.filter_congr fun r _ => ?_
  rw [Option.all_some, Bool.eq_iff_iff]
  simp only [Bool.and_eq_true, decide_eq_true_eq]
  omega

/-! ## The clauses of a page -/

namespace PageForm

open Text

theorem integer_ne_nil (n : Int) : integer n ≠ [] := by
  intro h
  have hvalue := integer?_integer n
  rw [h] at hvalue
  cases hvalue

theorem select?_rows (m : Int) (rows : List α) :
    select? .rows ("ROWS " ++ ofInt m ++ " " ++ "") rows = some (rowsBetween m none rows) := by
  have hlist : ("ROWS " ++ ofInt m ++ " " ++ "").toList =
      [' '].intercalate ["ROWS".toList, integer m, []] := by
    simp [ofInt, List.intercalate]
  have hwords : words ("ROWS " ++ ofInt m ++ " " ++ "") = ["ROWS", ofInt m] := by
    rw [words_of_intercalate hlist (by simp [space_not_mem_integer]) nofun]
    simp [integer_ne_nil, ofInt]
  unfold select?
  rw [hwords]
  simp [ofInt, integer?_integer]

theorem select?_rowsTo (m n : Int) (rows : List α) :
    select? .rows ("ROWS " ++ ofInt m ++ " " ++ ("TO " ++ ofInt n)) rows =
      some (rowsBetween m (some n) rows) := by
  have hlist : ("ROWS " ++ ofInt m ++ " " ++ ("TO " ++ ofInt n)).toList =
      [' '].intercalate ["ROWS".toList, integer m, "TO".toList, integer n] := by
    simp [ofInt, List.intercalate]
  have hwords : words ("ROWS " ++ ofInt m ++ " " ++ ("TO " ++ ofInt n)) =
      ["ROWS", ofInt m, "TO", ofInt n] := by
    rw [words_of_intercalate hlist (by simp [space_not_mem_integer]) nofun]
    simp [integer_ne_nil, ofInt]
  unfold select?
  rw [hwords]
  simp [ofInt, integer?_integer]

theorem select?_limitOffset (l s : Int) (rows : List α) :
    select? .limitOffset ("LIMIT " ++ ofInt l ++ " OFFSET " ++ ofInt s) rows =
      some (rowsBehind l s rows) := by
  have hlist : ("LIMIT " ++ ofInt l ++ " OFFSET " ++ ofInt s).toList =
      [' '].intercalate ["LIMIT".toList, integer l, "OFFSET".toList, integer s] := by
    simp [ofInt, List.intercalate]
  have hwords : words ("LIMIT " ++ ofInt l ++ " OFFSET " ++ ofInt s) =
      ["LIMIT", ofInt l, "OFFSET", ofInt s] := by
    rw [words_of_intercalate hlist (by simp [space_not_mem_integer]) nofun]
    simp [integer_ne_nil, ofInt]
  unfold select?
  rw [hwords]
  simp [ofInt, integer?_integer]

end PageForm

namespace RowWindow.Numbers

variable {p : Page} {w : RowWindow}

/-- A window by the numbers of its rows. -/
theorem rowsBetween_eq (hw : w.Numbers) (hskip : p.skip = some w.skip) (hlimit : p.limit = w.limit)
    (rows : List α) :
    rowsBetween w.first.toInt (w.last.map Int64.toInt) rows = p.select rows := by
  obtain ⟨s, hs⟩ := Int.eq_ofNat_of_zero_le hw.skip_nonneg
  rw [hw.first_eq, hw.last_eq, Page.select, hskip, hlimit]
  cases hl : w.limit with
  | none =>
    show rowsBetween (w.skip.toInt + 1) none rows = rows.drop w.skip.toInt.toNat
    rw [hs]
    exact rowsBetween_none rows s
  | some l =>
    obtain ⟨n, hn⟩ := Int.eq_ofNat_of_zero_le (hw.limit_nonneg l hl)
    show rowsBetween (w.skip.toInt + 1) (some (w.skip.toInt + l.toInt)) rows =
      (rows.drop w.skip.toInt.toNat).take l.toInt.toNat
    rw [hs, hn]
    exact rowsBetween_some rows s n

/-- A window by its limit. No limit is confused with the mark of an open window. -/
theorem rowsBehind_eq (hw : w.Numbers) (hskip : p.skip = some w.skip) (hlimit : p.limit = w.limit)
    (rows : List α) :
    rowsBehind (w.limit.elim (-1) Int64.toInt) w.skip.toInt rows = p.select rows := by
  rw [Page.select, hskip, hlimit, rowsBehind]
  cases hl : w.limit with
  | none => rfl
  | some l =>
    have hnonneg := hw.limit_nonneg l hl
    rw [Option.elim_some, if_neg (by omega)]

end RowWindow.Numbers

namespace Dialect

/-- **The clause of a page selects the rows of the page**, whatever its form. -/
theorem select?_pageClause {d : Dialect} {p : Page} {clause : String}
    (h : d.pageClause p = .ok clause) (rows : List α) :
    d.pageForm.select? clause rows = some (p.select rows) := by
  obtain ⟨window, hwindow, rfl⟩ := except_map_eq_ok.mp h
  cases window with
  | none =>
    have hskip := Page.window_eq_ok_none_iff.mp hwindow
    rw [Page.select, hskip]
    cases d.pageForm <;> rfl
  | some w =>
    obtain ⟨hskip, hlimit, hw⟩ := Page.window_eq_ok_some_iff.mp hwindow
    rw [Option.elim_some, windowClause]
    cases d.pageForm with
    | rows =>
      rw [← hw.rowsBetween_eq hskip hlimit]
      cases w.last with
      | none => exact PageForm.select?_rows _ rows
      | some last => exact PageForm.select?_rowsTo _ _ rows
    | limitOffset =>
      rw [← hw.rowsBehind_eq hskip hlimit]
      exact PageForm.select?_limitOffset _ _ rows

end Dialect

namespace Page

/-- A page has a clause exactly if it is valid, in every dialect. -/
theorem exists_pageClause_iff {d : Dialect} {p : Page} :
    (∃ clause, d.pageClause p = .ok clause) ↔ p.IsValid := by
  rw [← exists_window_iff]
  constructor
  · rintro ⟨clause, h⟩
    obtain ⟨w, hw, -⟩ := except_map_eq_ok.mp h
    exact ⟨w, hw⟩
  · rintro ⟨w, hw⟩
    exact ⟨_, except_map_eq_ok.mpr ⟨w, hw, rfl⟩⟩

/-- **The two forms of clauses select the same rows**, those of the page. A page that has no clause
in one dialect has none in the other, for the same reason. -/
theorem clauses_select (p : Page) :
    (¬p.IsValid ∧ ∃ e, Dialect.firebird.pageClause p = .error e ∧
        Dialect.sqlite.pageClause p = .error e) ∨
      (p.IsValid ∧ ∃ f s, Dialect.firebird.pageClause p = .ok f ∧
        Dialect.sqlite.pageClause p = .ok s ∧ ∀ (α : Type) (rows : List α),
          PageForm.rows.select? f rows = some (p.select rows) ∧
            PageForm.limitOffset.select? s rows = some (p.select rows)) := by
  by_cases hp : p.IsValid
  · obtain ⟨f, hf⟩ := (exists_pageClause_iff (d := .firebird)).mpr hp
    obtain ⟨s, hs⟩ := (exists_pageClause_iff (d := .sqlite)).mpr hp
    exact Or.inr ⟨hp, f, s, hf, hs, fun α rows =>
      ⟨Dialect.select?_pageClause hf rows, Dialect.select?_pageClause hs rows⟩⟩
  · cases hw : p.window with
    | error e =>
      refine Or.inl ⟨hp, e, ?_, ?_⟩
      · rw [Dialect.pageClause, hw]
        rfl
      · rw [Dialect.pageClause, hw]
        rfl
    | ok w => exact absurd (exists_window_iff.mp ⟨w, hw⟩) hp

end Page

end WhereClause
