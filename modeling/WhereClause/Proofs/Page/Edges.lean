import WhereClause.Proofs.Page

/-!
# Pages at the edges of words

A window is numbered by words, and its numbers are found by checked sums and by one difference that
is not checked. What is found is compared here with what the integers say, up to the greatest word:
which pages have a window, what its numbers are, and which of the two numbers of a page is refused.
That the unchecked difference is none too bold is said by a second computation of the window, which
breaks off where the difference does not fit (`Page.window?`). It never does.

Headlines:
* `Page.lastRow?_eq`: the unchecked difference is taken only where it fits.
* `Page.firstRow_eq_error`, `Page.lastRow_eq_error`: what is refused is named.
* `Page.window_exact`: windows as the integers have them.
-/

namespace WhereClause

/-- The limit counts the rows of the window. -/
theorem RowWindow.Numbers.count {w : RowWindow} (hw : w.Numbers) :
    ∀ limit ∈ w.limit, ∀ last ∈ w.last, last.toInt - w.first.toInt + 1 = limit.toInt := by
  intro limit hlimit last hlast
  have hfirst := hw.first_eq
  have heq := hw.last_eq
  rw [hlimit, hlast, Option.map_some, Option.map_some, Option.some_inj] at heq
  omega

namespace Page

/-- The skip is not negative, and the row behind the skipped ones has a number. -/
def SkipFits (skip : Int64) : Prop :=
  0 ≤ skip.toInt ∧ skip.toInt + 1 ≤ 9223372036854775807

/-- The limit is not negative, and the last row of the page has a number. -/
def LimitFits (skip limit : Int64) : Prop :=
  0 ≤ limit.toInt ∧ skip.toInt + limit.toInt ≤ 9223372036854775807

instance (skip : Int64) : Decidable (SkipFits skip) := inferInstanceAs (Decidable (_ ∧ _))

instance (skip limit : Int64) : Decidable (LimitFits skip limit) :=
  inferInstanceAs (Decidable (_ ∧ _))

/-! ## The unchecked difference -/

/-- The last row as `lastRow` finds it; none where the limit cannot be decreased. -/
def lastRow? (first limit : Int64) : Option (Except PageError Int64) :=
  if limit.toInt < 0 then some (.error ⟨.limit, limit⟩)
  else
    (Word.signed? (limit.toInt - 1)).map fun before =>
      match Word.add? first before with
      | some row => .ok row
      | none => .error ⟨.limit, limit⟩

/-- The window as `window` finds it; none where the limit cannot be decreased. -/
def window? (p : Page) : Option (Except PageError (Option RowWindow)) :=
  match p.skip with
  | none => some (.ok none)
  | some skip =>
    match firstRow skip, p.limit with
    | .error e, _ => some (.error e)
    | .ok first, none => some (.ok (some ⟨skip, none, first, none⟩))
    | .ok first, some limit =>
      (lastRow? first limit).map fun last =>
        last.map fun row => some ⟨skip, some limit, first, some row⟩

/-- **The limit is decreased only where it can be.** -/
theorem lastRow?_eq (first limit : Int64) : lastRow? first limit = some (lastRow first limit) := by
  unfold lastRow? lastRow
  by_cases h : limit.toInt < 0
  · rw [if_pos h, if_pos h]
  · have hpred : Word.signed? (limit.toInt - 1) = some (limit - 1) :=
      Word.signed?_eq_some_iff.mpr (toInt_pred (by omega))
    rw [if_neg h, if_neg h, hpred]
    rfl

theorem window_of_limit (skip limit : Int64) :
    window ⟨some skip, some limit⟩ =
      firstRow skip >>= fun first =>
        (lastRow first limit).map fun last => some ⟨skip, some limit, first, some last⟩ := by
  show (firstRow skip >>= fun first => (lastRow first limit).map some >>= fun last => .ok _) = _
  cases firstRow skip with
  | error e => rfl
  | ok first =>
    show ((lastRow first limit).map some >>= fun last => .ok _) = (lastRow first limit).map _
    cases lastRow first limit <;> rfl

theorem window?_eq (p : Page) : p.window? = some p.window := by
  obtain ⟨_ | skip, _ | limit⟩ := p
  · rfl
  · rfl
  · simp only [window?, window]
    cases firstRow skip <;> rfl
  · rw [window_of_limit]
    simp only [window?]
    cases firstRow skip with
    | error e => rfl
    | ok first =>
      simp only [lastRow?_eq]
      rfl

/-! ## What is refused -/

variable {skip limit first : Int64} {e : PageError}

theorem firstRow_eq_error (h : firstRow skip = .error e) : e = ⟨.skip, skip⟩ := by
  unfold firstRow at h
  split at h
  · split at h
    · cases h
    · cases h
      rfl
  · cases h
    rfl

theorem lastRow_eq_error (h : lastRow first limit = .error e) : e = ⟨.limit, limit⟩ := by
  unfold lastRow at h
  split at h
  · cases h
    rfl
  · split at h
    · cases h
    · cases h
      rfl

theorem exists_firstRow_iff : (∃ row, firstRow skip = .ok row) ↔ SkipFits skip := by
  have hbounds := Word.toInt_bounds skip
  simp only [firstRow_eq_ok_iff, exists_and_left, Word.exists_toInt_iff, Word.Fits, SkipFits]
  omega

theorem exists_lastRow_iff (hfirst : first.toInt = skip.toInt + 1) (hskip : 0 ≤ skip.toInt) :
    (∃ row, lastRow first limit = .ok row) ↔ LimitFits skip limit := by
  simp only [lastRow_eq_ok_iff, exists_and_left, Word.exists_toInt_iff, Word.Fits, LimitFits]
  omega

theorem window_of_not_skipFits (h : ¬SkipFits skip) (limit : Option Int64) :
    window ⟨some skip, limit⟩ = .error ⟨.skip, skip⟩ := by
  cases hrow : firstRow skip with
  | ok row => exact absurd (exists_firstRow_iff.mp ⟨row, hrow⟩) h
  | error e =>
    rw [window]
    simp only [hrow, firstRow_eq_error hrow]
    rfl

theorem window_of_not_limitFits (hskip : SkipFits skip) (h : ¬LimitFits skip limit) :
    window ⟨some skip, some limit⟩ = .error ⟨.limit, limit⟩ := by
  obtain ⟨first, hrow⟩ := exists_firstRow_iff.mpr hskip
  have hfirst := (firstRow_eq_ok_iff.mp hrow).2
  cases hlast : lastRow first limit with
  | ok row => exact absurd ((exists_lastRow_iff hfirst hskip.1).mp ⟨row, hlast⟩) h
  | error e =>
    rw [window_of_limit, hrow]
    show (lastRow first limit).map _ = _
    rw [hlast, lastRow_eq_error hlast]
    rfl

/-! ## Windows -/

theorem isValid_iff {limit : Option Int64} :
    IsValid ⟨some skip, limit⟩ ↔ SkipFits skip ∧ ∀ l ∈ limit, LimitFits skip l := by
  constructor
  · intro h
    obtain ⟨hskip, hfirst, hlimit⟩ := h skip rfl
    exact ⟨⟨hskip, hfirst⟩, hlimit⟩
  · rintro ⟨hskip, hlimit⟩ s hs
    obtain rfl : skip = s := Option.some.inj hs
    exact ⟨hskip.1, hskip.2, hlimit⟩

/-- **Windows are exact up to the greatest word.** A page with a skip has a window exactly if the row
behind the skip and the last row have numbers; the window has these numbers, and the skip and the
limit of the page. Otherwise the skip is refused if it does not fit, and the limit if it alone does
not. No step overflows, for any page. -/
theorem window_exact (skip : Int64) (limit : Option Int64) :
    ((∃ w, window ⟨some skip, limit⟩ = .ok w) ↔
        SkipFits skip ∧ ∀ l ∈ limit, LimitFits skip l) ∧
      (∀ w, window ⟨some skip, limit⟩ = .ok w →
        ∃ r, w = some r ∧ r.skip = skip ∧ r.limit = limit ∧ r.first.toInt = skip.toInt + 1 ∧
          (r.last.map Int64.toInt = limit.map fun l => skip.toInt + l.toInt) ∧
          ∀ l ∈ limit, ∀ last ∈ r.last, last.toInt - r.first.toInt + 1 = l.toInt) ∧
      (¬SkipFits skip → window ⟨some skip, limit⟩ = .error ⟨.skip, skip⟩) ∧
      (SkipFits skip → ∀ l ∈ limit, ¬LimitFits skip l →
        window ⟨some skip, limit⟩ = .error ⟨.limit, l⟩) ∧
      window? ⟨some skip, limit⟩ = some (window ⟨some skip, limit⟩) := by
  refine ⟨exists_window_iff.trans isValid_iff, ?_, fun h => window_of_not_skipFits h limit, ?_,
    window?_eq _⟩
  · intro w h
    cases w with
    | none => exact absurd (window_eq_ok_none_iff.mp h) nofun
    | some r =>
      obtain ⟨hskip, rfl, hr⟩ := window_eq_ok_some_iff.mp h
      obtain rfl : skip = r.skip := Option.some.inj hskip
      exact ⟨r, rfl, rfl, rfl, hr.first_eq, hr.last_eq, hr.count⟩
  · rintro hskip l rfl hl
    exact window_of_not_limitFits hskip hl

/-- The last window of all: one row, which has the greatest number. A second row has none, and
nothing comes behind as many skipped rows as that. -/
theorem window_at_greatest :
    (∃ w, window ⟨some 9223372036854775806, some 1⟩ = .ok (some w) ∧
        w.first.toInt = 9223372036854775807 ∧
        w.last.map Int64.toInt = some 9223372036854775807) ∧
      window ⟨some 9223372036854775806, some 2⟩ = .error ⟨.limit, 2⟩ ∧
      window ⟨some 9223372036854775807, some 0⟩ = .error ⟨.skip, 9223372036854775807⟩ := by
  have hskip : SkipFits 9223372036854775806 := by decide
  obtain ⟨hiff, hnumbers, -⟩ := window_exact 9223372036854775806 (some 1)
  obtain ⟨-, -, -, htwo, -⟩ := window_exact 9223372036854775806 (some 2)
  obtain ⟨-, -, hbeyond, -⟩ := window_exact 9223372036854775807 (some 0)
  obtain ⟨w, hw⟩ := hiff.mpr ⟨hskip, by simp only [Option.mem_some_iff, forall_eq']; decide⟩
  obtain ⟨r, rfl, -, -, hfirst, hlast, -⟩ := hnumbers w hw
  exact ⟨⟨r, hw, hfirst, hlast⟩, htwo hskip 2 rfl (by decide), hbeyond (by decide)⟩

end Page

end WhereClause
