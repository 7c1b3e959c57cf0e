/-!
# Searching a text

Whether a text starts with, ends with or contains another, on the characters.

Headlines:
* `isPart_iff`: a part stands between something before it and something after it.
-/

namespace WhereClause.Text

/-- Whether `p` stands somewhere in the text. -/
def isPart (p : List Char) : List Char → Bool
  | [] => p.isEmpty
  | c :: s => p.isPrefixOf (c :: s) || isPart p s

theorem isPart_iff {p s : List Char} : isPart p s = true ↔ ∃ a b, s = a ++ p ++ b := by
  induction s with
  | nil =>
    constructor
    · intro h
      cases p with
      | nil => exact ⟨[], [], rfl⟩
      | cons c p => simp [isPart] at h
    · rintro ⟨a, b, h⟩
      have hp : p = [] := by simp at h; exact h.2.1
      simp [isPart, hp]
  | cons c s ih =>
    rw [isPart, Bool.or_eq_true, ih, List.isPrefixOf_iff_prefix]
    constructor
    · rintro (⟨t, ht⟩ | ⟨a, b, h⟩)
      · exact ⟨[], t, ht.symm⟩
      · exact ⟨c :: a, b, by rw [h]; rfl⟩
    · rintro ⟨a, b, h⟩
      cases a with
      | nil => exact Or.inl ⟨b, by simpa using h.symm⟩
      | cons d a =>
        simp only [List.cons_append, List.cons.injEq] at h
        exact Or.inr ⟨a, b, h.2⟩

/-- Whether the text starts with `p`. -/
def startsWith (s p : String) : Bool := p.toList.isPrefixOf s.toList

/-- Whether the text ends with `p`. -/
def endsWith (s p : String) : Bool := p.toList.isSuffixOf s.toList

/-- Whether `p` stands somewhere in the text. -/
def contains (s p : String) : Bool := isPart p.toList s.toList

theorem startsWith_iff {s p : String} : startsWith s p = true ↔ ∃ t, s.toList = p.toList ++ t := by
  rw [startsWith, List.isPrefixOf_iff_prefix]
  exact ⟨fun ⟨t, h⟩ => ⟨t, h.symm⟩, fun ⟨t, h⟩ => ⟨t, h.symm⟩⟩

theorem endsWith_iff {s p : String} : endsWith s p = true ↔ ∃ t, s.toList = t ++ p.toList := by
  rw [endsWith, List.isSuffixOf_iff_suffix]
  exact ⟨fun ⟨t, h⟩ => ⟨t, h.symm⟩, fun ⟨t, h⟩ => ⟨t, h.symm⟩⟩

theorem contains_iff {s p : String} :
    contains s p = true ↔ ∃ a b, s.toList = a ++ p.toList ++ b :=
  isPart_iff

end WhereClause.Text
