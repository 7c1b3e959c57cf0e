import WhereClause.Text.Quoted

/-!
# Quoting delimits itself

A quoted literal is followed by more text, and a reader has to find its end without knowing what was
quoted. What a scanner reads is pinned down first: a text and a rest are read exactly where the
literal of the text stands in front of the rest and the rest does not go on with a quote. That the
literals of different texts differ, and that none is the beginning of what another one starts,
follows from this alone.

Headlines:
* `Text.Quoted.scan_eq_some_iff`: what the scanner reads, and in front of what.
* `Text.isSelfDelimiting_quoted_identifier`: text constants and column names delimit themselves.
-/

namespace WhereClause.Text

namespace Quoted

variable {q : Char} {s t rest rest' : List Char}

/-- What is read as the body of a literal is the doubled text up to a lone quote. -/
theorem eq_of_scanBody (h : scanBody q t = some (s, rest)) :
    t = doubled q s ++ q :: rest ∧ rest.head? ≠ some q := by
  fun_induction scanBody q t generalizing s with
  | case1 => cases h
  | case2 =>
    cases h
    exact ⟨rfl, nofun⟩
  | case3 => cases h
  | case4 t ih =>
    -- A quote that is doubled stands for itself, and the literal goes on behind both.
    obtain ⟨⟨u, r⟩, hu, he⟩ := Option.map_eq_some_iff.mp h
    cases he
    obtain ⟨rfl, hrest⟩ := ih hu
    exact ⟨by rw [doubled, if_pos rfl]; rfl, hrest⟩
  | case5 d t hd =>
    cases h
    exact ⟨rfl, fun he => hd (Option.some.inj he)⟩
  | case6 c d t hc ih =>
    obtain ⟨⟨u, r⟩, hu, he⟩ := Option.map_eq_some_iff.mp h
    cases he
    obtain ⟨ht, hrest⟩ := ih hu
    exact ⟨by rw [ht, doubled, if_neg hc]; rfl, hrest⟩

/-- **What the scanner reads**: the literal of a text in front of a rest, unless the rest starts with
a quote, and nothing else. -/
theorem scan_eq_some_iff :
    scan q t = some (s, rest) ↔ t = enclose q s ++ rest ∧ rest.head? ≠ some q := by
  constructor
  · intro h
    cases t with
    | nil => cases h
    | cons c t =>
      rw [scan] at h
      split at h
      · rename_i hc
        obtain ⟨ht, hrest⟩ := eq_of_scanBody h
        exact ⟨by rw [hc, ht, enclose]; simp, hrest⟩
      · cases h
  · rintro ⟨rfl, hrest⟩
    exact scan_enclose q s rest hrest

theorem scan_enclose_append_iff :
    scan q (enclose q s ++ rest) = some (s, rest) ↔ rest.head? ≠ some q := by
  rw [scan_eq_some_iff]
  exact and_iff_right rfl

/-- Where a literal ends, and what it stands for, does not depend on what follows it. -/
theorem enclose_append_inj (h : enclose q s ++ rest = enclose q t ++ rest')
    (hrest : rest.head? ≠ some q) (hrest' : rest'.head? ≠ some q) : s = t ∧ rest = rest' := by
  have hs := scan_enclose q s rest hrest
  rw [h, scan_enclose q t rest' hrest'] at hs
  cases hs
  exact ⟨rfl, rfl⟩

end Quoted

/-- The literals that `write` makes with the quote `q` delimit themselves. A scanner that knows the
quote reads the text back and leaves what follows, exactly if that does not start with the quote.
So a literal in front of a rest is that of one text and one rest only. -/
structure IsSelfDelimiting (q : Char) (write : String → String) : Prop where
  scan_iff : ∀ s rest : String,
    Quoted.scan q (write s ++ rest).toList = some (s.toList, rest.toList) ↔
      rest.toList.head? ≠ some q
  unique : ∀ s t rest rest' : String, write s ++ rest = write t ++ rest' →
    rest.toList.head? ≠ some q → rest'.toList.head? ≠ some q → s = t ∧ rest = rest'
  injective : ∀ s t : String, write s = write t → s = t

theorem isSelfDelimiting_of_toList {q : Char} {write : String → String}
    (h : ∀ s, (write s).toList = Quoted.enclose q s.toList) : IsSelfDelimiting q write := by
  have unique : ∀ s t rest rest' : String, write s ++ rest = write t ++ rest' →
      rest.toList.head? ≠ some q → rest'.toList.head? ≠ some q → s = t ∧ rest = rest' := by
    intro s t rest rest' heq hrest hrest'
    have hlist := congrArg String.toList heq
    rw [String.toList_append, String.toList_append, h, h] at hlist
    obtain ⟨hs, hr⟩ := Quoted.enclose_append_inj hlist hrest hrest'
    exact ⟨String.toList_inj.mp hs, String.toList_inj.mp hr⟩
  refine ⟨fun s rest => ?_, unique, fun s t heq => ?_⟩
  · rw [String.toList_append, h]
    exact Quoted.scan_enclose_append_iff
  · exact (unique s t "" "" (by rw [heq]) nofun nofun).1

/-- **Quoting delimits itself and can be undone**: text constants and column names are read back
whatever they hold and whatever follows them, unless it starts with the quote. -/
theorem isSelfDelimiting_quoted_identifier :
    IsSelfDelimiting '\'' quoted ∧ IsSelfDelimiting '"' identifier :=
  ⟨isSelfDelimiting_of_toList toList_quoted, isSelfDelimiting_of_toList toList_identifier⟩

/-- Quotes at both ends and in the middle of a text, and a rest that would close it once more. -/
example : Quoted.scan '\'' (quoted "''it's'" ++ ", 'x'").toList =
    some ("''it's'".toList, ", 'x'".toList) := by
  decide

end WhereClause.Text
