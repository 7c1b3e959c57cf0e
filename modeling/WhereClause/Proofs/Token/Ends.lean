import WhereClause.Proofs.Token

/-!
# Tokens in front of other text

A text that is one token is read as that token in front of everything that does not extend it. What
follows an operand or a word in a predicate is a blank, a parenthesis, a comma or an equals sign,
and none of them extends either (`Ends`). Marks stand between blanks, or are single characters.

Headlines:
* `Token.lex_append_of_ends`: a token that makes up a text is read in front of every ending.
* `Operand.lex_operand`, `Token.lex_keyword`, `Token.lex_mark`: the same for each kind of token.
-/

namespace WhereClause

/-! ## Texts that end a token -/

/-- The text extends no token in front of it but a mark: it is empty, or starts with a blank or with
one of the marks that stand directly behind an operand. -/
def Ends (s : List Char) : Prop := ∀ c ∈ s.head?, c ∈ [' ', '(', ')', ',', '=']

theorem ends_nil : Ends [] := nofun

theorem ends_cons {c : Char} (h : c ∈ [' ', '(', ')', ',', '=']) (s : List Char) :
    Ends (c :: s) := by
  intro d hd
  cases hd
  exact h

/-- A class of characters that no ending belongs to stops at the ending. -/
theorem Ends.span {rest : List Char} (hr : Ends rest) {p : Char → Bool}
    (hp : [' ', '(', ')', ',', '='].all (!p ·) = true) {s : List Char}
    (hs : s.dropWhile p = []) :
    (s ++ rest).takeWhile p = s.takeWhile p ∧ (s ++ rest).dropWhile p = rest := by
  have hall : s.takeWhile p = s := by
    have h := List.takeWhile_append_dropWhile (p := p) (l := s)
    rwa [hs, List.append_nil] at h
  have hstop : rest.takeWhile p = [] ∧ rest.dropWhile p = rest := by
    cases rest with
    | nil => exact ⟨rfl, rfl⟩
    | cons c rest =>
      have hc : p c = false := by simpa using List.all_eq_true.mp hp c (hr c rfl)
      simp [hc]
  constructor
  · rw [List.takeWhile_append, if_pos (by rw [hall]), hstop.1, List.append_nil, hall]
  · rw [List.dropWhile_append, if_pos (by rw [hs]; rfl), hstop.2]

/-- A class of characters that ends within a text ends there whatever follows the text. -/
theorem span_append {p : Char → Bool} {s : List Char} (hs : s.dropWhile p ≠ []) (rest : List Char) :
    (s ++ rest).takeWhile p = s.takeWhile p ∧
      (s ++ rest).dropWhile p = s.dropWhile p ++ rest := by
  have hlen : (s.takeWhile p).length ≠ s.length := by
    intro he
    have h := congrArg List.length (List.takeWhile_append_dropWhile (p := p) (l := s))
    rw [List.length_append] at h
    exact hs (List.eq_nil_of_length_eq_zero (by omega))
  rw [List.takeWhile_append, if_neg hlen, List.dropWhile_append, if_neg (by simpa using hs)]
  exact ⟨rfl, rfl⟩

theorem Text.Quoted.scanBody_append {q : Char} {s : List Char} {r : List Char}
    (h : scanBody q s = some (r, [])) {rest : List Char} (hr : rest.head? ≠ some q) :
    scanBody q (s ++ rest) = some (r, rest) := by
  fun_induction scanBody q s generalizing r with
  | case1 => cases h
  | case2 =>
    cases h
    exact scanBody_doubled q [] rest hr
  | case3 => cases h
  | case4 s ih =>
    obtain ⟨u, hu, he⟩ := Option.map_eq_some_iff.mp h
    obtain ⟨a, b⟩ := u
    cases he
    rw [List.cons_append, List.cons_append, scanBody, if_pos rfl, if_pos rfl, ih hu]
    rfl
  | case5 => cases h
  | case6 c d s hc ih =>
    obtain ⟨u, hu, he⟩ := Option.map_eq_some_iff.mp h
    obtain ⟨a, b⟩ := u
    cases he
    rw [List.cons_append, List.cons_append, scanBody, if_neg hc, ← List.cons_append, ih hu]
    rfl

namespace Numeral

theorem fraction_of_ends {rest : List Char} (hr : Ends rest) : fraction rest = ([], rest) := by
  unfold fraction
  split
  · exact absurd (hr '.' rfl) (by decide)
  · rfl

theorem fraction_append_of_ends {s f : List Char} (h : fraction s = (f, [])) {rest : List Char}
    (hr : Ends rest) : fraction (s ++ rest) = (f, rest) := by
  unfold fraction at h
  split at h
  · rename_i d s
    split at h
    · rename_i hd
      obtain ⟨rfl, hdrop⟩ := Prod.mk.inj h
      obtain ⟨htake, hrest⟩ := hr.span (p := Char.isDigit) rfl hdrop
      rw [List.cons_append, List.cons_append, fraction, if_pos hd, ← List.cons_append, htake, hrest]
    · cases h
  · cases h
    exact fraction_of_ends hr

theorem magnitude?_append_of_ends {s n : List Char} (h : magnitude? s = some (n, []))
    {rest : List Char} (hr : Ends rest) : magnitude? (s ++ rest) = some (n, rest) := by
  unfold magnitude? at h
  split at h
  · rename_i hs
    obtain ⟨rfl, hf⟩ := Prod.mk.inj (Option.some.inj h)
    have hs' : (s ++ rest).head?.any Char.isDigit = true := by
      cases s with
      | nil => cases hs
      | cons c s => exact hs
    rw [magnitude?, if_pos hs']
    by_cases hd : s.dropWhile Char.isDigit = []
    · obtain ⟨htake, hrest⟩ := hr.span (p := Char.isDigit) rfl hd
      simp only [htake, hrest, fraction_of_ends hr]
      rw [hd]
      rfl
    · obtain ⟨htake, hrest⟩ := span_append hd rest
      have hfr := fraction_append_of_ends (s := s.dropWhile Char.isDigit) (Prod.ext rfl hf) hr
      simp only [htake, hrest, hfr]
  · cases h

theorem read?_append_of_ends {s n : List Char} (h : read? s = some (n, [])) {rest : List Char}
    (hr : Ends rest) : read? (s ++ rest) = some (n, rest) := by
  cases s with
  | nil => cases h
  | cons c s =>
    rw [read?] at h
    rw [List.cons_append, read?]
    split at h
    · rename_i hc
      obtain ⟨u, hu, he⟩ := Option.map_eq_some_iff.mp h
      obtain ⟨a, b⟩ := u
      cases he
      rw [if_pos hc, magnitude?_append_of_ends hu hr]
      rfl
    · rename_i hc
      rw [if_neg hc, ← List.cons_append, magnitude?_append_of_ends h hr]

end Numeral

namespace Token

/-- A token that makes up a text is the first one of that text with an ending behind it. Marks are
left out because `<` in front of `=` is another mark. -/
theorem next?_append_of_ends {s : List Char} {t : Token} (h : next? s = some (t, []))
    (ht : ∀ m, t ≠ mark m) {rest : List Char} (hr : Ends rest) :
    next? (s ++ rest) = some (t, rest) := by
  have hq : ∀ q, q ∉ [' ', '(', ')', ',', '='] → rest.head? ≠ some q := fun q hq e => hq (hr q e)
  cases s with
  | nil => cases h
  | cons c s =>
    rw [next?] at h
    rw [List.cons_append, next?]
    by_cases h1 : c = '\''
    · rw [if_pos h1] at h ⊢
      obtain ⟨⟨a, b⟩, hu, he⟩ := Option.map_eq_some_iff.mp h
      cases he
      rw [Text.Quoted.scanBody_append hu (hq '\'' (by decide))]
      rfl
    · rw [if_neg h1] at h ⊢
      by_cases h2 : c = '"'
      · rw [if_pos h2] at h ⊢
        obtain ⟨⟨a, b⟩, hu, he⟩ := Option.map_eq_some_iff.mp h
        cases he
        rw [Text.Quoted.scanBody_append hu (hq '"' (by decide))]
        rfl
      · rw [if_neg h2] at h ⊢
        by_cases h3 : startsWord c = true
        · rw [if_pos h3] at h ⊢
          obtain ⟨rfl, hdrop⟩ := Prod.mk.inj (Option.some.inj h)
          obtain ⟨htake, hrest⟩ := hr.span (p := isWordChar) rfl hdrop
          rw [htake, hrest]
        · rw [if_neg h3] at h ⊢
          cases hn : Numeral.read? (c :: s) with
          | some u =>
            obtain ⟨n, b⟩ := u
            rw [hn] at h
            cases h
            rw [← List.cons_append, Numeral.read?_append_of_ends hn hr]
          | none =>
            rw [hn] at h
            obtain ⟨⟨m, b⟩, _, he⟩ := Option.map_eq_some_iff.mp h
            cases he
            exact absurd rfl (ht m)

/-! ## Reading on -/

theorem next?_blank {c : Char} (hc : c.isWhitespace = true) (s : List Char) :
    next? (c :: s) = none := by
  simp only [Char.isWhitespace, Bool.or_eq_true, decide_eq_true_eq] at hc
  rcases hc with ((rfl | rfl) | rfl) | rfl <;> rfl

@[simp] theorem lex_nil : lex [] = some [] := by
  rw [lex]

@[simp] theorem lex_blank (s : List Char) : lex (' ' :: s) = lex s := by
  rw [lex, if_pos (by decide)]

theorem lex_of_next? {s rest : List Char} {t : Token} (h : next? s = some (t, rest)) :
    lex s = (lex rest).map (t :: ·) := by
  cases s with
  | nil => cases h
  | cons c s =>
    have hc : ¬ c.isWhitespace = true := fun e => by
      rw [next?_blank e] at h
      cases h
    rw [lex, if_neg hc]
    split
    · rename_i hn
      rw [h] at hn
      cases hn
    · rename_i hn
      rw [h] at hn
      cases hn
      rfl

/-- **A token that makes up a text is read in front of every ending.** -/
theorem lex_append_of_ends {s : List Char} {t : Token} (h : next? s = some (t, []))
    (ht : ∀ m, t ≠ mark m) {rest : List Char} (hr : Ends rest) :
    lex (s ++ rest) = (lex rest).map (t :: ·) :=
  lex_of_next? (next?_append_of_ends h ht hr)

theorem next?_keyword (k : Keyword) : next? k.text.toList = some (keyword k, []) := by
  cases k <;> decide +kernel

theorem lex_keyword (k : Keyword) {rest : List Char} (hr : Ends rest) :
    lex (k.text.toList ++ rest) = (lex rest).map (keyword k :: ·) :=
  lex_append_of_ends (next?_keyword k) nofun hr

@[simp] theorem lex_leftParen (s : List Char) :
    lex ('(' :: s) = (lex s).map (mark .leftParen :: ·) :=
  lex_of_next? rfl

@[simp] theorem lex_rightParen (s : List Char) :
    lex (')' :: s) = (lex s).map (mark .rightParen :: ·) :=
  lex_of_next? rfl

@[simp] theorem lex_comma (s : List Char) : lex (',' :: s) = (lex s).map (mark .comma :: ·) :=
  lex_of_next? rfl

@[simp] theorem lex_eq (s : List Char) : lex ('=' :: s) = (lex s).map (mark .eq :: ·) :=
  lex_of_next? rfl

/-- In front of a blank every mark is read. -/
theorem lex_mark (m : Mark) (s : List Char) :
    lex (m.text ++ ' ' :: s) = (lex s).map (mark m :: ·) := by
  have h : next? (m.text ++ ' ' :: s) = some (mark m, ' ' :: s) := by cases m <;> rfl
  rw [lex_of_next? h, lex_blank]

end Token

/-! ## Operands -/

/-- A digit starts no word. -/
theorem startsWord_of_isDigit {c : Char} (h : c.isDigit = true) : startsWord c = false := by
  have hword : startsWord c =
      (decide (65 ≤ c.val ∧ c.val ≤ 90) ||
        decide (97 ≤ c.val) && decide (c.val ≤ 122) || c == '_') := rfl
  refine Bool.eq_false_iff.mpr fun hw => ?_
  simp only [Char.isDigit, Bool.and_eq_true, decide_eq_true_eq] at h
  simp only [hword, Bool.or_eq_true, Bool.and_eq_true, decide_eq_true_eq, beq_iff_eq] at hw
  rcases hw with (hu | hl) | rfl
  · exact absurd (UInt32.le_trans hu.1 h.2) (by decide)
  · exact absurd (UInt32.le_trans hl.1 h.2) (by decide)
  · exact absurd h.2 (by decide)

/-- A numeral starts with a sign or a digit. -/
theorem Numeral.read?_head {c : Char} {s : List Char} {r : List Char × List Char}
    (h : Numeral.read? (c :: s) = some r) : c = '-' ∨ c = '+' ∨ c.isDigit = true := by
  rw [Numeral.read?] at h
  split at h
  · rename_i hc
    exact hc.imp_right Or.inl
  · unfold Numeral.magnitude? at h
    split at h
    · rename_i hd
      exact Or.inr (Or.inr (by simpa using hd))
    · cases h

namespace Operand

/-- The operand that makes up a text, if one does. -/
def ofText? (s : String) : Option Operand :=
  match Token.next? s.toList with
  | some (.operand o, []) => some o
  | _ => none

theorem ofText?_eq_some_iff {s : String} {o : Operand} :
    ofText? s = some o ↔ Token.next? s.toList = some (.operand o, []) := by
  unfold ofText?
  split
  · rename_i h
    rw [h]
    simp
  · rename_i h
    exact ⟨nofun, fun e => absurd e (h o)⟩

theorem lex_operand {s : String} {o : Operand} (h : ofText? s = some o) {rest : List Char}
    (hr : Ends rest) : Token.lex (s.toList ++ rest) = (Token.lex rest).map (.operand o :: ·) :=
  Token.lex_append_of_ends (ofText?_eq_some_iff.mp h) nofun hr

theorem ofText?_quoted (s : String) : ofText? (Text.quoted s) = some (.text s) := by
  have h := Text.Quoted.scanBody_doubled '\'' s.toList [] nofun
  rw [ofText?_eq_some_iff, Text.toList_quoted, Text.Quoted.enclose, Token.next?, if_pos rfl, h,
    Option.map_some, String.ofList_toList]

theorem ofText?_identifier (s : String) : ofText? (Text.identifier s) = some (.column s) := by
  have h := Text.Quoted.scanBody_doubled '"' s.toList [] nofun
  rw [ofText?_eq_some_iff, Text.toList_identifier, Text.Quoted.enclose, Token.next?,
    if_neg (by decide), if_pos rfl, h, Option.map_some, String.ofList_toList]

theorem ofText?_null : ofText? "null" = some .null := by
  decide +kernel

/-- A numeral makes up its text. -/
theorem ofText?_numeral {s : List Char} (h : Numeral.read? s = some (s, [])) :
    ofText? (String.ofList s) = some (.numeral (String.ofList s)) := by
  rw [ofText?_eq_some_iff, String.toList_ofList]
  cases s with
  | nil => cases h
  | cons c s =>
    have hc : c ≠ '\'' ∧ c ≠ '"' ∧ startsWord c = false := by
      rcases Numeral.read?_head h with rfl | rfl | hd
      · decide
      · decide
      · refine ⟨?_, ?_, startsWord_of_isDigit hd⟩
        · rintro rfl
          exact absurd hd (by decide)
        · rintro rfl
          exact absurd hd (by decide)
    rw [Token.next?, if_neg hc.1, if_neg hc.2.1, if_neg (Bool.eq_false_iff.mp hc.2.2), h]

end Operand

end WhereClause
