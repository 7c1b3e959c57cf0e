import WhereClause.EnumType.Discriminant
import WhereClause.Text.Numeral

/-!
# Source text of discriminants

An integer in decimal notation, between blanks and behind comments of one line, is a literal of its
own value. A minus sign is not part of the digits; what stands between the two may be blank.

Headlines:
* `isPassed_of_blanks`, `isPassed_comment`: blanks and comments of one line are passed over.
* `magnitude?_of_isDigits`: the value of a numeral is that of its digits.
* `ofSource_integer`: an integer is read back.
-/

namespace WhereClause.Discriminant

variable {b s t : List Char} {c : Char}

/-! ## Between tokens -/

/-- No visible character of ASCII stands between tokens. -/
theorem toNat_of_isBetween (h : isBetween c = true) : c.toNat ≤ 0x20 ∨ 0x80 ≤ c.toNat := by
  simp only [isBetween, Bool.or_eq_true, beq_iff_eq] at h
  rcases h with (h | rfl) | rfl
  · simp only [Text.isBlank, Bool.or_eq_true, Bool.and_eq_true, decide_eq_true_eq, beq_iff_eq] at h
    omega
  · exact Or.inr (by decide)
  · exact Or.inr (by decide)

theorem pass?_blanks (leading : Bool) (hb : ∀ c ∈ b, isBetween c = true) (s : List Char) :
    pass? leading .blanks (b ++ s) = pass? leading .blanks s := by
  induction b with
  | nil => rfl
  | cons c b ih =>
    rw [List.cons_append, pass?]
    simp only [hb c List.mem_cons_self, if_true]
    exact ih fun d hd => hb d (List.mem_cons_of_mem c hd)

/-- A comment of one line ends with it. -/
theorem pass?_line (leading : Bool) (ht : '\n' ∉ t) (s : List Char) :
    pass? leading .line (t ++ '\n' :: s) = pass? leading .blanks s := by
  induction t with
  | nil => simp [pass?]
  | cons c t ih =>
    rw [List.mem_cons, not_or] at ht
    have hc : (c == '\n') = false := by simpa using Ne.symm ht.1
    simpa [pass?, hc] using ih ht.2

/-- What may stand in front of a literal. -/
def IsPassed (front : List Char) : Prop :=
  ∀ s, pass? true .blanks (front ++ s) = pass? true .blanks s

theorem isPassed_of_blanks (hb : ∀ c ∈ b, isBetween c = true) : IsPassed b :=
  pass?_blanks true hb

theorem isPassed_comment (ht : '\n' ∉ t) (hmark : t.head? ≠ some '!') :
    IsPassed ('/' :: '/' :: (t ++ ['\n'])) := by
  intro s
  have hhead : ((t ++ '\n' :: s).head? != some '!') = true := by
    cases t with
    | nil => rfl
    | cons c t => exact bne_iff_ne.mpr hmark
  have hstarts : startsComment true '/' ('/' :: (t ++ '\n' :: s)) = true := by
    rw [startsComment, List.drop_one, List.tail_cons, hhead]
    rfl
  have htext : '/' :: '/' :: (t ++ ['\n']) ++ s = '/' :: '/' :: (t ++ '\n' :: s) := by simp
  have hbetween : isBetween '/' = false := by decide
  rw [htext, pass?]
  simp only [hbetween, hstarts, beq_self_eq_true, Bool.and_self, if_true, Bool.false_eq_true,
    if_false]
  rw [pass?]
  exact pass?_line true ht s

theorem IsPassed.append (hs : IsPassed s) (ht : IsPassed t) : IsPassed (s ++ t) :=
  fun u => by rw [List.append_assoc, hs, ht]

/-- Nothing else is passed over. -/
theorem pass?_cons (leading : Bool) (hc : isBetween c = false) (hslash : c ≠ '/') (hmark : c ≠ '#')
    (s : List Char) : pass? leading .blanks (c :: s) = some (c :: s) := by
  have hslash' : (c == '/') = false := by simpa using hslash
  have hmark' : (c == '#') = false := by simpa using hmark
  rw [pass?]
  simp only [hc, hslash', hmark', Bool.false_and, Bool.false_eq_true, if_false]

/-! ## Digits -/

theorem isBetween_of_isDigit (h : c.isDigit = true) : isBetween c = false := by
  rw [Bool.eq_false_iff]
  intro hc
  have hbounds := Text.digit_bounds h
  have hoff := toNat_of_isBetween hc
  omega

theorem ne_of_isDigit {x : Char} (h : c.isDigit = true) (hx : x.isDigit = false) : c ≠ x := by
  rintro rfl
  rw [h] at hx
  cases hx

theorem isNumeralChar_of_isDigit (h : c.isDigit = true) : isNumeralChar 10 c = true := by
  rw [isNumeralChar, Text.digit?_of_isDigit h, Option.isSome_some, Bool.or_true]

theorem isNumeralChar_of_isBetween (h : isBetween c = true) : isNumeralChar 10 c = false := by
  rw [isNumeralChar, Bool.or_eq_false_iff]
  constructor
  · exact beq_eq_false_iff_ne.mpr fun hc => absurd (hc ▸ h) (by decide)
  · rw [Option.isSome_eq_false_iff, Option.isNone_iff_eq_none, Option.eq_none_iff_forall_ne_some]
    intro d hd
    rw [isBetween_of_isDigit (Text.isDigit_of_digit? hd)] at h
    cases h

theorem toNat_of_isAlphanum (h : c.isAlphanum = true) : 0x20 < c.toNat ∧ c.toNat < 0x80 := by
  have hcases : c.isUpper = true ∨ c.isLower = true ∨ c.isDigit = true := by
    rwa [← Bool.or_eq_true, ← Bool.or_eq_true, ← Bool.or_assoc]
  rcases hcases with hupper | hlower | hdigit
  · obtain ⟨hlo, hhi⟩ := of_decide_eq_true hupper
    have hlo : 65 ≤ c.toNat := UInt32.le_iff_toNat_le.mp hlo
    have hhi : c.toNat ≤ 90 := UInt32.le_iff_toNat_le.mp hhi
    omega
  · obtain ⟨hlo, hhi⟩ := (Bool.and_eq_true _ _).mp hlower
    have hlo : 97 ≤ c.toNat := UInt32.le_iff_toNat_le.mp (of_decide_eq_true hlo)
    have hhi : c.toNat ≤ 122 := UInt32.le_iff_toNat_le.mp (of_decide_eq_true hhi)
    omega
  · have hbounds := Text.digit_bounds hdigit
    omega

theorem isWordChar_of_isBetween (h : isBetween c = true) : isWordChar c = false := by
  have hoff := toNat_of_isBetween h
  have halphanum : c.isAlphanum = false := by
    rw [Bool.eq_false_iff]
    intro hc
    have hwithin := toNat_of_isAlphanum hc
    omega
  have hunderscore : (c == '_') = false := by
    rw [beq_eq_false_iff_ne]
    rintro rfl
    exact absurd hoff (by decide)
  rw [isWordChar, halphanum, hunderscore, h, Bool.not_true, Bool.and_false]
  rfl

theorem digitsValue_of_isDigits (hs : ∀ c ∈ s, c.isDigit = true) (high : Nat) :
    digitsValue 10 high s = Nat.ofDigitChars 10 s high := by
  induction s generalizing high with
  | nil => rfl
  | cons c s ih =>
    rw [Nat.ofDigitChars_cons, ← ih fun d hd => hs d (List.mem_cons_of_mem c hd), digitsValue,
      List.foldl_cons, Text.digit?_of_isDigit (hs c List.mem_cons_self)]
    rfl

/-- What stands between tokens ends the digits of a numeral. -/
theorem span_isNumeralChar (hs : ∀ c ∈ s, c.isDigit = true) (hb : ∀ c ∈ b, isBetween c = true) :
    (s ++ b).takeWhile (isNumeralChar 10) = s ∧ (s ++ b).dropWhile (isNumeralChar 10) = b := by
  have hs' : ∀ c ∈ s, isNumeralChar 10 c = true := fun c hc => isNumeralChar_of_isDigit (hs c hc)
  have hb' : b.takeWhile (isNumeralChar 10) = [] ∧ b.dropWhile (isNumeralChar 10) = b := by
    cases b with
    | nil => exact ⟨rfl, rfl⟩
    | cons c b => simp [isNumeralChar_of_isBetween (hb c List.mem_cons_self)]
  rw [List.takeWhile_append_of_pos hs', List.dropWhile_append_of_pos hs', hb'.1, hb'.2,
    List.append_nil]
  exact ⟨rfl, rfl⟩

theorem numeral?_of_isDigits (hs : ∀ c ∈ s, c.isDigit = true) (hne : s ≠ [])
    (hb : ∀ c ∈ b, isBetween c = true) :
    numeral? 10 (s ++ b) = some (Nat.ofDigitChars 10 s 0) := by
  obtain ⟨htake, hdrop⟩ := span_isNumeralChar hs hb
  have hany : s.any (· != '_') = true := by
    cases s with
    | nil => exact absurd rfl hne
    | cons c s =>
      have hc : (c != '_') = true := bne_iff_ne.mpr (ne_of_isDigit (hs c List.mem_cons_self) rfl)
      rw [List.any_cons, hc, Bool.true_or]
  have hword : b.takeWhile isWordChar = [] ∧ b.dropWhile isWordChar = b := by
    cases b with
    | nil => exact ⟨rfl, rfl⟩
    | cons c b => simp [isWordChar_of_isBetween (hb c List.mem_cons_self)]
  have hblanks : pass? false .blanks b = some [] := by
    have h := pass?_blanks false hb []
    rwa [List.append_nil] at h
  rw [numeral?]
  simp only [htake, hdrop, hany, hword, hblanks]
  rw [digitsValue_of_isDigits hs]
  rfl

theorem magnitude?_of_isDigits (hs : ∀ c ∈ s, c.isDigit = true) (hne : s ≠ [])
    (hb : ∀ c ∈ b, isBetween c = true) :
    magnitude? (s ++ b) = some (Nat.ofDigitChars 10 s 0) := by
  -- No mark of another base follows the first digit.
  have hmark : ∀ x u, x.isDigit = false → isBetween x = false → s ++ b ≠ '0' :: x :: u := by
    intro x u hx hx' h
    have hmem : x ∈ s ++ b := by
      rw [h]
      exact List.mem_cons_of_mem _ List.mem_cons_self
    rcases List.mem_append.mp hmem with hxs | hxb
    · rw [hs x hxs] at hx
      cases hx
    · rw [hb x hxb] at hx'
      cases hx'
  have hdecimal : magnitude? (s ++ b) = numeral? 10 (s ++ b) := by
    unfold magnitude?
    split
    · rename_i u h
      exact absurd h (hmark 'x' u (by decide) (by decide))
    · rename_i u h
      exact absurd h (hmark 'o' u (by decide) (by decide))
    · rename_i u h
      exact absurd h (hmark 'b' u (by decide) (by decide))
    · rename_i u h
      cases s with
      | nil => exact absurd rfl hne
      | cons c s =>
        have hc := hs c List.mem_cons_self
        rw [(List.cons.inj h).1] at hc
        exact absurd hc (by decide)
    · rfl
  rw [hdecimal, numeral?_of_isDigits hs hne hb]

/-! ## Integers -/

variable {front back : List Char}

/-- Nothing is passed over in front of a digit. -/
theorem pass?_digits (hs : ∀ c ∈ s, c.isDigit = true) (hne : s ≠ []) (b : List Char) :
    pass? true .blanks (s ++ b) = some (s ++ b) := by
  cases s with
  | nil => exact absurd rfl hne
  | cons c s =>
    have hc := hs c List.mem_cons_self
    exact pass?_cons true (isBetween_of_isDigit hc) (ne_of_isDigit hc rfl) (ne_of_isDigit hc rfl) _

/-- A text that starts with a digit has no sign. -/
theorem ofSource_unsigned {n : Nat} (hfront : IsPassed front)
    (hs : ∀ c ∈ s, c.isDigit = true) (hne : s ≠ []) (hvalue : magnitude? (s ++ b) = some n) :
    ofSource (String.ofList (front ++ (s ++ b))) = literal false n := by
  have hminus : ∀ u, some (s ++ b) ≠ some ('-' :: u) := by
    intro u h
    cases s with
    | nil => exact hne rfl
    | cons c s =>
      have hc := hs c List.mem_cons_self
      rw [(List.cons.inj (Option.some.inj h)).1] at hc
      exact absurd hc (by decide)
  unfold ofSource
  rw [String.toList_ofList, hfront, pass?_digits hs hne]
  -- The sign is missed by `hminus`.
  simp only [Option.bind_some, hvalue]
  rfl

/-- **An integer is read back**, also between blanks and behind comments. -/
theorem ofSource_integer (hfront : IsPassed front) (hback : ∀ c ∈ back, isBetween c = true)
    (n : Int) :
    ofSource (String.ofList (front ++ (Text.integer n ++ back))) =
      literal (n < 0) n.natAbs := by
  have hdigits : ∀ c ∈ Nat.toDigits 10 n.natAbs, c.isDigit = true := fun c hc =>
    Nat.isDigit_of_mem_toDigits (by decide) (by decide) hc
  have hne : Nat.toDigits 10 n.natAbs ≠ [] := List.length_pos_iff.mp Nat.length_toDigits_pos
  have hvalue := magnitude?_of_isDigits hdigits hne hback
  rw [Nat.ofDigitChars_ten_toDigits] at hvalue
  unfold Text.integer
  split
  · rename_i hn
    have hminus : pass? true .blanks (front ++ ('-' :: Nat.toDigits 10 n.natAbs ++ back)) =
        some ('-' :: (Nat.toDigits 10 n.natAbs ++ back)) := by
      rw [hfront]
      exact pass?_cons true (by decide) (by decide) (by decide) _
    have hrest := pass?_digits hdigits hne back
    unfold ofSource
    rw [String.toList_ofList]
    simp only [hminus, hrest, Option.bind_some, hvalue, hn, decide_true]
    rfl
  · rename_i hn
    rw [ofSource_unsigned hfront hdigits hne hvalue]
    simp only [hn, decide_false]

end WhereClause.Discriminant
