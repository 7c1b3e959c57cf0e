import WhereClause.Dialect
import WhereClause.Proofs.Token.Ends

/-!
# Literals as tokens

The spelling of a literal is one operand. Numbers are numerals, and texts and timestamps quoted
texts. How the truth values are spelled is up to the dialect, which may use a quoted text, a numeral
or a word that has no fixed meaning (`SpellsConstants`); the built-in dialects use numerals.

Headlines:
* `Numeral.read?_integer`, `Numeral.read?_magnitudeText`: the text of a number is one numeral. It is
  never a word such as `NaN`, because only finite numbers have literals.
* `Dialect.ofText?_literal`: the spelling of every literal is the operand `Dialect.operand`.
-/

namespace WhereClause

/-! ## Numbers -/

namespace Numeral

/-- The text holds digits, and at least one. -/
def IsDigits (s : List Char) : Prop := s ≠ [] ∧ ∀ c ∈ s, c.isDigit = true

/-- The text is digits, with or without a fraction. -/
def IsMagnitude (s : List Char) : Prop :=
  ∃ whole f, s = whole ++ f ∧ IsDigits whole ∧ (f = [] ∨ ∃ ds, f = '.' :: ds ∧ IsDigits ds)

theorem IsDigits.magnitude {s : List Char} (h : IsDigits s) : IsMagnitude s :=
  ⟨s, [], (List.append_nil s).symm, h, Or.inl rfl⟩

theorem isDigits_toDigits (n : Nat) : IsDigits (Nat.toDigits 10 n) :=
  ⟨List.length_pos_iff.mp Nat.length_toDigits_pos,
    fun _ h => Nat.isDigit_of_mem_toDigits (by decide) (by decide) h⟩

theorem IsDigits.append {s t : List Char} (hs : IsDigits s) (ht : ∀ c ∈ t, c.isDigit = true) :
    IsDigits (s ++ t) := by
  refine ⟨by simp [hs.1], fun c hc => ?_⟩
  rcases List.mem_append.mp hc with h | h
  · exact hs.2 c h
  · exact ht c h

/-- Digits end where something else follows them. -/
theorem IsDigits.span {s : List Char} (hs : IsDigits s) {rest : List Char}
    (hr : ∀ c ∈ rest.head?, c.isDigit = false) :
    (s ++ rest).takeWhile Char.isDigit = s ∧ (s ++ rest).dropWhile Char.isDigit = rest := by
  rw [List.takeWhile_append_of_pos hs.2, List.dropWhile_append_of_pos hs.2]
  cases rest with
  | nil => simp
  | cons c rest => simp [hr c rfl]

theorem magnitude?_of_isMagnitude {s : List Char} (h : IsMagnitude s) :
    magnitude? s = some (s, []) := by
  obtain ⟨whole, f, rfl, hw, hf⟩ := h
  have hhead : (whole ++ f).head?.any Char.isDigit = true := by
    obtain ⟨hne, hall⟩ := hw
    cases whole with
    | nil => exact absurd rfl hne
    | cons c _ => simpa using hall c List.mem_cons_self
  have hstop : ∀ c ∈ f.head?, c.isDigit = false := by
    rcases hf with rfl | ⟨ds, rfl, _⟩
    · exact nofun
    · rintro c ⟨⟩
      rfl
  have hfrac : fraction f = (f, []) := by
    rcases hf with rfl | ⟨ds, rfl, hds⟩
    · rfl
    · have hend : ∀ c ∈ ([] : List Char).head?, c.isDigit = false := nofun
      obtain ⟨htake, hdrop⟩ := hds.span hend
      rw [List.append_nil] at htake hdrop
      cases ds with
      | nil => exact absurd rfl hds.1
      | cons d ds => rw [fraction, if_pos (hds.2 d List.mem_cons_self), htake, hdrop]
  obtain ⟨htake, hdrop⟩ := hw.span hstop
  simp only [magnitude?, if_pos hhead, htake, hdrop, hfrac]

theorem read?_of_isMagnitude {s : List Char} (h : IsMagnitude s) : read? s = some (s, []) := by
  have hm := magnitude?_of_isMagnitude h
  obtain ⟨whole, f, rfl, ⟨hne, hall⟩, _⟩ := h
  cases whole with
  | nil => exact absurd rfl hne
  | cons c whole =>
    have hc : ¬ (c = '-' ∨ c = '+') := by
      have hd := hall c List.mem_cons_self
      rintro (rfl | rfl)
      · exact absurd hd (by decide)
      · exact absurd hd (by decide)
    rw [List.cons_append] at hm ⊢
    rw [read?, if_neg hc, hm]

theorem read?_minus {s : List Char} (h : IsMagnitude s) :
    read? ('-' :: s) = some ('-' :: s, []) := by
  rw [read?, if_pos (Or.inl rfl), magnitude?_of_isMagnitude h]
  rfl

/-- **An integer is one numeral.** -/
theorem read?_integer (n : Int) : read? (Text.integer n) = some (Text.integer n, []) := by
  have h := (isDigits_toDigits n.natAbs).magnitude
  unfold Text.integer
  split
  · exact read?_minus h
  · exact read?_of_isMagnitude h

end Numeral

namespace Binary64

open Numeral

/-- The positional text of a decimal is digits with a fraction, and nothing else. -/
theorem Decimal.isMagnitude_text (d : Decimal) : IsMagnitude d.text := by
  unfold Decimal.text
  split
  · refine ((isDigits_toDigits d.coefficient).append fun c hc => ?_).magnitude
    rw [List.eq_of_mem_replicate hc]
    rfl
  · extract_lets places digits whole fraction
    have hdigits : ∀ c ∈ digits, c.isDigit = true := fun c => Text.isDigit_of_mem_padded
    have hlen : places < digits.length := by
      simp only [digits, Text.padded, List.length_append, List.length_replicate]
      omega
    have hwhole : IsDigits whole := by
      refine ⟨fun he => ?_, fun c hc => hdigits c (List.mem_of_mem_take hc)⟩
      have h0 : whole.length = 0 := by rw [he]; rfl
      simp only [whole, List.length_take] at h0
      omega
    have hfraction : ∀ c ∈ fraction, c.isDigit = true := fun c hc =>
      hdigits c (List.mem_of_mem_drop (List.mem_reverse.mp ((List.dropWhile_sublist _).subset hc)))
    split
    · exact hwhole.magnitude
    · rename_i hne
      refine ⟨whole, _, rfl, hwhole, Or.inr ⟨fraction.reverse, rfl, ?_, fun c hc => ?_⟩⟩
      · simpa using hne
      · exact hfraction c (List.mem_reverse.mp hc)

theorem isMagnitude_magnitudeText (m k : Nat) (h : Canonical m k) :
    IsMagnitude (magnitudeText m k h) := by
  unfold magnitudeText
  split
  · exact (isDigits_toDigits 0).magnitude
  · split
    · exact Decimal.isMagnitude_text _
    · exact (isDigits_toDigits _).magnitude

/-- **A finite number is one numeral**, whatever its size. -/
theorem read?_text {x : Binary64} (h : x.isFinite = true) :
    read? x.text.toList = some (x.text.toList, []) := by
  cases x with
  | nan => cases h
  | infinite s => cases h
  | finite s m k hc =>
    rw [text, String.toList_ofList]
    split
    · exact read?_minus (isMagnitude_magnitudeText m k hc)
    · exact read?_of_isMagnitude (isMagnitude_magnitudeText m k hc)

end Binary64

/-! ## Timestamps -/

theorem Text.Quoted.doubled_of_not_mem {q : Char} {s : List Char} (h : q ∉ s) :
    doubled q s = s := by
  induction s with
  | nil => rfl
  | cons c s ih =>
    have hc : c ≠ q := fun e => h (e ▸ List.mem_cons_self)
    rw [doubled, if_neg hc, ih fun hs => h (List.mem_cons_of_mem c hs)]

namespace Timestamp

theorem quote_not_mem_padded (width n : Nat) : '\'' ∉ Text.padded width n := fun h =>
  absurd (Text.isDigit_of_mem_padded h) (by decide)

theorem quote_not_mem_yearText (year : Int) : '\'' ∉ yearText year := by
  unfold yearText
  split
  · exact quote_not_mem_padded _ _
  · split
    · simp [quote_not_mem_padded]
    · simp [quote_not_mem_padded]

/-- No timestamp is written with a quote in it. -/
theorem quote_not_mem_text (t : Timestamp) (format : TimestampFormat) : '\'' ∉ t.text format := by
  have hdate : '\'' ∉ t.dateText := by
    simp [dateText, quote_not_mem_yearText, quote_not_mem_padded]
  have htime : '\'' ∉ t.timeText := by simp [timeText, quote_not_mem_padded]
  cases format with
  | date => exact hdate
  | seconds => simp [text, hdate, htime]
  | milliseconds => simp [text, hdate, htime, quote_not_mem_padded]

end Timestamp

/-! ## Dialects -/

/-- The operand stands for a value of its own: it is no column and not null. -/
def Operand.isConstant : Operand → Bool
  | text _ | numeral _ | word _ => true
  | column _ | null => false

/-- The operand is a quoted text or a numeral. -/
def Operand.isLiteral : Operand → Bool
  | text _ | numeral _ => true
  | column _ | null | word _ => false

namespace Dialect

/-- The operand of a literal. -/
def operand (d : Dialect) : Literal → Operand
  | .null => .null
  | .bool b => (Operand.ofText? (d.truth b)).getD .null
  | .integer n => .numeral (Text.ofInt n)
  | .float x _ => .numeral x.text
  | .text s => .text s
  | .timestamp t => .text (String.ofList (t.text d.timestampFormat))

/-- Each truth value is spelled by one constant. -/
def SpellsConstants (d : Dialect) : Prop :=
  ∀ b, ∃ o, Operand.ofText? (d.truth b) = some o ∧ o.isConstant = true

/-- Each truth value is spelled by one quoted text or numeral. -/
def SpellsLiterals (d : Dialect) : Prop :=
  ∀ b, ∃ o, Operand.ofText? (d.truth b) = some o ∧ o.isLiteral = true

theorem SpellsLiterals.constants {d : Dialect} (h : d.SpellsLiterals) : d.SpellsConstants := by
  intro b
  obtain ⟨o, ho, hl⟩ := h b
  refine ⟨o, ho, ?_⟩
  cases o with
  | text | numeral => rfl
  | column | null | word => cases hl

theorem spellsLiterals_firebird : firebird.SpellsLiterals
  | true => ⟨.numeral "1", by decide +kernel, rfl⟩
  | false => ⟨.numeral "0", by decide +kernel, rfl⟩

theorem spellsLiterals_sqlite : sqlite.SpellsLiterals := spellsLiterals_firebird

variable {d : Dialect}

theorem ofText?_truth (hd : d.SpellsConstants) (b : Bool) :
    Operand.ofText? (d.truth b) = some (d.operand (.bool b)) := by
  obtain ⟨o, ho, _⟩ := hd b
  rw [operand, ho, Option.getD_some]

/-- **Every literal is spelled as its operand.** -/
theorem ofText?_literal (hd : d.SpellsConstants) (l : Literal) :
    Operand.ofText? (d.literal l) = some (d.operand l) := by
  cases l with
  | null => exact Operand.ofText?_null
  | bool b => exact ofText?_truth hd b
  | integer n => exact Operand.ofText?_numeral (Numeral.read?_integer n)
  | float x hx =>
    have h := Operand.ofText?_numeral (Binary64.read?_text hx)
    rwa [String.ofList_toList] at h
  | text s => exact Operand.ofText?_quoted s
  | timestamp t =>
    have hq : d.literal (.timestamp t) =
        Text.quoted (String.ofList (t.text d.timestampFormat)) := by
      rw [literal, Text.quoted, Text.Quoted.enclose, String.toList_ofList,
        Text.Quoted.doubled_of_not_mem (t.quote_not_mem_text _)]
      apply String.toList_inj.mp
      simp
    rw [hq]
    exact Operand.ofText?_quoted _

end Dialect

end WhereClause
