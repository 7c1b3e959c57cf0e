import WhereClause.Yaml.Scalar

/-!
# Plain scalars

A plain scalar has no marks around it. It may go on over several lines, and ends before a colon that
separates, before a comment, at a line that is indented less, and at a document marker.

Headlines:
* `startsPlain_of_isOpening`, `plain?_word`: a word without indicators is read to its end.
* `plain?_colon`, `plain?_newline`, `plain?_end`: a colon in front of a space ends it, and so do the
  next line, unless that is indented, and the end of the text.
-/

namespace WhereClause.Yaml

open Placed

/-- Whether a plain scalar may start with `p`, in front of `s`. -/
def startsPlain (inFlow : Bool) (p : Placed) (s : List Placed) : Bool :=
  if p.char == '-' then !s.head?.any (isSpace ·.char)
  else if p.char == '?' || p.char == ':' then !inFlow && !atSeparator s
  else !isSeparator p.char && !isFlowIndicator p.char && !"#&*!|>'\"%@`".toList.contains p.char

/-- Whether a plain scalar ends before `p`, in front of `s`: a colon that separates, or an indicator
of a flow collection within one. -/
def endsPlain (inFlow : Bool) (p : Placed) (s : List Placed) : Bool :=
  (p.char == ':' && atSeparator s) || (inFlow && isFlowIndicator p.char)

/-- Whether a plain scalar, within a line or at the start of one, ends before `p :: s` for what was
passed in front of it. -/
def endsPlainLine (inFlow : Bool) (indent : Nat) (p : Placed) (s : List Placed) : Bool :=
  (!inFlow && p.column < indent) || atMarker (p :: s) || p.char == '#'

/-- Whether `p`, in front of `s`, is a colon in a flow collection that neither separates nor belongs
to the scalar. -/
def isStrayColon (inFlow : Bool) (p : Placed) (s : List Placed) : Bool :=
  inFlow && p.char == ':' && s.head?.any fun q => isFlowIndicator q.char || q.char == '?'

/-- A plain scalar: its text, whether a break was passed behind it, and what follows. -/
structure Plain where
  text : String
  broke : Bool
  rest : List Placed
  deriving Repr, DecidableEq

/-- Reads a plain scalar whose further lines are indented by at least `indent`. Tabs are no
indentation. -/
def plain? (inFlow : Bool) (indent : Nat) (d : Draft) : List Placed → Option Plain
  | [] => some ⟨d.text, d.gap.isBroken, []⟩
  | p :: s =>
    if isSeparator p.char then
      if d.gap.isBroken && p.char == '\t' && p.column < indent then none
      else plain? inFlow indent (d.pass p.char) s
    else if !d.gap.isEmpty && endsPlainLine inFlow indent p s then
      some ⟨d.text, d.gap.isBroken, p :: s⟩
    else if isStrayColon inFlow p s then none
    else if endsPlain inFlow p s then some ⟨d.text, d.gap.isBroken, p :: s⟩
    else plain? inFlow indent (d.put p.char) s

theorem plain?_of_colon (indent : Nat) (d : Draft) {p : Placed} {s : List Placed}
    (hp : p.char = ':') (hs : atSeparator s = true) :
    plain? false indent d (p :: s) = some ⟨d.text, d.gap.isBroken, p :: s⟩ := by
  have hc : isSeparator ':' = false := by decide
  simp [plain?, isStrayColon, endsPlain, hp, hs, hc]

/-! ## Words -/

/-- A character that has no meaning of its own within a word. -/
def isWordChar (c : Char) : Bool := isKept c && !isSeparator c && c != ':'

/-- A character that a word may start with. -/
def isOpening (c : Char) : Bool :=
  isWordChar c && !".\ufeff-?,[]\x7b\x7d".toList.contains c && !"#&*!|>'\"%@`".toList.contains c

/-- A word that can be written without quotes. -/
structure IsWord (w : List Char) : Prop where
  all : ∀ c ∈ w, isWordChar c = true
  opening : ∃ c s, w = c :: s ∧ isOpening c = true

theorem isSeparator_of_isWordChar {c : Char} (h : isWordChar c = true) : isSeparator c = false := by
  simp only [isWordChar, Bool.and_eq_true, Bool.not_eq_true'] at h
  exact h.1.2

theorem isWordChar_of_isOpening {c : Char} (h : isOpening c = true) : isWordChar c = true := by
  simp only [isOpening, Bool.and_eq_true] at h
  exact h.1.1

theorem isKept_of_isWordChar {c : Char} (h : isWordChar c = true) : isKept c = true := by
  simp only [isWordChar, Bool.and_eq_true] at h
  exact h.1.1

theorem startsPlain_of_isOpening {p : Placed} (hp : isOpening p.char = true) (s : List Placed) :
    startsPlain false p s = true := by
  have hseparator := isSeparator_of_isWordChar (isWordChar_of_isOpening hp)
  have hne : ∀ x, isOpening x = false → (p.char == x) = false := fun x => beq_eq_false_of_kind hp
  have hindicator : (!"#&*!|>'\"%@`".toList.contains p.char) = true := by
    simp only [isOpening, Bool.and_eq_true] at hp
    exact hp.2
  unfold startsPlain isFlowIndicator
  simp only [hseparator, hne '-' (by decide), hne '?' (by decide), hne ':' (by decide),
    hne ',' (by decide), hne '[' (by decide), hne ']' (by decide), hne '{' (by decide),
    hne '}' (by decide), hindicator, Bool.or_self, Bool.not_false, Bool.and_self,
    Bool.false_eq_true, if_false]

variable {line column n : Nat} {d : Draft} {s w : List Char}

/-- **A word is read to its end**, behind which it may go on or stop. -/
theorem plain?_word (line column : Nat) (hw : ∀ c ∈ w, isWordChar c = true)
    (hd : d.gap = .spaces []) :
    plain? false n d (place line column [] (w ++ s)) =
      plain? false n ⟨w.reverse ++ d.written, .spaces []⟩
        (place line (column + w.length) [] s) := by
  induction w generalizing column d with
  | nil =>
    obtain ⟨written, gap⟩ := d
    cases hd
    rfl
  | cons c w ih =>
    have hc := hw c List.mem_cons_self
    have hseparator := isSeparator_of_isWordChar hc
    have hcolon : (c == ':') = false := beq_eq_false_of_kind hc (by decide)
    have hput : d.put c = ⟨c :: d.written, .spaces []⟩ := by
      simp [Draft.put, Draft.settle, hd, Gap.folded, Gap.literal]
    rw [List.cons_append, place_cons, isBreak_of_isSeparator hseparator,
      if_neg Bool.false_ne_true, plain?]
    simp only [hseparator, hd, Gap.isEmpty, isStrayColon, endsPlain, hcolon, hput,
      Bool.false_and, Bool.or_self, Bool.false_eq_true, if_false, List.isEmpty_nil, Bool.not_true]
    rw [ih (column + 1) (fun x hx => hw x (List.mem_cons_of_mem c hx)) rfl]
    simp only [List.reverse_cons, List.append_assoc, List.singleton_append, List.length_cons]
    rw [Nat.add_assoc, Nat.add_comm 1]

/-- A colon in front of a space ends a word. -/
theorem plain?_colon (hd : d.gap = .spaces []) :
    plain? false n d (place line column [] (':' :: ' ' :: s)) =
      some ⟨d.text, false, place line column [] (':' :: ' ' :: s)⟩ := by
  have hseparator : atSeparator (place line (column + 1) [] (' ' :: s)) = true := by
    rw [place_cons]
    rfl
  rw [place_cons, if_neg (by decide), plain?_of_colon n d rfl hseparator, hd]
  rfl

/-- A text ends a word where it ends itself. -/
theorem plain?_end (hd : d.gap = .spaces []) :
    plain? false n d (place line column [] []) = some ⟨d.text, false, []⟩ := by
  rw [place, List.reverse_nil, plain?, hd]
  rfl

/-- A break ends a word, unless the next line is indented. -/
theorem plain?_newline (hd : d.gap = .spaces []) (hs : s.head?.all (!isSeparator ·) = true) :
    plain? false 1 d (place line column [] ('\n' :: s)) =
      some ⟨d.text, true, place (line + 1) 0 [] s⟩ := by
  have hbreak : plain? false 1 d (place line column [] ('\n' :: s)) =
      plain? false 1 { d with gap := .breaks (some '\n') [] } (place (line + 1) 0 [] s) := by
    rw [place_cons, if_pos (by decide), plain?]
    simp [hd, Gap.isBroken, Draft.pass, Gap.pass, isSeparator, isBreak]
  rw [hbreak]
  cases s with
  | nil => rfl
  | cons c s =>
    have hc : isSeparator c = false := by simpa using hs
    rw [place_cons, plain?]
    simp [hc, Gap.isEmpty, endsPlainLine, Draft.text, Gap.isBroken]

end WhereClause.Yaml
