/-!
# YAML text

The characters of a YAML text, each with its line and column, and the small classes of characters
that all of YAML's rules are made of.

Headlines:
* `Placed.ofText?_eq`: characters that stand for themselves are placed as they are.
* `Placed.place_cons`: a break starts the next line.
-/

namespace WhereClause.Yaml

/-! ## Characters -/

/-- Whether a character may stand in a YAML text. -/
def isPermitted (c : Char) : Bool :=
  let n := c.toNat
  n == 0x09 || n == 0x0A || n == 0x0D || (0x20 ≤ n && n ≤ 0x7E) || n == 0x85 ||
    (0xA0 ≤ n && n ≤ 0xFFFD) || 0x10000 ≤ n

/-- A space or a tab. -/
def isSpace (c : Char) : Bool := c == ' ' || c == '\t'

/-- Whether a character ends a line. Of the other line ends, `normalize` makes line feeds. -/
def isBreak (c : Char) : Bool := c == '\n' || c == '\u2028' || c == '\u2029'

/-- A space, a tab or a break. -/
def isSeparator (c : Char) : Bool := isSpace c || isBreak c

/-- A character of a name: an ASCII letter or digit, a hyphen or an underscore. -/
def isNameChar (c : Char) : Bool := c.isAlphanum || c == '-' || c == '_'

/-- Whether a character has a meaning of its own within a flow collection. -/
def isFlowIndicator (c : Char) : Bool :=
  c == ',' || c == '[' || c == ']' || c == '{' || c == '}'

/-- A character that may stand in a text, and stands for itself. -/
def isKept (c : Char) : Bool := isPermitted c && c != '\r' && c != '\u0085'

/-- The text with a line feed for a carriage return, with or without a line feed behind it, and for
a next-line character. The characters read so far come last first. -/
def normalize (behindReturn : Bool) (done : List Char) : List Char → List Char
  | [] => done.reverse
  | c :: s =>
    if behindReturn && c == '\n' then normalize false done s
    else
      let shown := if c == '\r' || c == '\u0085' then '\n' else c
      normalize (c == '\r') (shown :: done) s

theorem isBreak_of_isSeparator {c : Char} (h : isSeparator c = false) : isBreak c = false := by
  simp only [isSeparator, Bool.or_eq_false_iff] at h
  exact h.2

/-- A character of some kind is none that is not of that kind. -/
theorem beq_eq_false_of_kind {kind : Char → Bool} {c x : Char} (hc : kind c = true)
    (hx : kind x = false) : (c == x) = false := by
  rw [beq_eq_false_iff_ne]
  rintro rfl
  rw [hc] at hx
  cases hx

theorem normalize_eq {s : List Char} (h : ∀ c ∈ s, isKept c = true) (done : List Char) :
    normalize false done s = done.reverse ++ s := by
  induction s generalizing done with
  | nil => simp [normalize]
  | cons c s ih =>
    have hc := h c List.mem_cons_self
    simp only [isKept, Bool.and_eq_true, bne_iff_ne] at hc
    have hreturn : (c == '\r') = false := by simpa using hc.1.2
    simp [normalize, hc.2, hreturn, ih fun d hd => h d (List.mem_cons_of_mem c hd)]

/-! ## Places -/

/-- A character with the place where it stands. -/
structure Placed where
  char : Char
  line : Nat
  column : Nat
  deriving Repr, DecidableEq

namespace Placed

/-- Gives each character its place, from the place of the first one on. The characters placed so
far come last first. -/
def place (line column : Nat) (done : List Placed) : List Char → List Placed
  | [] => done.reverse
  | c :: s =>
    let placed := ⟨c, line, column⟩ :: done
    if isBreak c then place (line + 1) 0 placed s else place line (column + 1) placed s

theorem place_eq (line column : Nat) (done : List Placed) (s : List Char) :
    place line column done s = done.reverse ++ place line column [] s := by
  induction s generalizing line column done with
  | nil => simp [place]
  | cons c s ih =>
    rw [place, place]
    split
    · rw [ih _ _ [_], ih]
      simp
    · rw [ih _ _ [_], ih]
      simp

theorem place_cons (line column : Nat) (c : Char) (s : List Char) :
    place line column [] (c :: s) = ⟨c, line, column⟩ ::
      if isBreak c then place (line + 1) 0 [] s else place line (column + 1) [] s := by
  rw [place]
  split
  · rw [place_eq]
    rfl
  · rw [place_eq]
    rfl

theorem length_place (line column : Nat) (s : List Char) :
    (place line column [] s).length = s.length := by
  induction s generalizing line column with
  | nil => rfl
  | cons c s ih =>
    rw [place_cons, List.length_cons, List.length_cons]
    split <;> rw [ih]

/-- The placed characters of a text, unless one of them may not stand in it. -/
def ofText? (text : String) : Option (List Placed) :=
  if text.toList.all isPermitted then some (place 0 0 [] (normalize false [] text.toList)) else none

/-- Characters that stand for themselves are placed as they are. -/
theorem ofText?_eq {s : List Char} (h : ∀ c ∈ s, isKept c = true) :
    ofText? (String.ofList s) = some (place 0 0 [] s) := by
  have hpermitted : s.all isPermitted = true := by
    rw [List.all_eq_true]
    intro c hc
    have hkept := h c hc
    simp only [isKept, Bool.and_eq_true] at hkept
    exact hkept.1.1
  rw [ofText?, String.toList_ofList, if_pos hpermitted, normalize_eq h]
  rfl

/-- Whether the next character is the given one. -/
def isNext (c : Char) (s : List Placed) : Bool := s.head?.any (·.char == c)

/-- Whether a text starts with a separator, or is at its end. -/
def atSeparator (s : List Placed) : Bool := s.head?.all (isSeparator ·.char)

/-- Whether a line starts with three times the given character and a separator. -/
def isMarker (mark : Char) : List Placed → Bool
  | p :: q :: r :: s =>
    p.column == 0 && p.char == mark && q.char == mark && r.char == mark && atSeparator s
  | _ => false

/-- Whether a line starts with the marker of a document's start or end. -/
def atMarker (s : List Placed) : Bool := isMarker '-' s || isMarker '.' s

theorem isMarker_eq_false {mark : Char} {p : Placed}
    (hp : (p.column == 0 && p.char == mark) = false) (t : List Placed) :
    isMarker mark (p :: t) = false := by
  unfold isMarker
  split
  · rename_i heq
    cases heq
    rw [hp]
    rfl
  · rfl

theorem atMarker_of_column {p : Placed} (hp : 0 < p.column) (t : List Placed) :
    atMarker (p :: t) = false := by
  have hcolumn : (p.column == 0) = false := by simpa using Nat.ne_of_gt hp
  rw [atMarker, isMarker_eq_false (by rw [hcolumn]; rfl), isMarker_eq_false (by rw [hcolumn]; rfl)]
  rfl

/-- The text behind its leading spaces and tabs. -/
def dropSpaces (s : List Placed) : List Placed := s.dropWhile (isSpace ·.char)

/-- The text from the next line on, if nothing but blanks and a comment is left on this one. -/
def nextLine? (s : List Placed) : Option (List Placed) :=
  let behind := dropSpaces s
  let ending := if isNext '#' behind then behind.dropWhile (!isBreak ·.char) else behind
  match ending with
  | [] => some []
  | p :: t => if isBreak p.char then some t else none

end Placed

end WhereClause.Yaml
