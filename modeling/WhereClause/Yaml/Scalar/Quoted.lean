import WhereClause.Text.Digit
import WhereClause.Text.Quoted
import WhereClause.Yaml.Scalar

/-!
# Quoted scalars

Scalars between single or double quotes. Within single quotes a quote is written twice; within
double quotes a backslash starts an escape, and takes away a break behind it. In both, lines are
folded, and no line starts with a document marker.

Headlines:
* `singleQuoted?_doubled`: a text between single quotes is read back, if it has no breaks.
-/

namespace WhereClause.Yaml

open Placed

/-! ## Single quotes -/

/-- Reads a single-quoted scalar behind its opening quote, and what follows the closing one. -/
def singleQuoted? (d : Draft) : List Placed → Option (String × List Placed)
  | [] => none
  | p :: s =>
    if isSeparator p.char then singleQuoted? (d.pass p.char) s
    else if atMarker (p :: s) then none
    else if p.char == '\'' then
      match s with
      | q :: t =>
        if q.char == '\'' then singleQuoted? (d.put '\'') t else some (d.settle.text, q :: t)
      | [] => some (d.settle.text, [])
    else singleQuoted? (d.put p.char) s

theorem singleQuoted?_quote (d : Draft) {p q : Placed} (s : List Placed) (hp : p.char = '\'')
    (hq : q.char = '\'') : singleQuoted? d (p :: q :: s) = singleQuoted? (d.put '\'') s := by
  have h : isSeparator '\'' = false := by decide
  have hm : atMarker (p :: q :: s) = false := by
    cases s <;> simp [atMarker, isMarker, hp]
  rw [singleQuoted?]
  simp [hp, hq, h, hm]

/-- A character that may stand in a line. -/
def isLineChar (c : Char) : Bool := isKept c && !isBreak c

theorem isBreak_of_isLineChar {c : Char} (h : isLineChar c = true) : isBreak c = false := by
  simp only [isLineChar, Bool.and_eq_true, Bool.not_eq_true'] at h
  exact h.2

theorem isKept_of_isLineChar {c : Char} (h : isLineChar c = true) : isKept c = true := by
  simp only [isLineChar, Bool.and_eq_true] at h
  exact h.1

variable {line column : Nat} {d : Draft} {s w : List Char}

theorem singleQuoted?_separator {p : Placed} (hp : isSeparator p.char = true) (t : List Placed) :
    singleQuoted? d (p :: t) = singleQuoted? (d.pass p.char) t := by
  rw [singleQuoted?.eq_def]
  exact if_pos hp

theorem singleQuoted?_char {p : Placed} (hseparator : isSeparator p.char = false)
    (hcolumn : 0 < p.column) (hquote : p.char ≠ '\'') (t : List Placed) :
    singleQuoted? d (p :: t) = singleQuoted? (d.put p.char) t := by
  have hp : (p.char == '\'') = false := by simpa using hquote
  rw [singleQuoted?.eq_def]
  simp only [hseparator, atMarker_of_column hcolumn, hp, Bool.false_eq_true, if_false]

theorem singleQuoted?_end (hcolumn : 0 < column) (hs : s.head? ≠ some '\'') :
    singleQuoted? d (place line column [] ('\'' :: s)) =
      some (d.settle.text, place line (column + 1) [] s) := by
  have hquote : isSeparator '\'' = false := by decide
  have hmarker : ∀ t, atMarker (⟨'\'', line, column⟩ :: t) = false := atMarker_of_column hcolumn
  rw [place_cons, if_neg (by decide), singleQuoted?.eq_def]
  simp only [hquote, hmarker, Bool.false_eq_true, if_false, beq_self_eq_true, if_true]
  cases s with
  | nil => rfl
  | cons c s =>
    have hc : (c == '\'') = false := by simpa using hs
    rw [place_cons]
    simp only [hc, Bool.false_eq_true, if_false]

/-- **A text between single quotes is read back.** -/
theorem singleQuoted?_doubled (line : Nat) (hw : ∀ c ∈ w, isLineChar c = true)
    (hcolumn : 0 < column) {passed : List Char} (hd : d.gap = .spaces passed)
    (hs : s.head? ≠ some '\'') :
    ∃ k, singleQuoted? d (place line column [] (Text.Quoted.doubled '\'' w ++ '\'' :: s)) =
      some (String.ofList (d.settle.written.reverse ++ w), place line k [] s) := by
  induction w generalizing column d passed with
  | nil =>
    refine ⟨column + 1, ?_⟩
    rw [Text.Quoted.doubled, List.nil_append, singleQuoted?_end hcolumn hs, List.append_nil]
    rfl
  | cons c w ih =>
    have hw' : ∀ x ∈ w, isLineChar x = true := fun x hx => hw x (List.mem_cons_of_mem c hx)
    have hbreak := isBreak_of_isLineChar (hw c List.mem_cons_self)
    by_cases hc : c = '\''
    · subst hc
      obtain ⟨k, hk⟩ := ih hw' (show 0 < column + 1 + 1 by omega) (d := d.put '\'') rfl
      refine ⟨k, ?_⟩
      rw [Text.Quoted.doubled, if_pos rfl, List.cons_append, List.cons_append, place_cons,
        if_neg (by decide), place_cons, if_neg (by decide), singleQuoted?_quote d _ rfl rfl, hk,
        Draft.settle_put, List.reverse_cons, List.append_assoc, List.singleton_append]
    · rw [Text.Quoted.doubled, if_neg hc, List.cons_append, place_cons, hbreak,
        if_neg Bool.false_ne_true]
      cases hseparator : isSeparator c with
      | true =>
        have hpass : (d.pass c).gap = .spaces (c :: passed) := by
          simp [Draft.pass, hd, Gap.pass, hbreak]
        obtain ⟨k, hk⟩ := ih hw' (Nat.succ_pos column) hpass
        refine ⟨k, ?_⟩
        rw [singleQuoted?_separator hseparator, hk, Draft.settle_of_spaces hpass,
          Draft.settle_of_spaces hd, List.cons_append, List.reverse_cons, List.append_assoc,
          List.singleton_append]
        rfl
      | false =>
        obtain ⟨k, hk⟩ := ih hw' (Nat.succ_pos column) (d := d.put c) rfl
        refine ⟨k, ?_⟩
        rw [singleQuoted?_char hseparator hcolumn hc, hk, Draft.settle_put, List.reverse_cons,
          List.append_assoc, List.singleton_append]

/-! ## Double quotes -/

/-- How many hexadecimal digits an escape takes. -/
def escapeWidth? : Char → Option Nat
  | 'x' => some 2
  | 'u' => some 4
  | 'U' => some 8
  | _ => none

/-- The character of an escape that takes no digits. -/
def escapeChar? : Char → Option Char
  | '0' => some '\x00'
  | 'a' => some '\x07'
  | 'b' => some '\x08'
  | 't' | '\t' => some '\t'
  | 'n' => some '\n'
  | 'v' => some '\x0b'
  | 'f' => some '\x0c'
  | 'r' => some '\r'
  | 'e' => some '\x1b'
  | ' ' => some ' '
  | '"' => some '"'
  | '/' => some '/'
  | '\\' => some '\\'
  | 'N' => some '\u0085'
  | '_' => some '\u00a0'
  | 'L' => some '\u2028'
  | 'P' => some '\u2029'
  | _ => none

/-- The character of a number, if there is one. -/
def codePoint? (n : Nat) : Option Char := if n.isValidChar then some (Char.ofNat n) else none

/-- How much of an escape was read: nothing, the backslash, or digits of value `value` with more
than `left` to come. -/
inductive Escape where
  | closed
  | opened
  | digits (left value : Nat)
  deriving Repr, DecidableEq

/-- Reads a double-quoted scalar behind its opening quote, and what follows the closing one. -/
def doubleQuoted? (e : Escape) (d : Draft) : List Placed → Option (String × List Placed)
  | [] => none
  | p :: s =>
    match e with
    | .closed =>
      if isSeparator p.char then doubleQuoted? .closed (d.pass p.char) s
      else if atMarker (p :: s) then none
      else if p.char == '"' then some (d.settle.text, s)
      else if p.char == '\\' then doubleQuoted? .opened d.settle s
      else doubleQuoted? .closed (d.put p.char) s
    | .opened =>
      if isBreak p.char then doubleQuoted? .closed { d with gap := .breaks none [] } s
      else
        match escapeWidth? p.char with
        | some width => doubleQuoted? (.digits (width - 1) 0) d s
        | none =>
          match escapeChar? p.char with
          | some c => doubleQuoted? .closed (d.put c) s
          | none => none
    | .digits left value =>
      match Text.digit? 16 p.char with
      | none => none
      | some digit =>
        match left with
        | more + 1 => doubleQuoted? (.digits more (16 * value + digit)) d s
        | 0 =>
          match codePoint? (16 * value + digit) with
          | some c => doubleQuoted? .closed (d.put c) s
          | none => none

end WhereClause.Yaml
