import WhereClause.Text.Quoted

/-!
# SQL tokens

What a predicate's text consists of, read from the text alone: quoted texts and names, decimal
numerals, words, and marks. A quote inside a quoted text is written twice. A sign that stands
directly before a digit belongs to the numeral. Most words have a fixed meaning; any other word
is read as an operand, so that a truth value may be spelled by one. Comments, semicolons and every
other character outside quotes are refused.

Headlines:
* `Token.next?_length`: every token takes characters, so that reading comes to an end.
-/

namespace WhereClause

/-- A word with a fixed meaning. The connective is `NOT`; `not` belongs to `is not`. -/
inductive Keyword where
  | and | or | not | is | isNot | like | mod | coalesce
  | upper | lower | trim | ltrim | rtrim | leading | trailing | «from»
  deriving Repr, DecidableEq

/-- A mark. -/
inductive Mark where
  | leftParen | rightParen | comma
  | eq | ne | lt | le | gt | ge
  | plus | minus | times | slash
  deriving Repr, DecidableEq

/-- What can be compared and computed with by itself. -/
inductive Operand where
  | column (name : String)
  | text (s : String)
  | numeral (digits : String)
  | null
  | word (s : String)
  deriving Repr, DecidableEq

/-- A token of SQL. -/
inductive Token where
  | operand (o : Operand)
  | keyword (k : Keyword)
  | mark (m : Mark)
  deriving Repr, DecidableEq

/-! ## Numerals -/

namespace Numeral

/-- The fraction at the front of a text, empty unless a digit follows the point. -/
def fraction : List Char → List Char × List Char
  | '.' :: d :: s =>
    if d.isDigit then ('.' :: (d :: s).takeWhile Char.isDigit, (d :: s).dropWhile Char.isDigit)
    else ([], '.' :: d :: s)
  | s => ([], s)

/-- The digits at the front of a text with the fraction behind them. -/
def magnitude? (s : List Char) : Option (List Char × List Char) :=
  if s.head?.any Char.isDigit then
    let f := fraction (s.dropWhile Char.isDigit)
    some (s.takeWhile Char.isDigit ++ f.1, f.2)
  else none

/-- The numeral at the front of a text, with a sign or without one. -/
def read? : List Char → Option (List Char × List Char)
  | [] => none
  | c :: s =>
    if c = '-' ∨ c = '+' then (magnitude? s).map fun r => (c :: r.1, r.2) else magnitude? (c :: s)

end Numeral

/-! ## Words -/

namespace Keyword

/-- The spelling. -/
def text : Keyword → String
  | and => "AND" | or => "OR" | not => "NOT" | is => "is" | isNot => "not" | like => "like"
  | mod => "MOD" | coalesce => "COALESCE"
  | upper => "upper" | lower => "lower" | trim => "trim" | ltrim => "ltrim" | rtrim => "rtrim"
  | leading => "leading" | trailing => "trailing" | «from» => "from"

/-- All words with a fixed meaning but the operand `null`. -/
def all : List Keyword :=
  [and, or, not, is, isNot, like, mod, coalesce, upper, lower, trim, ltrim, rtrim, leading,
    trailing, «from»]

end Keyword

/-- Whether a word may start with the character. -/
def startsWord (c : Char) : Bool := c.isAlpha || c == '_'

/-- Whether a word may go on with the character. -/
def isWordChar (c : Char) : Bool := c.isAlphanum || c == '_'

namespace Mark

/-- The spelling. -/
def text : Mark → List Char
  | leftParen => ['('] | rightParen => [')'] | comma => [',']
  | eq => ['='] | ne => ['<', '>'] | lt => ['<'] | le => ['<', '='] | gt => ['>'] | ge => ['>', '=']
  | plus => ['+'] | minus => ['-'] | times => ['*'] | slash => ['/']

/-- The mark at the front of a text. Two minus signs, and a slash before an asterisk, open a comment
and are none. -/
def read? : List Char → Option (Mark × List Char)
  | '(' :: s => some (leftParen, s)
  | ')' :: s => some (rightParen, s)
  | ',' :: s => some (comma, s)
  | '=' :: s => some (eq, s)
  | '<' :: '>' :: s => some (ne, s)
  | '<' :: '=' :: s => some (le, s)
  | '<' :: s => some (lt, s)
  | '>' :: '=' :: s => some (ge, s)
  | '>' :: s => some (gt, s)
  | '+' :: s => some (plus, s)
  | '-' :: '-' :: _ => none
  | '-' :: s => some (minus, s)
  | '*' :: s => some (times, s)
  | '/' :: '*' :: _ => none
  | '/' :: s => some (slash, s)
  | _ => none

end Mark

namespace Token

/-- The token of a word. -/
def ofWord (w : String) : Token :=
  match Keyword.all.find? fun k => k.text == w with
  | some k => keyword k
  | none => operand (if w = "null" then .null else .word w)

/-- The token at the front of a text, and what follows it. -/
def next? : List Char → Option (Token × List Char)
  | [] => none
  | c :: s =>
    if c = '\'' then
      (Text.Quoted.scanBody '\'' s).map fun r => (operand (.text (String.ofList r.1)), r.2)
    else if c = '"' then
      (Text.Quoted.scanBody '"' s).map fun r => (operand (.column (String.ofList r.1)), r.2)
    else if startsWord c then
      some (ofWord (String.ofList (c :: s.takeWhile isWordChar)), s.dropWhile isWordChar)
    else
      match Numeral.read? (c :: s) with
      | some r => some (operand (.numeral (String.ofList r.1)), r.2)
      | none => (Mark.read? (c :: s)).map fun r => (mark r.1, r.2)

end Token

/-! ## Every token takes characters -/

theorem Text.Quoted.scanBody_length {q : Char} {s : List Char} {r : List Char × List Char}
    (h : scanBody q s = some r) : r.2.length < s.length := by
  fun_induction scanBody q s generalizing r with
  | case1 => cases h
  | case2 =>
    cases h
    simp
  | case3 => cases h
  | case4 s ih =>
    obtain ⟨u, hu, rfl⟩ := Option.map_eq_some_iff.mp h
    have := ih hu
    simp only [List.length_cons]
    omega
  | case5 =>
    cases h
    simp
  | case6 c d s _ ih =>
    obtain ⟨u, hu, rfl⟩ := Option.map_eq_some_iff.mp h
    have := ih hu
    simp only [List.length_cons] at this ⊢
    omega

namespace Numeral

theorem fraction_append (s : List Char) : (fraction s).1 ++ (fraction s).2 = s := by
  unfold fraction
  split
  · split
    · rw [List.cons_append, List.takeWhile_append_dropWhile]
    · rfl
  · rfl

theorem magnitude?_append {s : List Char} {r : List Char × List Char}
    (h : magnitude? s = some r) : r.1 ++ r.2 = s ∧ r.1 ≠ [] := by
  unfold magnitude? at h
  split at h
  · rename_i hs
    cases h
    refine ⟨?_, ?_⟩
    · rw [List.append_assoc, fraction_append, List.takeWhile_append_dropWhile]
    · cases s with
      | nil => cases hs
      | cons c s =>
        rw [List.takeWhile_cons_of_pos (by simpa using hs)]
        simp
  · cases h

theorem read?_append {s : List Char} {r : List Char × List Char} (h : read? s = some r) :
    r.1 ++ r.2 = s ∧ r.1 ≠ [] := by
  cases s with
  | nil => cases h
  | cons c s =>
    rw [read?] at h
    split at h
    · obtain ⟨u, hu, rfl⟩ := Option.map_eq_some_iff.mp h
      exact ⟨by rw [List.cons_append, (magnitude?_append hu).1], by simp⟩
    · exact magnitude?_append h

end Numeral

theorem Mark.read?_append {s : List Char} {r : Mark × List Char} (h : read? s = some r) :
    r.1.text ++ r.2 = s := by
  unfold read? at h
  split at h <;> cases h <;> rfl

namespace Token

theorem next?_length {s : List Char} {r : Token × List Char} (h : next? s = some r) :
    r.2.length < s.length := by
  cases s with
  | nil => cases h
  | cons c s =>
    rw [next?] at h
    split at h
    · obtain ⟨u, hu, rfl⟩ := Option.map_eq_some_iff.mp h
      exact Nat.lt_succ_of_lt (Text.Quoted.scanBody_length hu)
    · split at h
      · obtain ⟨u, hu, rfl⟩ := Option.map_eq_some_iff.mp h
        exact Nat.lt_succ_of_lt (Text.Quoted.scanBody_length hu)
      · split at h
        · cases h
          exact Nat.lt_succ_of_le (List.dropWhile_sublist _).length_le
        · split at h
          · rename_i u hu
            cases h
            obtain ⟨happ, hne⟩ := Numeral.read?_append hu
            have hpos := List.length_pos_iff.mpr hne
            have hlen := congrArg List.length happ
            rw [List.length_append] at hlen
            simp only
            omega
          · obtain ⟨u, hu, rfl⟩ := Option.map_eq_some_iff.mp h
            have hlen := congrArg List.length (Mark.read?_append hu)
            have hpos : 0 < u.1.text.length := by cases u.1 <;> decide
            rw [List.length_append] at hlen
            simp only at hlen ⊢
            omega

/-- The tokens of a text. Blanks between them are passed over. -/
def lex (s : List Char) : Option (List Token) :=
  match s with
  | [] => some []
  | c :: s =>
    if c.isWhitespace then lex s
    else
      match _h : next? (c :: s) with
      | none => none
      | some (t, rest) => (lex rest).map (t :: ·)
termination_by s.length
decreasing_by
  · simp
  · exact next?_length ‹_›

end Token

end WhereClause
