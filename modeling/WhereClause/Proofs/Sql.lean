import WhereClause.Sql
import WhereClause.Proofs.Token.Spelling
import WhereClause.Proofs.Tree

/-!
# The parse tree of a predicate

The nesting that SQL stands for, as a parse tree, and that its text consists of exactly the tokens
of that tree. Whether a reader by precedence finds the same nesting is another question; this one is
only about where the tokens of a text begin and end.

Headlines:
* `Sql.lex_text`: the text of SQL is read as the tokens of its tree.
-/

namespace WhereClause

/-! ## Trees -/

namespace Sql

/-- The tree of an operator over two operands. -/
def operatorTree (op : Operator) (x y : Tree) : Tree :=
  match op with
  | .connective c => .group (.binary (.connective c) x y)
  | .comparison c => .group (.binary (.comparison c) x y)
  | .arithmetic .add => .group (.binary .add x y)
  | .arithmetic .sub => .group (.binary .sub x y)
  | .arithmetic .mul => .group (.binary .mul x y)
  | .arithmetic .div => .group (.binary .div x y)
  | .arithmetic .mod => .pair .mod x y
  | .coalesce => .pair .coalesce x y

/-- The function that trims in a dialect. -/
def trimFunction (d : Dialect) (side : TrimSide) : Function :=
  match side, d.trimForm with
  | .both, _ => .trim
  | .leading, .clause => .trimLeading
  | .leading, .function => .ltrim
  | .trailing, .clause => .trimTrailing
  | .trailing, .function => .rtrim

/-- The tree of a method over an operand. -/
def methodTree (d : Dialect) (x : Tree) : TextMethod → Tree
  | .trim side => .call (trimFunction d side) x
  | .upper => .call .upper x
  | .lower => .call .lower x
  | .search place needle => .binary .like x (.leaf (.text (place.pattern needle)))

/-- The test that an operand is a truth value. -/
def truthTree (d : Dialect) (x : Operand) (b : Bool) : Tree :=
  .binary (.comparison .eq) (.leaf x) (.leaf (d.operand (.bool b)))

/-- The nesting that SQL stands for. -/
def tree (d : Dialect) : Sql → Tree
  | column c => .leaf (.column c.name)
  | literal l => .leaf (d.operand l)
  | truth b => .group (truthTree d (d.operand (.bool true)) b)
  | columnIs name b => truthTree d (.column name) b
  | binary op left right => operatorTree op (tree d left) (tree d right)
  | nullTest isNull x =>
    .group (.binary (if isNull then .is else .isNot) (tree d x) (.leaf .null))
  | method m x => methodTree d (tree d x) m
  | not x => .not (tree d x)

end Sql

/-! ## Texts and tokens -/

/-- The text is read as the tokens in front of every ending. -/
def Lexes (s : String) (ts : List Token) : Prop :=
  ∀ rest, Ends rest → Token.lex (s.toList ++ rest) = (Token.lex rest).map (ts ++ ·)

theorem Operand.lexes {s : String} {o : Operand} (h : ofText? s = some o) :
    Lexes s [.operand o] :=
  fun _ hr => lex_operand h hr

theorem Keyword.lexes (k : Keyword) : Lexes k.text [.keyword k] :=
  fun _ hr => Token.lex_keyword k hr

/-- The text between blanks is read as the operator. -/
def Infix.Spelled (op : Infix) (w : String) : Prop :=
  ∀ s, Token.lex (w.toList ++ ' ' :: s) = (Token.lex s).map (op.tokens ++ ·)

/-- The text is read as the bracket, whatever it holds. -/
def Bracket.Spelled (b : Bracket) (w : String) : Prop :=
  ∀ s, Token.lex (w.toList ++ s) = (Token.lex s).map (b.tokens ++ ·)

namespace Lexes

variable {s t w : String} {x y : Tree}

theorem lex_eq {ts : List Token} (h : Lexes s ts) : Token.lex s.toList = some ts := by
  have := h [] ends_nil
  rwa [List.append_nil, Token.lex_nil, Option.map_some, List.append_nil] at this

/-- A text with a blank behind it. -/
theorem blank {ts : List Token} (h : Lexes s ts) (rest : List Char) :
    Token.lex (s.toList ++ ' ' :: rest) = (Token.lex rest).map (ts ++ ·) := by
  rw [h _ (ends_cons (by decide) rest), Token.lex_blank]

/-- A text with a parenthesis behind it that opens. -/
theorem leftParen {ts : List Token} (h : Lexes s ts) (rest : List Char) :
    Token.lex (s.toList ++ '(' :: rest) =
      (Token.lex rest).map (ts ++ .mark .leftParen :: ·) := by
  rw [h _ (ends_cons (by decide) rest), Token.lex_leftParen, Option.map_map]
  rfl

/-- A text with a parenthesis behind it that closes. -/
theorem rightParen {ts : List Token} (h : Lexes s ts) (rest : List Char) :
    Token.lex (s.toList ++ ')' :: rest) =
      (Token.lex rest).map (ts ++ .mark .rightParen :: ·) := by
  rw [h _ (ends_cons (by decide) rest), Token.lex_rightParen, Option.map_map]
  rfl

theorem leaf {o : Operand} (h : Operand.ofText? s = some o) : Lexes s (Tree.leaf o).tokens :=
  Operand.lexes h

theorem not (h : Lexes s x.tokens) : Lexes ("NOT " ++ s) (Tree.not x).tokens := by
  intro rest hr
  have htext : ("NOT " ++ s).toList ++ rest =
      Keyword.not.text.toList ++ ' ' :: (s.toList ++ rest) := by
    simp [Keyword.text]
  rw [htext, (Keyword.lexes .not).blank, h rest hr, Tree.tokens_not]
  simp [Function.comp_def]

theorem binary {op : Infix} (hx : Lexes s x.tokens) (hw : op.Spelled w) (hy : Lexes t y.tokens) :
    Lexes (s ++ " " ++ w ++ " " ++ t) (Tree.binary op x y).tokens := by
  intro rest hr
  have htext : (s ++ " " ++ w ++ " " ++ t).toList ++ rest =
      s.toList ++ ' ' :: (w.toList ++ ' ' :: (t.toList ++ rest)) := by
    simp
  rw [htext, hx.blank, hw, hy rest hr, Tree.tokens_binary]
  simp [Function.comp_def]

/-- A comparison without blanks. -/
theorem equals (hx : Lexes s x.tokens) (hy : Lexes t y.tokens) :
    Lexes (s ++ "=" ++ t) (Tree.binary (.comparison .eq) x y).tokens := by
  intro rest hr
  have htext : (s ++ "=" ++ t).toList ++ rest = s.toList ++ '=' :: (t.toList ++ rest) := by simp
  rw [htext, hx _ (ends_cons (by decide) _), Token.lex_eq, hy rest hr, Tree.tokens_binary]
  simp [Function.comp_def, Infix.tokens]

theorem group (h : Lexes s x.tokens) : Lexes ("(" ++ s ++ ")") (Tree.group x).tokens := by
  intro rest _
  have htext : ("(" ++ s ++ ")").toList ++ rest = '(' :: (s.toList ++ ')' :: rest) := by simp
  rw [htext, Token.lex_leftParen, h.rightParen, Tree.tokens_group]
  simp [Function.comp_def]

theorem call {f : Function} (hw : (Bracket.call f).Spelled w) (h : Lexes s x.tokens) :
    Lexes (w ++ s ++ ")") (Tree.call f x).tokens := by
  intro rest _
  have htext : (w ++ s ++ ")").toList ++ rest = w.toList ++ (s.toList ++ ')' :: rest) := by simp
  rw [htext, hw, h.rightParen, Tree.tokens_call]
  simp [Function.comp_def]

theorem pair {f : PairFunction} (hw : (Bracket.pair f).Spelled w) (hx : Lexes s x.tokens)
    (hy : Lexes t y.tokens) : Lexes (w ++ s ++ "," ++ t ++ ")") (Tree.pair f x y).tokens := by
  intro rest _
  have htext : (w ++ s ++ "," ++ t ++ ")").toList ++ rest =
      w.toList ++ (s.toList ++ ',' :: (t.toList ++ ')' :: rest)) := by
    simp
  rw [htext, hw, hx _ (ends_cons (by decide) _), Token.lex_comma, hy.rightParen, Tree.tokens_pair]
  simp [Function.comp_def]

end Lexes

/-! ## Spellings -/

theorem Keyword.spelled (k : Keyword) {i : Infix} (h : i.tokens = [.keyword k]) :
    i.Spelled k.text := by
  intro s
  rw [h, k.lexes.blank]

theorem Mark.spelled (m : Mark) {i : Infix} (h : i.tokens = [.mark m]) {w : String}
    (hw : w.toList = m.text) : i.Spelled w := by
  intro s
  rw [h, hw, Token.lex_mark]
  rfl

theorem spelled_isNot : Infix.isNot.Spelled "is not" := by
  intro s
  have htext : "is not".toList ++ ' ' :: s =
      Keyword.is.text.toList ++ ' ' :: (Keyword.isNot.text.toList ++ ' ' :: s) := by
    simp [Keyword.text]
  rw [htext, Keyword.is.lexes.blank, Keyword.isNot.lexes.blank, Option.map_map]
  rfl

theorem Connective.spelled (c : Connective) : (Infix.connective c).Spelled c.sql := by
  cases c
  · exact Keyword.spelled .and rfl
  · exact Keyword.spelled .or rfl

theorem Comparison.spelled (c : Comparison) : (Infix.comparison c).Spelled c.sql := by
  cases c
  · exact Mark.spelled .eq rfl rfl
  · exact Mark.spelled .ne rfl rfl
  · exact Mark.spelled .gt rfl rfl
  · exact Mark.spelled .ge rfl rfl
  · exact Mark.spelled .lt rfl rfl
  · exact Mark.spelled .le rfl rfl

/-- A word with a parenthesis directly behind it. -/
theorem Keyword.spelledCall (k : Keyword) {b : Bracket}
    (h : b.tokens = [.keyword k, .mark .leftParen]) : b.Spelled (k.text ++ "(") := by
  intro s
  have htext : (k.text ++ "(").toList ++ s = k.text.toList ++ '(' :: s := by simp
  rw [h, htext, k.lexes.leftParen]
  rfl

/-- The function `trim` with a side in front of its operand. -/
theorem Keyword.spelledSide (k : Keyword) {b : Bracket} {w : String}
    (h : b.tokens = [.keyword .trim, .mark .leftParen, .keyword k, .keyword .from])
    (hw : w = "trim(" ++ k.text ++ " from ") : b.Spelled w := by
  intro s
  have htext : w.toList ++ s = Keyword.trim.text.toList ++
      '(' :: (k.text.toList ++ ' ' :: (Keyword.from.text.toList ++ ' ' :: s)) := by
    rw [hw]
    simp [Keyword.text]
  rw [h, htext, Keyword.trim.lexes.leftParen, k.lexes.blank, Keyword.from.lexes.blank]
  simp [Function.comp_def]

/-! ## The text of SQL -/

namespace Sql

variable {d : Dialect}

theorem lexes_literal (hd : d.SpellsConstants) (l : Literal) :
    Lexes (d.literal l) (Tree.leaf (d.operand l)).tokens :=
  Lexes.leaf (Dialect.ofText?_literal hd l)

theorem lexes_identifier (name : String) :
    Lexes (Text.identifier name) (Tree.leaf (.column name)).tokens :=
  Lexes.leaf (Operand.ofText?_identifier name)

theorem lexes_operatorText (op : Operator) {s t : String} {x y : Tree} (hx : Lexes s x.tokens)
    (hy : Lexes t y.tokens) : Lexes (operatorText op s t) (operatorTree op x y).tokens := by
  have hbinary : ∀ {i : Infix} {w : String}, i.Spelled w →
      Lexes ("(" ++ s ++ " " ++ w ++ " " ++ t ++ ")") (Tree.group (.binary i x y)).tokens := by
    intro i w hw
    have h := (hx.binary hw hy).group
    simpa only [String.append_assoc] using h
  cases op with
  | connective c => exact hbinary c.spelled
  | comparison c => exact hbinary c.spelled
  | arithmetic a =>
    cases a with
    | add => exact hbinary (Mark.spelled .plus rfl rfl)
    | sub => exact hbinary (Mark.spelled .minus rfl rfl)
    | mul => exact hbinary (Mark.spelled .times rfl rfl)
    | div => exact hbinary (Mark.spelled .slash rfl rfl)
    | mod => exact Lexes.pair (Keyword.spelledCall .mod rfl) hx hy
  | coalesce => exact Lexes.pair (Keyword.spelledCall .coalesce rfl) hx hy

theorem lexes_trim (side : TrimSide) {s : String} {x : Tree} (hx : Lexes s x.tokens) :
    Lexes (d.trim side s) (Tree.call (trimFunction d side) x).tokens := by
  unfold Dialect.trim trimFunction
  cases side with
  | both => exact Lexes.call (Keyword.spelledCall .trim rfl) hx
  | leading =>
    cases d.trimForm with
    | clause => exact Lexes.call (Keyword.spelledSide .leading rfl rfl) hx
    | function => exact Lexes.call (Keyword.spelledCall .ltrim rfl) hx
  | trailing =>
    cases d.trimForm with
    | clause => exact Lexes.call (Keyword.spelledSide .trailing rfl rfl) hx
    | function => exact Lexes.call (Keyword.spelledCall .rtrim rfl) hx

theorem lexes_methodText (m : TextMethod) {s : String} {x : Tree} (hx : Lexes s x.tokens) :
    Lexes (methodText d s m) (methodTree d x m).tokens := by
  cases m with
  | trim side => exact lexes_trim side hx
  | upper => exact Lexes.call (Keyword.spelledCall .upper rfl) hx
  | lower => exact Lexes.call (Keyword.spelledCall .lower rfl) hx
  | search place needle =>
    have h := hx.binary (Keyword.spelled .like (i := .like) rfl)
      (Lexes.leaf (Operand.ofText?_quoted (place.pattern needle)))
    simpa [methodText, methodTree, Keyword.text, String.append_assoc] using h

theorem lexes_nullTest (isNull : Bool) {s : String} {x : Tree} (hx : Lexes s x.tokens) :
    Lexes ("(" ++ s ++ if isNull then " is null)" else " is not null)")
      (Tree.group (.binary (if isNull then .is else .isNot) x (.leaf .null))).tokens := by
  have hnull := Lexes.leaf Operand.ofText?_null
  cases isNull with
  | true =>
    have h := (hx.binary (Keyword.spelled .is (i := .is) rfl) hnull).group
    simpa [Keyword.text, String.append_assoc] using h
  | false =>
    have h := (hx.binary spelled_isNot hnull).group
    simpa [String.append_assoc] using h

/-- **The text of SQL is read as the tokens of its tree**, in front of every ending. -/
theorem lexes_text (hd : d.SpellsConstants) (x : Sql) : Lexes (x.text d) (x.tree d).tokens := by
  have hequals : ∀ {s : String} {o : Operand} (b : Bool), Lexes s (Tree.leaf o).tokens →
      Lexes (s ++ "=" ++ d.truth b) (truthTree d o b).tokens :=
    fun b hs => hs.equals (lexes_literal hd (.bool b))
  induction x with
  | column c => exact lexes_identifier c.name
  | literal l => exact lexes_literal hd l
  | truth b =>
    have htext : text d (truth b) =
        "(" ++ (d.literal (.bool true) ++ "=" ++ d.truth b) ++ ")" := by
      simp [text, Dialect.constant, Dialect.literal, Dialect.truth, String.append_assoc]
    rw [htext]
    exact (hequals b (lexes_literal hd (.bool true))).group
  | columnIs name b => exact hequals b (lexes_identifier name)
  | binary op left right ihl ihr => exact lexes_operatorText op ihl ihr
  | nullTest isNull x ih => exact lexes_nullTest isNull ih
  | method m x ih => exact lexes_methodText m ih
  | not x ih => exact ih.not

theorem lex_text (hd : d.SpellsConstants) (x : Sql) :
    Token.lex (x.text d).toList = some (x.tree d).tokens :=
  (lexes_text hd x).lex_eq

end Sql

end WhereClause
