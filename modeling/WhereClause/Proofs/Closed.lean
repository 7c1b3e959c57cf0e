import WhereClause.Proofs.Simulation
import WhereClause.Proofs.Sql

/-!
# Predicates are closed texts

A text is closed if it can be put anywhere in a statement without taking part of the statement for
its own, or giving part of itself away: it is read to its end, so that no quote stays open and no
comment is begun; it has no words but those with a fixed meaning; and each parenthesis is closed
after it was opened.

Parentheses are counted by what they do to any number of open ones (`Balanced`), so that the counts
of two texts put together follow from the counts of the two.

Headlines:
* `Token.next?_eq_none_of_opensComment`: what opens a comment, and a semicolon, is no token.
* `Tree.balanced_tokens`: every tree is balanced.
* `Sql.fixed_tree`: the words of SQL have a fixed meaning, whatever its columns and literals.
* `Expr.compile_closed`: every predicate is a closed text.
-/

namespace WhereClause

namespace Token

/-! ## Comments -/

/-- The text begins a comment, or ends a statement. -/
def opensComment : List Char → Bool
  | '-' :: '-' :: _ => true
  | '/' :: '*' :: _ => true
  | ';' :: _ => true
  | _ => false

/-- **No token is read where a comment begins or a statement ends.** -/
theorem next?_eq_none_of_opensComment {s : List Char} (h : opensComment s = true) :
    next? s = none := by
  unfold opensComment at h
  split at h
  · rfl
  · rfl
  · rfl
  · cases h

/-! ## Words -/

/-- The token is no word, or one with a fixed meaning. -/
def isFixed : Token → Bool
  | operand (.word _) => false
  | _ => true

theorem isFixed_of_isLiteral {o : Operand} (h : o.isLiteral = true) :
    isFixed (operand o) = true := by
  cases o with
  | word s => cases h
  | _ => rfl

/-! ## Parentheses -/

/-- The number of open parentheses behind the tokens, if so many are open in front of them and none
is closed that was not open. -/
def depth? : Nat → List Token → Option Nat
  | n, [] => some n
  | n, .mark .leftParen :: ts => depth? (n + 1) ts
  | 0, .mark .rightParen :: _ => none
  | n + 1, .mark .rightParen :: ts => depth? n ts
  | n, _ :: ts => depth? n ts

/-- The tokens change the number of open parentheses by as many as they open, and close none of
those in front of them. -/
def Opens (k : Nat) (ts : List Token) : Prop :=
  ∀ n rest, depth? n (ts ++ rest) = depth? (n + k) rest

/-- The tokens close exactly the parentheses that they open. -/
abbrev Balanced (ts : List Token) : Prop := Opens 0 ts

theorem Balanced.depth?_eq {ts : List Token} (h : Balanced ts) : depth? 0 ts = some 0 := by
  have := h 0 []
  rwa [List.append_nil] at this

theorem Opens.append {j k : Nat} {ts us : List Token} (ht : Opens j ts) (hu : Opens k us) :
    Opens (j + k) (ts ++ us) := by
  intro n rest
  rw [List.append_assoc, ht, hu, Nat.add_assoc]

theorem Opens.close {ts us : List Token} (ht : Opens 1 ts) (hu : Balanced us) :
    Balanced (ts ++ (us ++ [.mark .rightParen])) := by
  intro n rest
  rw [List.append_assoc, ht, List.append_assoc, hu]
  rfl

theorem balanced_operator (op : Infix) : Balanced op.tokens := by
  intro n rest
  cases op with
  | connective c => cases c <;> rfl
  | comparison c => cases c <;> rfl
  | _ => rfl

theorem opens_bracket (b : Bracket) : Opens 1 b.tokens := by
  intro n rest
  cases b with
  | group => rfl
  | call f => cases f <;> rfl
  | pair f => cases f <;> rfl

end Token

namespace Tree

open Token

/-- **Every tree is balanced.** -/
theorem balanced_tokens (x : Tree) : Balanced x.tokens := by
  induction x with
  | leaf o => exact fun n rest => rfl
  | group x ih =>
    rw [tokens_group]
    exact (opens_bracket .group).close ih
  | call f x ih =>
    rw [tokens_call]
    exact (opens_bracket (.call f)).close ih
  | pair f x y ihx ihy =>
    have hcomma : Balanced [.mark .comma] := fun n rest => rfl
    have h := (opens_bracket (.pair f)).close (ihx.append (hcomma.append ihy))
    rw [tokens_pair]
    simpa only [List.append_assoc, List.cons_append, List.nil_append] using h
  | binary op x y ihx ihy =>
    rw [tokens_binary]
    exact ihx.append ((balanced_operator op).append ihy)
  | not x ih =>
    have hnot : Balanced [.keyword .not] := fun n rest => rfl
    rw [tokens_not]
    exact hnot.append ih

/-- The operands of a tree have no words without a fixed meaning. -/
def Fixed : Tree → Prop
  | leaf o => Token.isFixed (.operand o) = true
  | group x | call _ x | not x => Fixed x
  | pair _ x y | binary _ x y => Fixed x ∧ Fixed y

theorem all_isFixed_bracket (b : Bracket) : b.tokens.all isFixed = true := by
  cases b with
  | group => rfl
  | call f => cases f <;> rfl
  | pair f => cases f <;> rfl

theorem all_isFixed_operator (op : Infix) : op.tokens.all isFixed = true := by
  cases op with
  | connective c => cases c <;> rfl
  | comparison c => cases c <;> rfl
  | _ => rfl

theorem all_isFixed_tokens {x : Tree} (h : x.Fixed) : x.tokens.all isFixed = true := by
  induction x with
  | leaf o =>
    rw [tokens_leaf, List.all_cons, show isFixed (.operand o) = true from h]
    rfl
  | group x ih =>
    rw [tokens_group, List.all_cons, List.all_append, ih h]
    rfl
  | call f x ih =>
    rw [tokens_call, List.all_append, List.all_append, all_isFixed_bracket, ih h]
    rfl
  | pair f x y ihx ihy =>
    rw [tokens_pair, List.all_append, List.all_append, List.all_cons, List.all_append,
      all_isFixed_bracket, ihx h.1, ihy h.2]
    rfl
  | binary op x y ihx ihy =>
    rw [tokens_binary, List.all_append, List.all_append, all_isFixed_operator, ihx h.1, ihy h.2]
    rfl
  | not x ih =>
    rw [tokens_not, List.all_cons, ih h]
    rfl

end Tree

/-! ## The words of SQL -/

namespace Sql

variable {d : Dialect}

theorem isFixed_literal (hd : d.SpellsLiterals) (l : Literal) :
    Token.isFixed (.operand (d.operand l)) = true := by
  cases l with
  | bool b =>
    obtain ⟨o, ho, hl⟩ := hd b
    rw [Dialect.operand, ho, Option.getD_some]
    exact Token.isFixed_of_isLiteral hl
  | _ => rfl

theorem fixed_operatorTree (op : Operator) {x y : Tree} (hx : x.Fixed) (hy : y.Fixed) :
    (operatorTree op x y).Fixed := by
  cases op with
  | connective c => exact ⟨hx, hy⟩
  | comparison c => exact ⟨hx, hy⟩
  | arithmetic a => cases a <;> exact ⟨hx, hy⟩
  | coalesce => exact ⟨hx, hy⟩

theorem fixed_methodTree (m : TextMethod) {x : Tree} (hx : x.Fixed) :
    (methodTree d x m).Fixed := by
  cases m with
  | search place needle => exact ⟨hx, rfl⟩
  | _ => exact hx

/-- **The words of SQL have a fixed meaning**, whatever its columns and literals. -/
theorem fixed_tree (hd : d.SpellsLiterals) (x : Sql) : (x.tree d).Fixed := by
  induction x with
  | column c => rfl
  | literal l => exact isFixed_literal hd l
  | truth b => exact ⟨isFixed_literal hd (.bool true), isFixed_literal hd (.bool b)⟩
  | columnIs name b => exact ⟨rfl, isFixed_literal hd (.bool b)⟩
  | binary op left right ihl ihr => exact fixed_operatorTree op ihl ihr
  | nullTest isNull x ih => exact ⟨ih, rfl⟩
  | method m x ih => exact fixed_methodTree m ih
  | not x ih => exact ih

end Sql

/-! ## Closed texts -/

/-- The text is read to its end as the tokens, has no words without a fixed meaning, and closes each
parenthesis after it was opened. -/
structure Closed (s : String) (ts : List Token) : Prop where
  read : Token.lex s.toList = some ts
  fixed : ∀ t ∈ ts, t.isFixed = true
  balanced : Token.depth? 0 ts = some 0

theorem Sql.closed_text {d : Dialect} (hd : d.SpellsLiterals) (x : Sql) :
    Closed (x.text d) (x.tree d).tokens where
  read := lex_text hd.constants x
  fixed := List.all_eq_true.mp (Tree.all_isFixed_tokens (fixed_tree hd x))
  balanced := (x.tree d).balanced_tokens.depth?_eq

/-- **Every predicate is a closed text**, in each dialect that spells the truth values by literals.
-/
theorem Expr.compile_closed {d : Dialect} (hd : d.SpellsLiterals) {e : Expr} {s : String}
    (h : e.compile d = .ok s) : ∃ ts, Closed s ts := by
  obtain ⟨x, -, rfl⟩ := compile_eq_ok_iff.mp h
  exact ⟨_, Sql.closed_text hd x⟩

/-- Quotes in names and in texts do not open anything. -/
theorem Expr.closed_of_quotes :
    Dialect.sqlite.SpellsLiterals ∧
      ((member row "a\"b" none).call "Contains" [.constant (.text "it's")]).compile .sqlite =
        .ok "\"a\"\"b\" like '%it''s%'" ∧
      ∃ ts, Closed "\"a\"\"b\" like '%it''s%'" ts := by
  have hd := Dialect.spellsLiterals_sqlite
  have h : ((member row "a\"b" none).call "Contains" [.constant (.text "it's")]).compile .sqlite =
      .ok "\"a\"\"b\" like '%it''s%'" := rfl
  exact ⟨hd, h, compile_closed hd h⟩

end WhereClause
