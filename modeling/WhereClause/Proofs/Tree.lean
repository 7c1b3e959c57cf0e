import WhereClause.Operator
import WhereClause.Proofs.Token

/-!
# Parse trees of SQL

How operands, operators, parentheses and calls nest in a text. A tree keeps its parentheses, so that
it determines the tokens that it is read from. Between tokens and trees stand symbols: the phrases
that act as one, such as `is not` or `trim(leading from`.

Headlines:
* `Symbol.ofTokens?_flatMap`: symbols are found again in their tokens.
-/

namespace WhereClause

/-- An operator between two operands. `is` and `is not` have `null` on their right. -/
inductive Infix where
  | connective (c : Connective)
  | comparison (c : Comparison)
  | is
  | isNot
  | like
  | add
  | sub
  | mul
  | div
  deriving Repr, DecidableEq

/-- A function of one operand. -/
inductive Function where
  | upper
  | lower
  | trim
  | ltrim
  | rtrim
  | trimLeading
  | trimTrailing
  deriving Repr, DecidableEq

/-- A function of two operands. -/
inductive PairFunction where
  | mod
  | coalesce
  deriving Repr, DecidableEq

/-- What a closing parenthesis closes. -/
inductive Bracket where
  | group
  | call (f : Function)
  | pair (f : PairFunction)
  deriving Repr, DecidableEq

/-- A phrase that acts as one. -/
inductive Symbol where
  | operand (o : Operand)
  | operator (op : Infix)
  | not
  | opening (b : Bracket)
  | comma
  | closing
  deriving Repr, DecidableEq

/-- A parse tree. -/
inductive Tree where
  | leaf (o : Operand)
  | group (x : Tree)
  | call (f : Function) (x : Tree)
  | pair (f : PairFunction) (x y : Tree)
  | binary (op : Infix) (x y : Tree)
  | not (x : Tree)
  deriving Repr, DecidableEq

/-! ## Tokens -/

/-- How tightly an operator binds: a greater level binds its operands before a lesser one. -/
def Infix.level : Infix → Nat
  | connective .or => 1
  | connective .and => 2
  | comparison _ | is | isNot | like => 4
  | add | sub => 5
  | mul | div => 6

/-- How tightly `NOT` binds. -/
def notLevel : Nat := 3

/-- The tokens of an operator. -/
def Infix.tokens : Infix → List Token
  | connective .and => [.keyword .and]
  | connective .or => [.keyword .or]
  | comparison .eq => [.mark .eq]
  | comparison .ne => [.mark .ne]
  | comparison .gt => [.mark .gt]
  | comparison .ge => [.mark .ge]
  | comparison .lt => [.mark .lt]
  | comparison .le => [.mark .le]
  | is => [.keyword .is]
  | isNot => [.keyword .is, .keyword .isNot]
  | like => [.keyword .like]
  | add => [.mark .plus]
  | sub => [.mark .minus]
  | mul => [.mark .times]
  | div => [.mark .slash]

/-- The tokens in front of what a bracket holds. -/
def Bracket.tokens : Bracket → List Token
  | group => [.mark .leftParen]
  | call .upper => [.keyword .upper, .mark .leftParen]
  | call .lower => [.keyword .lower, .mark .leftParen]
  | call .trim => [.keyword .trim, .mark .leftParen]
  | call .ltrim => [.keyword .ltrim, .mark .leftParen]
  | call .rtrim => [.keyword .rtrim, .mark .leftParen]
  | call .trimLeading => [.keyword .trim, .mark .leftParen, .keyword .leading, .keyword .from]
  | call .trimTrailing => [.keyword .trim, .mark .leftParen, .keyword .trailing, .keyword .from]
  | pair .mod => [.keyword .mod, .mark .leftParen]
  | pair .coalesce => [.keyword .coalesce, .mark .leftParen]

/-- The tokens of a symbol. -/
def Symbol.tokens : Symbol → List Token
  | operand o => [.operand o]
  | operator op => op.tokens
  | not => [.keyword .not]
  | opening b => b.tokens
  | comma => [.mark .comma]
  | closing => [.mark .rightParen]

/-- The symbols of a tree, from left to right. -/
def Tree.symbols : Tree → List Symbol
  | leaf o => [.operand o]
  | group x => .opening .group :: (symbols x ++ [.closing])
  | call f x => .opening (.call f) :: (symbols x ++ [.closing])
  | pair f x y => .opening (.pair f) :: (symbols x ++ .comma :: (symbols y ++ [.closing]))
  | binary op x y => symbols x ++ .operator op :: symbols y
  | not x => .not :: symbols x

namespace Tree

/-- The tokens of a tree, from left to right. -/
def tokens (x : Tree) : List Token := x.symbols.flatMap Symbol.tokens

theorem tokens_leaf (o : Operand) : (leaf o).tokens = [.operand o] := rfl

theorem tokens_group (x : Tree) :
    (group x).tokens = .mark .leftParen :: (x.tokens ++ [.mark .rightParen]) := by
  simp [tokens, symbols, Symbol.tokens, Bracket.tokens]

theorem tokens_call (f : Function) (x : Tree) :
    (call f x).tokens = (Bracket.call f).tokens ++ (x.tokens ++ [.mark .rightParen]) := by
  simp [tokens, symbols, Symbol.tokens]

theorem tokens_pair (f : PairFunction) (x y : Tree) :
    (pair f x y).tokens = (Bracket.pair f).tokens ++
      (x.tokens ++ .mark .comma :: (y.tokens ++ [.mark .rightParen])) := by
  simp [tokens, symbols, Symbol.tokens]

theorem tokens_binary (op : Infix) (x y : Tree) :
    (binary op x y).tokens = x.tokens ++ (op.tokens ++ y.tokens) := by
  simp [tokens, symbols, Symbol.tokens]

theorem tokens_not (x : Tree) : (not x).tokens = .keyword .not :: x.tokens := by
  simp [tokens, symbols, Symbol.tokens]

end Tree

/-! ## Symbols of tokens -/

namespace Symbol

/-- The symbol of a mark. -/
def ofMark : Mark → Symbol
  | .leftParen => opening .group
  | .rightParen => closing
  | .comma => comma
  | .eq => operator (.comparison .eq)
  | .ne => operator (.comparison .ne)
  | .lt => operator (.comparison .lt)
  | .le => operator (.comparison .le)
  | .gt => operator (.comparison .gt)
  | .ge => operator (.comparison .ge)
  | .plus => operator .add
  | .minus => operator .sub
  | .times => operator .mul
  | .slash => operator .div

/-- The symbol of a word by itself. -/
def ofKeyword? : Keyword → Option Symbol
  | .and => some (operator (.connective .and))
  | .or => some (operator (.connective .or))
  | .not => some not
  | .like => some (operator .like)
  | _ => none

/-- The symbol of a word with a parenthesis behind it. -/
def ofCall? : Keyword → Option Symbol
  | .upper => some (opening (.call .upper))
  | .lower => some (opening (.call .lower))
  | .trim => some (opening (.call .trim))
  | .ltrim => some (opening (.call .ltrim))
  | .rtrim => some (opening (.call .rtrim))
  | .mod => some (opening (.pair .mod))
  | .coalesce => some (opening (.pair .coalesce))
  | _ => none

/-- The symbols of tokens. A longer phrase goes before a shorter one; a word that fits in no phrase
is refused. -/
def ofTokens? : List Token → Option (List Symbol)
  | [] => some []
  | .operand o :: ts => (ofTokens? ts).map (operand o :: ·)
  | .mark m :: ts => (ofTokens? ts).map (ofMark m :: ·)
  | .keyword .is :: .keyword .isNot :: ts => (ofTokens? ts).map (operator .isNot :: ·)
  | .keyword .is :: ts => (ofTokens? ts).map (operator .is :: ·)
  | .keyword .trim :: .mark .leftParen :: .keyword .leading :: .keyword .from :: ts =>
    (ofTokens? ts).map (opening (.call .trimLeading) :: ·)
  | .keyword .trim :: .mark .leftParen :: .keyword .trailing :: .keyword .from :: ts =>
    (ofTokens? ts).map (opening (.call .trimTrailing) :: ·)
  | .keyword k :: ts =>
    match ofKeyword? k with
    | some s => (ofTokens? ts).map (s :: ·)
    | none =>
      match ts with
      | .mark .leftParen :: ts => do
        let s ← ofCall? k
        (ofTokens? ts).map (s :: ·)
      | _ => none

/-- No symbol starts with the token, because it only goes on a phrase. -/
def goesOn : Token → Bool
  | .keyword .isNot | .keyword .leading | .keyword .trailing => true
  | _ => false

theorem tokens_eq_cons (s : Symbol) : ∃ t ts, s.tokens = t :: ts ∧ goesOn t = false := by
  cases s with
  | operand o => exact ⟨_, _, rfl, rfl⟩
  | operator op =>
    cases op with
    | connective c => cases c <;> exact ⟨_, _, rfl, rfl⟩
    | comparison c => cases c <;> exact ⟨_, _, rfl, rfl⟩
    | _ => exact ⟨_, _, rfl, rfl⟩
  | not => exact ⟨_, _, rfl, rfl⟩
  | opening b =>
    cases b with
    | group => exact ⟨_, _, rfl, rfl⟩
    | call f => cases f <;> exact ⟨_, _, rfl, rfl⟩
    | pair f => cases f <;> exact ⟨_, _, rfl, rfl⟩
  | comma => exact ⟨_, _, rfl, rfl⟩
  | closing => exact ⟨_, _, rfl, rfl⟩

theorem ofTokens?_append (s : Symbol) {ts : List Token}
    (hts : ∀ t ∈ ts.head?, goesOn t = false) :
    ofTokens? (s.tokens ++ ts) = (ofTokens? ts).map (s :: ·) := by
  cases s with
  | operand o => rfl
  | operator op =>
    cases op with
    | connective c => cases c <;> rfl
    | comparison c => cases c <;> rfl
    | is =>
      -- `is` in front of `not` would be the longer phrase
      cases ts with
      | nil => rfl
      | cons t ts =>
        rw [tokens, Infix.tokens, List.singleton_append, ofTokens?]
        rintro us ⟨⟩
        exact absurd (hts _ rfl) (by decide)
    | _ => rfl
  | not => rfl
  | opening b =>
    cases b with
    | group => rfl
    | call f =>
      cases f with
      | trim =>
        -- so would `trim(` in front of a side
        cases ts with
        | nil => rfl
        | cons t ts =>
          rw [tokens, Bracket.tokens, List.cons_append, List.singleton_append, ofTokens?]
          · rfl
          · nofun
          · nofun
          · rintro us ⟨⟩
            exact absurd (hts _ rfl) (by decide)
          · rintro us ⟨⟩
            exact absurd (hts _ rfl) (by decide)
      | _ => rfl
    | pair f => cases f <;> rfl
  | comma => rfl
  | closing => rfl

/-- **Symbols are found again in their tokens.** -/
theorem ofTokens?_flatMap (ss : List Symbol) : ofTokens? (ss.flatMap tokens) = some ss := by
  have hhead : ∀ ss : List Symbol, ∀ t ∈ (ss.flatMap tokens).head?, goesOn t = false := by
    intro ss
    cases ss with
    | nil => exact nofun
    | cons s ss =>
      obtain ⟨t, ts, hs, ht⟩ := tokens_eq_cons s
      rw [List.flatMap_cons, hs]
      rintro u ⟨⟩
      exact ht
  induction ss with
  | nil => rfl
  | cons s ss ih => rw [List.flatMap_cons, ofTokens?_append s (hhead ss), ih, Option.map_some]

end Symbol

end WhereClause
