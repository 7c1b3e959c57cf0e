import WhereClause.Proofs.Tree

/-!
# Reading by precedence

The reading of a text by SQL's operator precedence: `OR` binds loosest, then `AND`, `NOT`, the
comparisons with `is` and `like`, then sums, then products; operators of one level go from left to
right. It is a single pass. What is still open to the left stands in a stack of frames, and an
operator closes the frames that bind at least as tightly as itself (`collapse`). `NOT` is read
wherever an operand may stand, and takes everything up to the first operator that binds looser.

A tree is `Ordered` if its parentheses are enough, and that is a condition on each operator and its
two operands: nothing that meets the operator from the left binds looser than it (`trailing`), and
everything that meets it from the right binds tighter (`leading`).

Headlines:
* `Tree.read?_symbols`: an ordered tree is read back from its symbols.
* `Tree.exists_read?_symbols`: the symbols of every tree are read as some tree.
* `Tree.ordered_of_read?`: whatever is read is ordered.
* `Tree.ofText?_eq_some_iff`: so a text with the tokens of a tree is read as that tree exactly if
  the tree is ordered.
-/

namespace WhereClause

/-- An operator or a bracket that waits for what stands on its right. -/
inductive Frame where
  | left (op : Infix) (x : Tree)
  | not
  | opening (b : Bracket)
  | second (f : PairFunction) (x : Tree)
  deriving Repr, DecidableEq

/-- How tightly a frame binds what stands on its right. Nothing leaves a bracket. -/
def Frame.level : Frame → Nat
  | left op _ => op.level
  | not => notLevel
  | opening _ | second _ _ => 0

/-- How far a text has been read: an operand comes next, or one has just been read. -/
inductive ReadState where
  | before (stack : List Frame)
  | behind (stack : List Frame) (x : Tree)
  deriving Repr, DecidableEq

/-- Closes the operators on top of the stack that bind at least as tightly as the level. -/
def collapse (level : Nat) : List Frame → Tree → List Frame × Tree
  | .left op x :: stack, y =>
    if level ≤ op.level then collapse level stack (.binary op x y) else (.left op x :: stack, y)
  | .not :: stack, y =>
    if level ≤ notLevel then collapse level stack (.not y) else (.not :: stack, y)
  | stack, y => (stack, y)

namespace ReadState

/-- Reads a symbol. A comma and a closing parenthesis close all operators up to their bracket. -/
def step : ReadState → Symbol → Option ReadState
  | before stack, .operand o => some (behind stack (.leaf o))
  | before stack, .not => some (before (.not :: stack))
  | before stack, .opening b => some (before (.opening b :: stack))
  | behind stack x, .operator op =>
    let r := collapse op.level stack x
    some (before (.left op r.2 :: r.1))
  | behind stack x, .comma =>
    match collapse 1 stack x with
    | (.opening (.pair f) :: stack, x) => some (before (.second f x :: stack))
    | _ => none
  | behind stack x, .closing =>
    match collapse 1 stack x with
    | (.opening .group :: stack, x) => some (behind stack (.group x))
    | (.opening (.call f) :: stack, x) => some (behind stack (.call f x))
    | (.second f x :: stack, y) => some (behind stack (.pair f x y))
    | _ => none
  | _, _ => none

/-- Reads symbols. -/
def run (s : ReadState) : List Symbol → Option ReadState
  | [] => some s
  | c :: cs => (s.step c).bind (run · cs)

/-- The tree that has been read, if nothing is open but operators. -/
def tree? : ReadState → Option Tree
  | before _ => none
  | behind stack x =>
    match collapse 1 stack x with
    | ([], x) => some x
    | _ => none

theorem run_append (s : ReadState) (cs ds : List Symbol) :
    s.run (cs ++ ds) = (s.run cs).bind (·.run ds) := by
  induction cs generalizing s with
  | nil => rfl
  | cons c cs ih =>
    rw [List.cons_append, run, run, Option.bind_assoc]
    congr 1
    funext t
    exact ih t

/-- Reading goes on where it has got to. -/
theorem run_of_run {s t : ReadState} {cs : List Symbol} (h : s.run cs = some t) (ds : List Symbol) :
    s.run (cs ++ ds) = t.run ds := by
  rw [run_append, h, Option.bind_some]

theorem run_opening (stack : List Frame) (b : Bracket) (cs : List Symbol) :
    (before stack).run (.opening b :: cs) = (before (.opening b :: stack)).run cs := rfl

theorem run_not (stack : List Frame) (cs : List Symbol) :
    (before stack).run (.not :: cs) = (before (.not :: stack)).run cs := rfl

theorem run_operator (stack : List Frame) (x : Tree) (op : Infix) (cs : List Symbol) :
    (behind stack x).run (.operator op :: cs) =
      (before (.left op (collapse op.level stack x).2 :: (collapse op.level stack x).1)).run cs :=
  rfl

/-! What a closing parenthesis and a comma do depends on the bracket that they find. -/

section Brackets

variable {s stack : List Frame} {x y : Tree}

theorem run_closing_group (h : collapse 1 s x = (.opening .group :: stack, y)) :
    (behind s x).run [.closing] = some (behind stack (.group y)) := by
  rw [run, step, h]
  rfl

theorem run_closing_call {f : Function} (h : collapse 1 s x = (.opening (.call f) :: stack, y)) :
    (behind s x).run [.closing] = some (behind stack (.call f y)) := by
  rw [run, step, h]
  rfl

theorem run_comma {f : PairFunction} (h : collapse 1 s x = (.opening (.pair f) :: stack, y))
    (cs : List Symbol) :
    (behind s x).run (.comma :: cs) = (before (.second f y :: stack)).run cs := by
  rw [run, step, h]
  rfl

theorem run_closing_pair {f : PairFunction} {z : Tree}
    (h : collapse 1 s x = (.second f z :: stack, y)) :
    (behind s x).run [.closing] = some (behind stack (.pair f z y)) := by
  rw [run, step, h]
  rfl

end Brackets

end ReadState

namespace Tree

/-- The tree of symbols. -/
def read? (cs : List Symbol) : Option Tree := ((ReadState.before []).run cs).bind ReadState.tree?

/-- The tree of a text. -/
def ofText? (s : String) : Option Tree := do
  let ts ← Token.lex s.toList
  let cs ← Symbol.ofTokens? ts
  read? cs

/-! ## Ordered trees -/

/-- A level above that of every operator. -/
def atomLevel : Nat := 7

/-- How tightly at least binds what is open at the front of a tree. `NOT` is not open there: nothing
in front of it can take its operand from it. -/
def leading : Tree → Nat
  | binary op x _ => min op.level (leading x)
  | _ => atomLevel

/-- How tightly at least binds what is open at the end of a tree. -/
def trailing : Tree → Nat
  | binary op _ y => min op.level (trailing y)
  | not x => min notLevel (trailing x)
  | _ => atomLevel

/-- The operands of every operator need no more parentheses than they have. -/
def Ordered : Tree → Prop
  | leaf _ => True
  | group x | call _ x => Ordered x
  | pair _ x y => Ordered x ∧ Ordered y
  | binary op x y => Ordered x ∧ Ordered y ∧ op.level ≤ trailing x ∧ op.level < leading y
  | not x => Ordered x ∧ notLevel < leading x

/-! ## Ordered trees are read back -/

/-- The frames that are open at the end of a tree, innermost first. -/
def spine : Tree → List Frame
  | binary op x y => spine y ++ [.left op x]
  | not x => spine x ++ [.not]
  | _ => []

/-- What stands on the right of the innermost frame that is open at the end of a tree. -/
def last : Tree → Tree
  | binary _ _ y => last y
  | not x => last x
  | x => x

/-- The level that the top of a stack binds with, and less than that of every operator if the stack
is empty. -/
def topLevel : List Frame → Nat
  | [] => 0
  | f :: _ => f.level

theorem level_pos (op : Infix) : 1 ≤ op.level := by
  cases op with
  | connective c => cases c <;> decide
  | comparison c => exact Nat.le_add_left 1 3
  | _ => decide

theorem leading_pos (x : Tree) : 1 ≤ x.leading := by
  induction x with
  | binary op x y ihx =>
    have := level_pos op
    rw [leading]
    omega
  | _ => exact Nat.le_add_left 1 6

theorem trailing_pos (x : Tree) : 1 ≤ x.trailing := by
  induction x with
  | binary op x y _ ihy =>
    have := level_pos op
    rw [trailing]
    omega
  | not x ih =>
    rw [trailing, notLevel]
    omega
  | _ => exact Nat.le_add_left 1 6

/-- What is open at the end of a tree closes to that tree again. -/
theorem collapse_spine {level : Nat} (x : Tree) (stack : List Frame) (h : level ≤ x.trailing) :
    collapse level (x.spine ++ stack) x.last = collapse level stack x := by
  induction x generalizing stack with
  | binary op x y _ ihy =>
    rw [trailing] at h
    rw [spine, last, List.append_assoc, ihy _ (by omega), List.singleton_append, collapse,
      if_pos (by omega)]
  | not x ih =>
    rw [trailing] at h
    rw [spine, last, List.append_assoc, ih _ (by omega), List.singleton_append, collapse,
      if_pos (by omega)]
  | _ => rfl

theorem collapse_of_topLevel_lt {level : Nat} {stack : List Frame} (h : topLevel stack < level)
    (x : Tree) : collapse level stack x = (stack, x) := by
  cases stack with
  | nil => rfl
  | cons f stack =>
    cases f with
    | left op y =>
      have : ¬ level ≤ op.level := Nat.not_le.mpr h
      rw [collapse, if_neg this]
    | not =>
      have : ¬ level ≤ notLevel := Nat.not_le.mpr h
      rw [collapse, if_neg this]
    | opening b => rfl
    | second f y => rfl

/-- What is open at the end of a tree closes in front of the bracket that holds the tree. -/
theorem collapse_bracket {f : Frame} (hf : f.level = 0) (x : Tree) (stack : List Frame) :
    collapse 1 (x.spine ++ f :: stack) x.last = (f :: stack, x) := by
  have htop : topLevel (f :: stack) < 1 := by rw [topLevel, hf]; decide
  rw [collapse_spine x _ (trailing_pos x), collapse_of_topLevel_lt htop]

/-- **Reading the symbols of an ordered tree** leaves open what is open at its end, on top of a
stack that nothing in front of the tree closes. -/
theorem run_symbols {x : Tree} (hx : x.Ordered) (stack : List Frame)
    (hs : topLevel stack < x.leading) :
    (ReadState.before stack).run x.symbols = some (.behind (x.spine ++ stack) x.last) := by
  induction x generalizing stack with
  | leaf o => rfl
  | group x ih =>
    have h := ih hx (.opening .group :: stack) (leading_pos x)
    rw [symbols, ReadState.run_opening, ReadState.run_of_run h,
      ReadState.run_closing_group (collapse_bracket rfl x _)]
    rfl
  | call f x ih =>
    have h := ih hx (.opening (.call f) :: stack) (leading_pos x)
    rw [symbols, ReadState.run_opening, ReadState.run_of_run h,
      ReadState.run_closing_call (collapse_bracket rfl x _)]
    rfl
  | pair f x y ihx ihy =>
    have h1 := ihx hx.1 (.opening (.pair f) :: stack) (leading_pos x)
    have h2 := ihy hx.2 (.second f x :: stack) (leading_pos y)
    rw [symbols, ReadState.run_opening, ReadState.run_of_run h1,
      ReadState.run_comma (collapse_bracket rfl x _), ReadState.run_of_run h2,
      ReadState.run_closing_pair (collapse_bracket rfl y _)]
    rfl
  | binary op x y ihx ihy =>
    obtain ⟨hx', hy, htrail, hlead⟩ := hx
    rw [leading] at hs
    have h1 := ihx hx' stack (by omega)
    have h2 := ihy hy (.left op x :: stack) hlead
    rw [symbols, ReadState.run_of_run h1, ReadState.run_operator, collapse_spine _ _ htrail,
      collapse_of_topLevel_lt (by omega), h2, spine, last, List.append_assoc, List.singleton_append]
  | not x ih =>
    have h := ih hx.1 (.not :: stack) hx.2
    rw [symbols, ReadState.run_not, h, spine, last, List.append_assoc, List.singleton_append]

/-- **An ordered tree is read back** from its symbols. -/
theorem read?_symbols {x : Tree} (hx : x.Ordered) : read? x.symbols = some x := by
  have h := run_symbols hx [] (leading_pos x)
  have hc := collapse_spine x [] (trailing_pos x)
  rw [read?, h, Option.bind_some, ReadState.tree?, hc]
  rfl

/-! ## Something is always read -/

/-- A stack from its innermost bracket on. -/
def brackets : List Frame → List Frame
  | .left _ _ :: stack => brackets stack
  | .not :: stack => brackets stack
  | stack => stack

theorem brackets_collapse (level : Nat) (stack : List Frame) (x : Tree) :
    brackets (collapse level stack x).1 = brackets stack := by
  fun_induction collapse level stack x with
  | case1 op x stack y hle ih => exact ih
  | case2 => rfl
  | case3 stack y hle ih => exact ih
  | case4 => rfl
  | case5 => rfl

/-- A comma and a closing parenthesis close everything up to a bracket. -/
theorem collapse_one (stack : List Frame) (x : Tree) : (collapse 1 stack x).1 = brackets stack := by
  fun_induction collapse 1 stack x with
  | case1 op x stack y hle ih => exact ih
  | case2 op x stack y hle => exact absurd (level_pos op) hle
  | case3 stack y hle ih => exact ih
  | case4 stack y hle => exact absurd (by decide) hle
  | case5 stack y hleft hnot => rw [brackets.eq_3 stack hleft hnot]

/-- What the symbols of a tree are read as may differ from the tree, but not by what is open in
front of it. -/
theorem run_symbols_brackets (x : Tree) (stack : List Frame) :
    ∃ stack' y, (ReadState.before stack).run x.symbols = some (.behind stack' y) ∧
      brackets stack' = brackets stack := by
  -- a bracket on top of the stack is still there when it is to be closed
  have hclose : ∀ {f : Frame} {s t : List Frame} (y : Tree), brackets s = f :: t →
      ∃ z, collapse 1 s y = (f :: t, z) := by
    intro f s t y h
    exact ⟨(collapse 1 s y).2, Prod.ext ((collapse_one s y).trans h) rfl⟩
  induction x generalizing stack with
  | leaf o => exact ⟨stack, _, rfl, rfl⟩
  | group x ih =>
    obtain ⟨s, y, hrun, hs⟩ := ih (.opening .group :: stack)
    obtain ⟨z, hz⟩ := hclose y hs
    refine ⟨stack, .group z, ?_, rfl⟩
    rw [symbols, ReadState.run_opening, ReadState.run_of_run hrun, ReadState.run_closing_group hz]
  | call f x ih =>
    obtain ⟨s, y, hrun, hs⟩ := ih (.opening (.call f) :: stack)
    obtain ⟨z, hz⟩ := hclose y hs
    refine ⟨stack, .call f z, ?_, rfl⟩
    rw [symbols, ReadState.run_opening, ReadState.run_of_run hrun, ReadState.run_closing_call hz]
  | pair f x y ihx ihy =>
    obtain ⟨s, x', hrun, hs⟩ := ihx (.opening (.pair f) :: stack)
    obtain ⟨x'', hx⟩ := hclose x' hs
    obtain ⟨t, y', hrun', ht⟩ := ihy (.second f x'' :: stack)
    obtain ⟨y'', hy⟩ := hclose y' ht
    refine ⟨stack, .pair f x'' y'', ?_, rfl⟩
    rw [symbols, ReadState.run_opening, ReadState.run_of_run hrun, ReadState.run_comma hx,
      ReadState.run_of_run hrun', ReadState.run_closing_pair hy]
  | binary op x y ihx ihy =>
    obtain ⟨s, x', hrun, hs⟩ := ihx stack
    obtain ⟨t, y', hrun', ht⟩ :=
      ihy (.left op (collapse op.level s x').2 :: (collapse op.level s x').1)
    refine ⟨t, y', ?_, ?_⟩
    · rw [symbols, ReadState.run_of_run hrun, ReadState.run_operator, hrun']
    · rw [ht, brackets, brackets_collapse, hs]
  | not x ih =>
    obtain ⟨s, y, hrun, hs⟩ := ih (.not :: stack)
    refine ⟨s, y, ?_, hs⟩
    rw [symbols, ReadState.run_not, hrun]

/-- **The symbols of every tree are read**, if perhaps as another tree. -/
theorem exists_read?_symbols (x : Tree) : ∃ y, read? x.symbols = some y := by
  obtain ⟨s, y, hrun, hs⟩ := run_symbols_brackets x []
  have hc : collapse 1 s y = ([], (collapse 1 s y).2) := Prod.ext ((collapse_one s y).trans hs) rfl
  refine ⟨(collapse 1 s y).2, ?_⟩
  rw [read?, hrun, Option.bind_some, ReadState.tree?, hc]

end Tree

/-! ## Whatever is read is ordered -/

namespace Frame

/-- How tightly at least binds what is open at the front of a frame. -/
def leading : Frame → Nat
  | left op x => min op.level x.leading
  | _ => Tree.atomLevel

/-- What a frame holds already is in order. -/
def Ordered : Frame → Prop
  | left op x => x.Ordered ∧ op.level ≤ x.trailing
  | second _ x => x.Ordered
  | not | opening _ => True

end Frame

/-- Each frame of a stack is in order, and binds tighter than the frame below it. -/
def OrderedStack : List Frame → Prop
  | [] => True
  | f :: stack => f.Ordered ∧ Tree.topLevel stack < f.leading ∧ OrderedStack stack

/-- What a reading keeps to: the stack is in order, and what was read last is an operand that
nothing is open in. -/
def ReadState.Ordered : ReadState → Prop
  | before stack => OrderedStack stack
  | behind stack x =>
    OrderedStack stack ∧ x.Ordered ∧ x.leading = Tree.atomLevel ∧ x.trailing = Tree.atomLevel

namespace Tree

theorem level_lt_atomLevel (op : Infix) : op.level < atomLevel := by
  cases op with
  | connective c => cases c <;> decide
  | comparison c => exact (by decide : 4 < 7)
  | _ => decide

theorem topLevel_lt_atomLevel (stack : List Frame) : topLevel stack < atomLevel := by
  cases stack with
  | nil => decide
  | cons f stack =>
    cases f with
    | left op x => exact level_lt_atomLevel op
    | not => exact (by decide : 3 < 7)
    | opening b => exact (by decide : 0 < 7)
    | second f x => exact (by decide : 0 < 7)

/-- Closing operators keeps everything in order. -/
theorem ordered_collapse {level : Nat} (hlevel : 1 ≤ level) {stack : List Frame} {x : Tree}
    (hs : OrderedStack stack) (hx : x.Ordered) (hlead : topLevel stack < x.leading)
    (htrail : level ≤ x.trailing) :
    OrderedStack (collapse level stack x).1 ∧ (collapse level stack x).2.Ordered ∧
      topLevel (collapse level stack x).1 < (collapse level stack x).2.leading ∧
      level ≤ (collapse level stack x).2.trailing ∧
      topLevel (collapse level stack x).1 < level := by
  fun_induction collapse level stack x with
  | case1 op x stack y hle ih =>
    obtain ⟨⟨hx', hop⟩, hlt, hs'⟩ := hs
    refine ih hs' ⟨hx', hx, hop, hlead⟩ hlt ?_
    rw [trailing]
    omega
  | case2 op x stack y hle =>
    exact ⟨hs, hx, hlead, htrail, Nat.lt_of_not_le hle⟩
  | case3 stack y hle ih =>
    obtain ⟨_, hlt, hs'⟩ := hs
    refine ih hs' ⟨hx, hlead⟩ hlt ?_
    rw [trailing]
    omega
  | case4 stack y hle =>
    exact ⟨hs, hx, hlead, htrail, Nat.lt_of_not_le hle⟩
  | case5 stack y hleft hnot =>
    have htop : topLevel stack = 0 := by
      cases stack with
      | nil => rfl
      | cons f stack =>
        cases f with
        | left op x => exact absurd rfl (hleft op x stack)
        | not => exact absurd rfl (hnot stack)
        | opening b => rfl
        | second f x => rfl
    refine ⟨hs, hx, hlead, htrail, ?_⟩
    rw [htop]
    exact hlevel

end Tree

namespace ReadState

open WhereClause.Tree

theorem ordered_step {s t : ReadState} {c : Symbol} (hs : s.Ordered) (h : s.step c = some t) :
    t.Ordered := by
  cases s with
  | before stack =>
    have htop := topLevel_lt_atomLevel stack
    cases c with
    | operand o =>
      cases h
      exact ⟨hs, trivial, rfl, rfl⟩
    | not =>
      cases h
      exact ⟨trivial, htop, hs⟩
    | opening b =>
      cases h
      exact ⟨trivial, htop, hs⟩
    | operator op => cases h
    | comma => cases h
    | closing => cases h
  | behind stack x =>
    obtain ⟨hstack, hx, hlead, htrail⟩ := hs
    have htop : topLevel stack < x.leading := hlead ▸ topLevel_lt_atomLevel stack
    cases c with
    | operator op =>
      have hop : op.level ≤ x.trailing := htrail ▸ Nat.le_of_lt (level_lt_atomLevel op)
      obtain ⟨h1, h2, h3, h4, h5⟩ := ordered_collapse (level_pos op) hstack hx htop hop
      cases h
      exact ⟨⟨h2, h4⟩, Nat.lt_min.mpr ⟨h5, h3⟩, h1⟩
    | comma =>
      obtain ⟨h1, h2, -, -, -⟩ :=
        ordered_collapse (Nat.le_refl 1) hstack hx htop (trailing_pos x)
      rw [step] at h
      split at h
      · rename_i f stack' y he
        rw [he] at h1 h2
        cases h
        exact ⟨h2, topLevel_lt_atomLevel stack', h1.2.2⟩
      · cases h
    | closing =>
      obtain ⟨h1, h2, -, -, -⟩ :=
        ordered_collapse (Nat.le_refl 1) hstack hx htop (trailing_pos x)
      rw [step] at h
      split at h
      · rename_i he
        rw [he] at h1 h2
        cases h
        exact ⟨h1.2.2, h2, rfl, rfl⟩
      · rename_i he
        rw [he] at h1 h2
        cases h
        exact ⟨h1.2.2, h2, rfl, rfl⟩
      · rename_i he
        rw [he] at h1 h2
        cases h
        exact ⟨h1.2.2, ⟨h1.1, h2⟩, rfl, rfl⟩
      · cases h
    | operand o => cases h
    | not => cases h
    | opening b => cases h

theorem ordered_run {s t : ReadState} {cs : List Symbol} (hs : s.Ordered) (h : s.run cs = some t) :
    t.Ordered := by
  induction cs generalizing s with
  | nil =>
    cases h
    exact hs
  | cons c cs ih =>
    obtain ⟨u, hu, hrun⟩ := Option.bind_eq_some_iff.mp h
    exact ih (ordered_step hs hu) hrun

end ReadState

namespace Tree

/-- **Whatever is read is ordered.** -/
theorem ordered_of_read? {cs : List Symbol} {x : Tree} (h : read? cs = some x) : x.Ordered := by
  obtain ⟨s, hrun, htree⟩ := Option.bind_eq_some_iff.mp h
  have hs : s.Ordered := ReadState.ordered_run (s := .before []) trivial hrun
  cases s with
  | before stack => cases htree
  | behind stack y =>
    obtain ⟨hstack, hy, hlead, -⟩ := hs
    have htop : topLevel stack < y.leading := hlead ▸ topLevel_lt_atomLevel stack
    have hc := ordered_collapse (Nat.le_refl 1) hstack hy htop (trailing_pos y)
    rw [ReadState.tree?] at htree
    split at htree
    · rename_i he
      rw [he] at hc
      cases htree
      exact hc.2.1
    · cases htree

/-- A text with the tokens of a tree is read as its symbols. -/
theorem ofText?_eq_read? {s : String} {x : Tree} (h : Token.lex s.toList = some x.tokens) :
    ofText? s = read? x.symbols := by
  simp only [ofText?, h, tokens, Symbol.ofTokens?_flatMap, Option.bind_eq_bind, Option.bind_some]

/-- **Precedence is exact**: a text with the tokens of a tree is read as that tree if and only if
the tree is ordered. -/
theorem ofText?_eq_some_iff {s : String} {x : Tree} (h : Token.lex s.toList = some x.tokens) :
    ofText? s = some x ↔ x.Ordered := by
  rw [ofText?_eq_read? h]
  exact ⟨ordered_of_read?, read?_symbols⟩

end Tree

end WhereClause
