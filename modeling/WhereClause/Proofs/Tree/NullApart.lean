import Mathlib.Data.List.Chain
import WhereClause.Proofs.Tree

/-!
# Null apart from equality

Whether null stands directly beside `=` or `<>` among tokens. What is neither of them can stand
beside everything, and keeps apart what it stands between: brackets, commas, words, and all other
operators. So it is a matter of the operands of `=` and `<>`, and of these only of where they start
and end.

Headlines:
* `Token.NullApart.join`: tokens with something inert between them are kept apart.
* `Tree.nullApart_binary`: the operands of `=` and `<>` have to end apart from null, those of other
  operators not.
-/

namespace WhereClause

/-! ## Tokens -/

namespace Token

/-- The token is null. -/
def isNull : Token → Bool
  | operand .null => true
  | _ => false

/-- The token is `=` or `<>`. -/
def isEquality : Token → Bool
  | mark .eq | mark .ne => true
  | _ => false

/-- The tokens are null and one of `=` and `<>`, in either order. -/
def comparesNull (t u : Token) : Bool := t.isNull && u.isEquality || t.isEquality && u.isNull

/-- Null stands nowhere directly before or behind `=` or `<>`. -/
def NullApart (ts : List Token) : Prop := ts.IsChain fun t u => comparesNull t u = false

/-- The tokens neither start nor end in null. -/
def EdgesApart (ts : List Token) : Prop :=
  (∀ t ∈ ts.head?, t.isNull = false) ∧ ∀ t ∈ ts.getLast?, t.isNull = false

/-- The token can stand beside every other. -/
def isInert (t : Token) : Bool := !t.isNull && !t.isEquality

variable {ts us is : List Token}

theorem comparesNull_of_inert_left {t : Token} (ht : t.isInert = true) (u : Token) :
    comparesNull t u = false := by
  simp only [isInert, Bool.and_eq_true, Bool.not_eq_true'] at ht
  simp [comparesNull, ht]

theorem comparesNull_of_inert_right (t : Token) {u : Token} (hu : u.isInert = true) :
    comparesNull t u = false := by
  simp only [isInert, Bool.and_eq_true, Bool.not_eq_true'] at hu
  simp [comparesNull, hu]

theorem nullApart_singleton (t : Token) : NullApart [t] := List.isChain_singleton t

theorem NullApart.inert_append (hi : ∀ i ∈ is, i.isInert = true) (hu : NullApart us) :
    NullApart (is ++ us) := by
  induction is with
  | nil => exact hu
  | cons i is ih =>
    obtain ⟨hi, his⟩ := List.forall_mem_cons.mp hi
    exact List.isChain_cons.mpr ⟨fun u _ => comparesNull_of_inert_left hi u, ih his⟩

/-- **What can stand beside everything keeps apart what it stands between.** -/
theorem NullApart.join (hne : is ≠ []) (hi : ∀ i ∈ is, i.isInert = true) (ht : NullApart ts)
    (hu : NullApart us) : NullApart (ts ++ (is ++ us)) := by
  refine List.IsChain.append ht (hu.inert_append hi) fun t _ u hmem => ?_
  cases is with
  | nil => exact absurd rfl hne
  | cons i is =>
    cases hmem
    exact comparesNull_of_inert_right t (hi _ List.mem_cons_self)

/-- An equality keeps apart what does not end in null from what does not start in it. -/
theorem NullApart.equality {m : Token} (hm : m.isNull = false) (ht : NullApart ts)
    (hlast : ∀ t ∈ ts.getLast?, t.isNull = false) (hu : NullApart us)
    (hhead : ∀ u ∈ us.head?, u.isNull = false) : NullApart (ts ++ ([m] ++ us)) := by
  have hback : NullApart ([m] ++ us) :=
    List.isChain_cons.mpr ⟨fun u hmem => by simp [comparesNull, hm, hhead u hmem], hu⟩
  refine List.IsChain.append ht hback fun t hmem u hu' => ?_
  cases hu'
  simp [comparesNull, hm, hlast t hmem]

theorem EdgesApart.append (ht : EdgesApart ts) (hu : EdgesApart us) : EdgesApart (ts ++ us) := by
  refine ⟨fun t hmem => ?_, fun t hmem => ?_⟩
  · rw [List.head?_append] at hmem
    rcases Option.or_eq_some_iff.mp hmem with hmem | ⟨-, hmem⟩
    · exact ht.1 t hmem
    · exact hu.1 t hmem
  · rw [List.getLast?_append] at hmem
    rcases Option.or_eq_some_iff.mp hmem with hmem | ⟨-, hmem⟩
    · exact hu.2 t hmem
    · exact ht.2 t hmem

theorem inert_bracket (b : Bracket) : ∀ i ∈ b.tokens, i.isInert = true := by
  cases b with
  | group => decide
  | call f => cases f <;> decide
  | pair f => cases f <;> decide

theorem bracket_ne_nil (b : Bracket) : b.tokens ≠ [] := by
  cases b with
  | group => exact nofun
  | call f => cases f <;> exact nofun
  | pair f => cases f <;> exact nofun

end Token

/-! ## Trees -/

/-- The operator is `=` or `<>`. -/
def Infix.isEquality : Infix → Bool
  | comparison c => c.isEquality
  | _ => false

theorem Token.inert_operator {op : Infix} (h : op.isEquality = false) :
    ∀ i ∈ op.tokens, i.isInert = true := by
  cases op with
  | connective c => cases c <;> decide
  | comparison c => cases c <;> first | decide | cases h
  | _ => decide

namespace Tree

open Token

variable {x y : Tree}

theorem nullApart_leaf (o : Operand) : NullApart (leaf o).tokens := nullApart_singleton _

/-- Between brackets everything stands apart from what is around them. -/
theorem nullApart_bracket (b : Bracket) {ts : List Token} (h : NullApart ts) :
    NullApart (b.tokens ++ (ts ++ [.mark .rightParen])) := by
  have hclose : NullApart (ts ++ ([.mark .rightParen] ++ [])) :=
    h.join (List.cons_ne_nil _ _) (by decide) List.isChain_nil
  exact hclose.inert_append (inert_bracket b)

theorem edgesApart_bracket (b : Bracket) (ts : List Token) :
    EdgesApart (b.tokens ++ (ts ++ [.mark .rightParen])) := by
  refine ⟨fun t hmem => ?_, fun t hmem => ?_⟩
  · rw [List.head?_append_of_ne_nil _ (bracket_ne_nil b)] at hmem
    have hi := inert_bracket b t (List.mem_of_mem_head? hmem)
    simp only [isInert, Bool.and_eq_true, Bool.not_eq_true'] at hi
    exact hi.1
  · rw [← List.append_assoc, List.getLast?_concat] at hmem
    cases hmem
    rfl

theorem nullApart_group (h : NullApart x.tokens) : NullApart (group x).tokens := by
  rw [tokens_group]
  exact nullApart_bracket .group h

theorem nullApart_call (f : Function) (h : NullApart x.tokens) : NullApart (call f x).tokens := by
  rw [tokens_call]
  exact nullApart_bracket (.call f) h

theorem nullApart_pair (f : PairFunction) (hx : NullApart x.tokens) (hy : NullApart y.tokens) :
    NullApart (pair f x y).tokens := by
  have h := nullApart_bracket (.pair f)
    (hx.join (List.cons_ne_nil (.mark .comma) []) (by decide) hy)
  rw [tokens_pair]
  simpa only [List.append_assoc, List.cons_append, List.nil_append] using h

/-- Around `=` and `<>` the operands have to end apart from null, around other operators not. -/
theorem nullApart_binary {op : Infix} (hx : NullApart x.tokens) (hy : NullApart y.tokens)
    (h : op.isEquality = true → EdgesApart x.tokens ∧ EdgesApart y.tokens) :
    NullApart (binary op x y).tokens := by
  rw [tokens_binary]
  cases hop : op.isEquality with
  | true =>
    obtain ⟨hxe, hye⟩ := h hop
    cases op with
    | comparison c =>
      cases c with
      | eq => exact hx.equality rfl hxe.2 hy hye.1
      | ne => exact hx.equality rfl hxe.2 hy hye.1
      | _ => cases hop
    | _ => cases hop
  | false =>
    refine hx.join ?_ (inert_operator hop) hy
    obtain ⟨t, ts, hts, -⟩ := Symbol.tokens_eq_cons (.operator op)
    rw [show op.tokens = t :: ts from hts]
    exact List.cons_ne_nil t ts

theorem nullApart_not (h : NullApart x.tokens) : NullApart (not x).tokens := by
  have hnot : ∀ i ∈ [Token.keyword .not], i.isInert = true := by decide
  rw [tokens_not]
  exact h.inert_append hnot

theorem edgesApart_leaf {o : Operand} (h : (Token.operand o).isNull = false) :
    EdgesApart (leaf o).tokens := by
  refine ⟨fun t hmem => ?_, fun t hmem => ?_⟩
  · cases hmem
    exact h
  · cases hmem
    exact h

theorem edgesApart_group (x : Tree) : EdgesApart (group x).tokens := by
  rw [tokens_group]
  exact edgesApart_bracket .group x.tokens

theorem edgesApart_call (f : Function) (x : Tree) : EdgesApart (call f x).tokens := by
  rw [tokens_call]
  exact edgesApart_bracket (.call f) x.tokens

theorem edgesApart_pair (f : PairFunction) (x y : Tree) : EdgesApart (pair f x y).tokens := by
  have h := edgesApart_bracket (.pair f) (x.tokens ++ .mark .comma :: y.tokens)
  rw [tokens_pair]
  simpa only [List.append_assoc, List.cons_append] using h

theorem edgesApart_binary {op : Infix} (hx : EdgesApart x.tokens) (hy : EdgesApart y.tokens) :
    EdgesApart (binary op x y).tokens := by
  rw [tokens_binary]
  have hop : EdgesApart op.tokens := by
    cases op with
    | connective c => cases c <;> exact ⟨by decide, by decide⟩
    | comparison c => cases c <;> exact ⟨by decide, by decide⟩
    | _ => exact ⟨by decide, by decide⟩
  exact hx.append (hop.append hy)

theorem edgesApart_not (h : EdgesApart x.tokens) : EdgesApart (not x).tokens := by
  have hnot : EdgesApart [.keyword .not] := ⟨by decide, by decide⟩
  rw [tokens_not]
  exact hnot.append h

end Tree

end WhereClause
