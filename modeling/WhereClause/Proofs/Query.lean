import WhereClause.Proofs.Conjunction
import WhereClause.Proofs.Page
import WhereClause.Proofs.Simulation
import WhereClause.Query

/-!
# Queries as conjunctions

A query is built by calls, and says what their filters say together. A filter in company is an
operand of `AND`, and one that stands alone is a predicate; the two are refused for the same reasons,
but for the literal of null, which is accepted in company only.

Headlines:
* `Query.filters_foldl_call`, `Query.page_foldl_call`: what calls leave behind, by induction on them.
* `Expr.filterText?_eq`: the text of a filter is the text of its condition.
* `Query.exists_compile_iff`, `Query.where_eq_ok_iff`: when a query has SQL, and which.
* `Query.compile_ofCalls`: the same for the query that calls make.
-/

namespace WhereClause

/-! ## Calls -/

/-- A call that goes into a query. -/
inductive QueryCall where
  | filter (e : Expr)
  | skip (n : Int64)
  | limit (n : Int64)
  | build
  deriving Repr

namespace QueryCall

/-- The filter that the call adds, if it adds one. -/
def filter? : QueryCall → Option Expr
  | filter e => some e
  | _ => none

/-- How many rows the call says to skip, if it does. -/
def skip? : QueryCall → Option Int64
  | skip n => some n
  | _ => none

/-- How many rows the call says to take, if it does. -/
def limit? : QueryCall → Option Int64
  | limit n => some n
  | _ => none

end QueryCall

namespace Query

/-- The query behind a call. -/
def call (q : Query) : QueryCall → Query
  | .filter e => q.filter e
  | .skip n => q.withSkip n
  | .limit n => q.withLimit n
  | .build => q

/-- The query that calls make of the empty one. -/
def ofCalls (calls : List QueryCall) : Query := calls.foldl call empty

theorem filters_call (q : Query) (c : QueryCall) :
    (q.call c).filters = q.filters ++ c.filter?.toList := by
  cases c <;> simp [call, filter, withSkip, withLimit, QueryCall.filter?]

theorem page_call (q : Query) (c : QueryCall) :
    (q.call c).page = ⟨c.skip?.or q.page.skip, c.limit?.or q.page.limit⟩ := by
  cases c <;> rfl

/-- **Calls add their filters in their order.** -/
theorem filters_foldl_call (q : Query) (calls : List QueryCall) :
    (calls.foldl call q).filters = q.filters ++ calls.filterMap QueryCall.filter? := by
  induction calls generalizing q with
  | nil => simp
  | cons c calls ih =>
    rw [List.foldl_cons, ih, filters_call, List.append_assoc, List.filterMap_cons]
    cases c.filter? <;> rfl

/-- **The last skip and the last limit count.** -/
theorem page_foldl_call (q : Query) (calls : List QueryCall) :
    (calls.foldl call q).page =
      ⟨(calls.filterMap QueryCall.skip?).getLast?.or q.page.skip,
        (calls.filterMap QueryCall.limit?).getLast?.or q.page.limit⟩ := by
  induction calls generalizing q with
  | nil => rfl
  | cons c calls ih =>
    rw [List.foldl_cons, ih, page_call]
    cases c <;> simp [QueryCall.skip?, QueryCall.limit?, List.getLast?_cons]

end Query

/-! ## Texts of filters -/

namespace Expr

/-- The text that a filter has in company: the text of its predicate, or of the literal of null. -/
def filterText? (d : Dialect) : Expr → Option String
  | constant .null => some "null"
  | e => (e.compile d).toOption

theorem filterText?_of_ne_null {d : Dialect} {e : Expr} (he : e ≠ null) :
    e.filterText? d = (e.compile d).toOption := by
  unfold filterText?
  split
  · exact absurd rfl he
  · rfl

/-- **The text of a filter is the text of its condition.** -/
theorem filterText?_eq (d : Dialect) (e : Expr) :
    e.filterText? d = e.condition?.map (Sql.text d) := by
  by_cases he : e = null
  · rw [he]
    rfl
  · rw [filterText?_of_ne_null he, compile_eq]
    cases hpredicate : e.predicate with
    | ok x =>
      rw [(predicate_eq_ok_iff.mp hpredicate).1]
      rfl
    | error err =>
      cases hcondition : e.condition? with
      | none => rfl
      | some x =>
        have hnull : x ≠ .null := by
          rintro rfl
          exact he (condition?_eq_null_iff.mp hcondition)
        rw [predicate_eq_ok_iff.mpr ⟨hcondition, hnull⟩] at hpredicate
        cases hpredicate

theorem filterText?_isSome_iff {d : Dialect} {e : Expr} :
    (∃ s, e.filterText? d = some s) ↔ (∃ s, e.compile d = .ok s) ∨ e = null := by
  by_cases he : e = null
  · exact iff_of_true ⟨"null", by rw [he]; rfl⟩ (Or.inr he)
  · rw [filterText?_of_ne_null he, or_iff_left he]
    cases e.compile d with
    | error err => exact iff_of_false nofun nofun
    | ok s => exact iff_of_true ⟨s, rfl⟩ ⟨s, rfl⟩

theorem mapM_filterText? (d : Dialect) (es : List Expr) :
    es.mapM (filterText? d) = (es.mapM condition?).map (List.map (Sql.text d)) := by
  induction es with
  | nil => rfl
  | cons e es ih =>
    rw [List.mapM_cons, List.mapM_cons, ih, filterText?_eq]
    cases e.condition? with
    | none => rfl
    | some x => cases es.mapM condition? <;> rfl

end Expr

/-! ## Queries -/

namespace Query

theorem compile_eq_ok_iff {d : Dialect} {q : Query} {c : CompiledQuery} :
    q.compile d = .ok c ↔
      (q.predicate?.elim (.ok "") fun e => e.compile d) = .ok c.predicate ∧
        q.page.compile d = .ok c.page := by
  have hpage : ∀ x : Except CompileError String,
      (x >>= fun s => q.page.compile d >>= fun t => .ok ⟨s, t⟩) = .ok c ↔
        x = .ok c.predicate ∧ q.page.compile d = .ok c.page := by
    intro x
    constructor
    · intro h
      obtain ⟨s, hs, h⟩ := except_bind_eq_ok.mp h
      obtain ⟨t, ht, h⟩ := except_bind_eq_ok.mp h
      cases h
      exact ⟨hs, ht⟩
    · rintro ⟨hs, ht⟩
      exact except_bind_eq_ok.mpr ⟨_, hs, except_bind_eq_ok.mpr ⟨_, ht, rfl⟩⟩
  unfold compile
  cases q.predicate? with
  | none => exact hpage (.ok "")
  | some e => exact hpage (e.compile d)

/-- The conditions of the filters are joined. The literal of null is refused if it is the only one. -/
theorem foldl_and_predicate_eq_ok_iff {e : Expr} {es : List Expr} {z : Sql} :
    (es.foldl Expr.and e).predicate = .ok z ↔
      (∀ f ∈ e :: es, f = .null → 2 ≤ (e :: es).length) ∧
        ∃ x ys, (e :: es).mapM Expr.condition? = some (x :: ys) ∧ ys.foldl Sql.conjoin x = z := by
  have hconditions : (es.foldl Expr.and e).condition? = some z ↔
      ∃ x ys, (e :: es).mapM Expr.condition? = some (x :: ys) ∧ ys.foldl Sql.conjoin x = z := by
    rw [Expr.condition?_foldl_and, List.mapM_cons]
    cases e.condition? with
    | none => exact iff_of_false nofun nofun
    | some x => cases es.mapM Expr.condition? <;> simp [and_assoc]
  rw [Expr.predicate_eq_ok_iff, hconditions, and_comm]
  refine and_congr_left fun ⟨x, ys, hxs, hz⟩ => ?_
  obtain ⟨x', ys', hx, hys, heq⟩ := Expr.mapM_condition?_cons_eq_some.mp hxs
  cases heq
  rw [← hz]
  cases es with
  | nil =>
    cases hys
    have hnull : x = .null ↔ e = .null := by
      rw [← Expr.condition?_eq_null_iff, hx, Option.some.injEq]
    simp [hnull]
  | cons f es =>
    obtain ⟨y, ys', -, -, rfl⟩ := Expr.mapM_condition?_cons_eq_some.mp hys
    exact iff_of_true (Sql.foldl_conjoin_ne_null x y ys') fun _ _ _ => by simp

/-- **The texts of the filters are joined**, unless one of them has none. -/
theorem where_eq_ok_iff {d : Dialect} {q : Query} {s : String} :
    (q.predicate?.elim (.ok "") fun e => e.compile d) = .ok s ↔
      (∀ e ∈ q.filters, e = .null → 2 ≤ q.filters.length) ∧
        ∃ texts, q.filters.mapM (Expr.filterText? d) = some texts ∧
          s = Sql.conjunctionText (Sql.mergeKnown d (q.filters.map Expr.truth?) texts) := by
  unfold predicate?
  cases q.filters with
  | nil =>
    constructor
    · intro h
      cases h
      exact ⟨nofun, [], rfl, rfl⟩
    · rintro ⟨-, texts, h, rfl⟩
      cases h
      rfl
  | cons e es =>
    have hcompile : Expr.compile d (es.foldl Expr.and e) = .ok s ↔
        ∃ z, (es.foldl Expr.and e).predicate = .ok z ∧ z.text d = s := Expr.compile_eq_ok_iff
    refine hcompile.trans ?_
    simp only [foldl_and_predicate_eq_ok_iff, Expr.mapM_filterText?]
    constructor
    · rintro ⟨z, ⟨hnull, x, ys, hxs, rfl⟩, rfl⟩
      refine ⟨hnull, (x :: ys).map (Sql.text d), ?_, ?_⟩
      · rw [hxs]
        rfl
      · rw [Expr.map_truth?_of_mapM hxs, Sql.text_conjunction]
    · rintro ⟨hnull, texts, htexts, rfl⟩
      obtain ⟨xs, hxs, rfl⟩ := Option.map_eq_some_iff.mp htexts
      obtain ⟨x, ys, -, -, rfl⟩ := Expr.mapM_condition?_cons_eq_some.mp hxs
      refine ⟨_, ⟨hnull, x, ys, hxs, rfl⟩, ?_⟩
      rw [Expr.map_truth?_of_mapM hxs, Sql.text_conjunction]

theorem exists_page_compile_iff {d : Dialect} {p : Page} :
    (∃ s, p.compile d = .ok s) ↔ p.IsValid := by
  rw [← Page.exists_pageClause_iff (d := d)]
  exact exists_congr fun s => except_mapError_eq_ok

/-- **The filters have texts** if each of them is a predicate or the literal of null. -/
theorem exists_mapM_filterText?_iff {d : Dialect} {es : List Expr} :
    (∃ texts, es.mapM (Expr.filterText? d) = some texts) ↔
      ∀ e ∈ es, (∃ s, e.compile d = .ok s) ∨ e = .null := by
  induction es with
  | nil => exact iff_of_true ⟨[], rfl⟩ nofun
  | cons e es ih =>
    rw [List.forall_mem_cons, ← ih, ← Expr.filterText?_isSome_iff, List.mapM_cons]
    cases e.filterText? d with
    | none => simp
    | some s => cases es.mapM (Expr.filterText? d) <;> simp

/-- **A query has SQL** if its page is valid, and each filter is a predicate or, in company, the
literal of null. -/
theorem exists_compile_iff {d : Dialect} {q : Query} :
    (∃ c, q.compile d = .ok c) ↔
      q.page.IsValid ∧
        ∀ e ∈ q.filters, (∃ s, e.compile d = .ok s) ∨ e = .null ∧ 2 ≤ q.filters.length := by
  have hfilter : ∀ e : Expr, ((∃ s, e.compile d = .ok s) ∨ e = .null ∧ 2 ≤ q.filters.length) ↔
      (e = .null → 2 ≤ q.filters.length) ∧ ((∃ s, e.compile d = .ok s) ∨ e = .null) := by
    intro e
    by_cases he : e = .null
    · subst he
      have hrefused : ¬∃ s, Expr.null.compile d = .ok s := fun ⟨_, h⟩ => nomatch h
      simp [hrefused]
    · simp [he]
  simp only [hfilter, imp_and, forall_and]
  rw [← exists_mapM_filterText?_iff, ← exists_page_compile_iff (d := d)]
  constructor
  · rintro ⟨c, hc⟩
    obtain ⟨hwhere, hpage⟩ := compile_eq_ok_iff.mp hc
    obtain ⟨hnull, texts, htexts, -⟩ := where_eq_ok_iff.mp hwhere
    exact ⟨⟨_, hpage⟩, hnull, texts, htexts⟩
  · rintro ⟨⟨page, hpage⟩, hnull, texts, htexts⟩
    exact ⟨⟨_, page⟩, compile_eq_ok_iff.mpr
      ⟨where_eq_ok_iff.mpr ⟨hnull, texts, htexts, rfl⟩, hpage⟩⟩

/-- **A query is the ordered conjunction of its filters.** It holds the filters of its calls in their
order, the last skip and the last limit. It has SQL if its page is valid, and each filter is a
predicate by itself or, in company, the literal of null. Its predicate is then made of the texts that
the filters have by themselves, after those in front whose truth values are known are merged. -/
theorem compile_ofCalls (d : Dialect) (calls : List QueryCall) :
    (ofCalls calls).filters = calls.filterMap QueryCall.filter? ∧
      (ofCalls calls).page = ⟨(calls.filterMap QueryCall.skip?).getLast?,
        (calls.filterMap QueryCall.limit?).getLast?⟩ ∧
      ((∃ c, (ofCalls calls).compile d = .ok c) ↔
        (ofCalls calls).page.IsValid ∧ ∀ e ∈ (ofCalls calls).filters,
          (∃ s, e.compile d = .ok s) ∨ e = .null ∧ 2 ≤ (ofCalls calls).filters.length) ∧
      ∀ c, (ofCalls calls).compile d = .ok c →
        (ofCalls calls).page.compile d = .ok c.page ∧
          ∃ texts, (ofCalls calls).filters.mapM (Expr.filterText? d) = some texts ∧
            c.predicate =
              Sql.conjunctionText (Sql.mergeKnown d ((ofCalls calls).filters.map Expr.truth?) texts) := by
  refine ⟨?_, ?_, ?_, fun c hc => ?_⟩
  · rw [ofCalls, filters_foldl_call]
    rfl
  · rw [ofCalls, page_foldl_call]
    simp [empty]
  · exact exists_compile_iff
  · obtain ⟨hwhere, hpage⟩ := compile_eq_ok_iff.mp hc
    exact ⟨hpage, (where_eq_ok_iff.mp hwhere).2⟩

/-- Calls that filter by two truth values, null and a column, and set the limit twice. -/
def openPage : List QueryCall :=
  [.filter (.constant (.bool true)), .limit 5, .filter (.constant (.bool false)), .skip 20,
    .filter .null, .filter (.column "open" none), .limit 10, .build]

theorem compile_openPage :
    ∃ c, (ofCalls openPage).compile .sqlite = .ok c ∧
      c.predicate = "(((1=0) AND null) AND \"open\"=1)" ∧
      (ofCalls openPage).page = ⟨some 20, some 10⟩ := by
  obtain ⟨hfilters, hpage, hsucceeds, hresult⟩ := compile_ofCalls .sqlite openPage
  have hvalid : (ofCalls openPage).page.IsValid := by
    intro s hs
    obtain rfl := Option.some.inj (hpage ▸ hs)
    refine ⟨by decide, by decide, fun l hl => ?_⟩
    obtain rfl := Option.some.inj (hpage ▸ hl)
    exact ⟨by decide, by decide⟩
  have hall : ∀ e ∈ (ofCalls openPage).filters,
      (∃ s, e.compile .sqlite = .ok s) ∨ e = .null ∧ 2 ≤ (ofCalls openPage).filters.length := by
    rw [hfilters]
    intro e he
    simp only [openPage, List.filterMap_cons, List.filterMap_nil, QueryCall.filter?,
      List.mem_cons, List.not_mem_nil, or_false] at he
    rcases he with rfl | rfl | rfl | rfl
    · exact Or.inl ⟨_, rfl⟩
    · exact Or.inl ⟨_, rfl⟩
    · exact Or.inr ⟨rfl, by decide⟩
    · exact Or.inl ⟨_, rfl⟩
  obtain ⟨c, hc⟩ := hsucceeds.mpr ⟨hvalid, hall⟩
  obtain ⟨-, texts, htexts, hpredicate⟩ := hresult c hc
  have hsame : (ofCalls openPage).filters.mapM (Expr.filterText? .sqlite) =
      some ["(1=1)", "(1=0)", "null", "\"open\"=1"] := by decide +kernel
  obtain rfl := Option.some.inj (htexts.symm.trans hsame)
  refine ⟨c, hc, hpredicate.trans ?_, hpage⟩
  decide +kernel

end Query

end WhereClause
