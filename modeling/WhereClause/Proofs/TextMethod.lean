import WhereClause.Expr.Builder
import WhereClause.Proofs.Condition
import WhereClause.Proofs.Simulation

/-!
# Methods of texts in the host and in SQL

A call of a method is evaluated on a constant and written in SQL over a column, by two tables of
their own. They have the same methods with the same arguments. A search becomes a `like`, whose
pattern is the text that is searched for with `%` around it. Nothing is escaped, so the search in
SQL is that of the host exactly if the text has no wildcard of its own.

Headlines:
* `Reduced.exists_call_iff`: what can be called on a text can be called in SQL.
* `Text.isLike_append_of_plain`: a pattern without wildcards matches itself only.
* `Text.isLike_sample`: a pattern matches the text in which nothing stands for `%`, and a letter for
  `_`.
* `SearchPlace.found_eq_isLike_iff`: which texts are searched for alike.
* `Expr.text_methods_agree`: both for expressions.
-/

namespace WhereClause

/-! ## Patterns -/

namespace Text

/-- Whether some rest of the text passes the test, the whole text included. -/
def anyRest (test : List Char → Bool) : List Char → Bool
  | [] => test []
  | c :: s => test (c :: s) || anyRest test s

theorem anyRest_iff {test : List Char → Bool} {s : List Char} :
    anyRest test s = true ↔ ∃ u v, s = u ++ v ∧ test v = true := by
  induction s with
  | nil => simp [anyRest, and_assoc]
  | cons c s ih =>
    rw [anyRest, Bool.or_eq_true, ih]
    constructor
    · rintro (h | ⟨u, v, rfl, h⟩)
      · exact ⟨[], c :: s, rfl, h⟩
      · exact ⟨c :: u, v, rfl, h⟩
    · rintro ⟨u, v, hsplit, h⟩
      cases u with
      | nil =>
        left
        rw [hsplit]
        exact h
      | cons d u =>
        right
        exact ⟨u, v, (List.cons.inj hsplit).2, h⟩

/-- Whether a text matches a pattern of `like`: `%` stands for any run of characters, `_` for
exactly one, and every other character for itself. There is no escape character. -/
def isLike : List Char → List Char → Bool
  | [], s => s.isEmpty
  | '%' :: p, s => anyRest (isLike p) s
  | _ :: _, [] => false
  | c :: p, d :: s => (c == '_' || c == d) && isLike p s

/-- The pattern has no wildcard. -/
def IsPlain (p : List Char) : Prop := '%' ∉ p ∧ '_' ∉ p

theorem isLike_percent {p s : List Char} :
    isLike ('%' :: p) s = true ↔ ∃ u v, s = u ++ v ∧ isLike p v = true := by
  rw [isLike, anyRest_iff]

/-- What is not `%` takes one character. -/
theorem isLike_cons {c d : Char} {p s : List Char} (hc : c ≠ '%') :
    isLike (c :: p) (d :: s) = ((c == '_' || c == d) && isLike p s) := by
  rw [isLike]
  exact hc

theorem isLike_cons_nil {c : Char} {p : List Char} (hc : c ≠ '%') : isLike (c :: p) [] = false := by
  rw [isLike]
  exact hc

/-- `%` at the end stands for whatever is left. -/
theorem isLike_percent_nil (s : List Char) : isLike ['%'] s = true :=
  isLike_percent.mpr ⟨s, [], (List.append_nil s).symm, rfl⟩

/-- **A pattern without wildcards matches itself only**, in front of any other pattern. -/
theorem isLike_append_of_plain {p : List Char} (hp : IsPlain p) (q s : List Char) :
    isLike (p ++ q) s = true ↔ ∃ v, s = p ++ v ∧ isLike q v = true := by
  induction p generalizing s with
  | nil => simp
  | cons c p ih =>
    obtain ⟨hpercent, hunderscore⟩ := hp
    rw [List.mem_cons, not_or] at hpercent hunderscore
    have hc : c ≠ '%' := fun e => hpercent.1 e.symm
    have hc' : (c == '_') = false := beq_false_of_ne fun e => hunderscore.1 e.symm
    have ih := ih ⟨hpercent.2, hunderscore.2⟩
    cases s with
    | nil => simp [isLike_cons_nil hc]
    | cons d s =>
      simp only [List.cons_append, isLike_cons hc, hc', Bool.false_or, Bool.and_eq_true, beq_iff_eq,
        ih, List.cons.injEq]
      constructor
      · rintro ⟨rfl, v, hs, hv⟩
        exact ⟨v, ⟨rfl, hs⟩, hv⟩
      · rintro ⟨v, ⟨rfl, hs⟩, hv⟩
        exact ⟨rfl, v, hs, hv⟩

theorem isLike_of_plain {p : List Char} (hp : IsPlain p) (s : List Char) :
    isLike p s = true ↔ s = p := by
  have h := isLike_append_of_plain hp [] s
  rw [List.append_nil] at h
  simp [h, isLike]

/-! ## Wildcards -/

/-- A text that matches the pattern, with nothing for `%` and a letter for `_`. -/
def sample : List Char → List Char
  | [] => []
  | c :: p => if c = '%' then sample p else (if c = '_' then 'a' else c) :: sample p

/-- **A pattern matches its sample**, in front of whatever another pattern matches. -/
theorem isLike_sample (p : List Char) {q s : List Char} (h : isLike q s = true) :
    isLike (p ++ q) (sample p ++ s) = true := by
  induction p with
  | nil => exact h
  | cons c p ih =>
    by_cases hc : c = '%'
    · subst hc
      rw [List.cons_append, sample, if_pos rfl]
      exact isLike_percent.mpr ⟨[], _, rfl, ih⟩
    · rw [List.cons_append, sample, if_neg hc, List.cons_append, isLike_cons hc]
      by_cases hc' : c = '_'
      · simp [hc', ih]
      · simp [hc', ih]

theorem length_sample_le (p : List Char) : (sample p).length ≤ p.length := by
  induction p with
  | nil => exact Nat.le_refl 0
  | cons c p ih =>
    rw [sample]
    split
    · exact Nat.le_succ_of_le ih
    · exact Nat.succ_le_succ ih

/-- Every wildcard makes the sample differ from the pattern. -/
theorem isPlain_of_sample_eq {p : List Char} (h : sample p = p) : IsPlain p := by
  induction p with
  | nil => simp [IsPlain]
  | cons c p ih =>
    rw [sample] at h
    split at h
    · have hlen := length_sample_le p
      rw [h, List.length_cons] at hlen
      omega
    · rename_i hc
      obtain ⟨hhead, htail⟩ := List.cons.inj h
      have hc' : c ≠ '_' := by
        rintro rfl
        exact absurd hhead (by decide)
      obtain ⟨hpercent, hunderscore⟩ := ih htail
      simp [IsPlain, hpercent, hunderscore, Ne.symm hc, Ne.symm hc']

/-- A pattern that is part of its own sample has no wildcard. -/
theorem isPlain_of_part {p a b : List Char} (h : sample p = a ++ p ++ b) : IsPlain p := by
  have hlen := congrArg List.length h
  have hle := length_sample_le p
  simp only [List.length_append] at hlen
  have ha : a = [] := List.eq_nil_of_length_eq_zero (by omega)
  have hb : b = [] := List.eq_nil_of_length_eq_zero (by omega)
  apply isPlain_of_sample_eq
  rw [h, ha, hb, List.nil_append, List.append_nil]

end Text

/-! ## Searches -/

namespace SearchPlace

open Text

variable (place : SearchPlace) (needle : String)

theorem found_part {s : String} (h : place.found needle s = true) :
    ∃ a b, s.toList = a ++ needle.toList ++ b := by
  cases place with
  | starting =>
    obtain ⟨t, ht⟩ := startsWith_iff.mp h
    exact ⟨[], t, ht⟩
  | ending =>
    obtain ⟨t, ht⟩ := endsWith_iff.mp h
    exact ⟨t, [], by rw [ht, List.append_nil]⟩
  | anywhere => exact contains_iff.mp h

/-- Without wildcards a search in SQL is that of the host. -/
theorem isLike_of_plain (hp : IsPlain needle.toList) (s : String) :
    isLike (place.pattern needle).toList s.toList = place.found needle s := by
  rw [Bool.eq_iff_iff]
  cases place with
  | starting =>
    have htext : (pattern .starting needle).toList = needle.toList ++ ['%'] := by simp [pattern]
    rw [htext, isLike_append_of_plain hp, found, startsWith_iff]
    simp [isLike_percent_nil]
  | ending =>
    have htext : (pattern .ending needle).toList = '%' :: needle.toList := by simp [pattern]
    rw [htext, isLike_percent, found, endsWith_iff]
    simp [Text.isLike_of_plain hp]
  | anywhere =>
    have htext : (pattern .anywhere needle).toList = '%' :: (needle.toList ++ ['%']) := by
      simp [pattern]
    rw [htext, isLike_percent, found, contains_iff]
    simp only [isLike_append_of_plain hp, isLike_percent_nil, and_true]
    constructor
    · rintro ⟨u, v, hs, w, rfl⟩
      exact ⟨u, w, by rw [hs, List.append_assoc]⟩
    · rintro ⟨u, w, hs⟩
      exact ⟨u, needle.toList ++ w, by rw [hs, List.append_assoc], w, rfl⟩

/-- The pattern of a search matches the sample of what is searched for. -/
theorem isLike_pattern_sample :
    isLike (place.pattern needle).toList (sample needle.toList) = true := by
  have hending := isLike_sample needle.toList (isLike_percent_nil [])
  rw [List.append_nil] at hending
  cases place with
  | starting =>
    have htext : (pattern .starting needle).toList = needle.toList ++ ['%'] := by simp [pattern]
    rw [htext]
    exact hending
  | ending =>
    have htext : (pattern .ending needle).toList = '%' :: needle.toList := by simp [pattern]
    have hself := isLike_sample needle.toList (q := []) (s := []) rfl
    rw [List.append_nil, List.append_nil] at hself
    rw [htext]
    exact isLike_percent.mpr ⟨[], _, rfl, hself⟩
  | anywhere =>
    have htext : (pattern .anywhere needle).toList = '%' :: (needle.toList ++ ['%']) := by
      simp [pattern]
    rw [htext]
    exact isLike_percent.mpr ⟨[], _, rfl, hending⟩

/-- **A search in SQL is that of the host exactly if what is searched for has no wildcard.** With
one, the two differ on the sample. -/
theorem found_eq_isLike_iff :
    (∀ s : String, isLike (place.pattern needle).toList s.toList = place.found needle s) ↔
      IsPlain needle.toList := by
  constructor
  · intro h
    have hfound := h (String.ofList (sample needle.toList))
    rw [String.toList_ofList, isLike_pattern_sample] at hfound
    obtain ⟨a, b, hpart⟩ := found_part place needle hfound.symm
    rw [String.toList_ofList] at hpart
    exact isPlain_of_part hpart
  · exact isLike_of_plain place needle

end SearchPlace

/-! ## Calls -/

namespace Reduced

/-- **What can be called on a text can be called in SQL**, with the same arguments. -/
theorem exists_call_iff {x : Sql} (hl : ∀ l, x ≠ .literal l) (hb : ∀ b, x ≠ .truth b) (s : String)
    (method : String) (args : List Reduced) :
    (∃ v, (value (.text s)).call method args = .ok (value v)) ↔
      ∃ y, (sql x).call method args = .ok (sql y) := by
  rw [call_sql hl hb]
  cases hargs : args.mapM value? with
  | none => simp [call, hargs]
  | some vs =>
    simp only [call, hargs, Value.call, Value.callText?_eq, Option.bind_some]
    cases TextMethod.ofCall? method vs with
    | none => simp [Except.map]
    | some m => simp [Except.map]

end Reduced

namespace Expr

theorem exists_reduce_call_iff (s name : String) (enum : Option EnumType) (method : String)
    (args : List Expr) :
    (∃ v, (call (text s) method args).reduce = .ok (.value v)) ↔
      ∃ x, (call (column name enum) method args).reduce = .ok (.sql x) := by
  have hl : ∀ l, Sql.column ⟨name, enum⟩ ≠ .literal l := by simp
  have hb : ∀ b, Sql.column ⟨name, enum⟩ ≠ .truth b := by simp
  have htext : (text s).reduce = .ok (.value (.text s)) := rfl
  rw [reduce, htext, reduce, column, reduce_column]
  cases reduceList args with
  | error err => simp [bind, Except.bind]
  | ok rs => exact Reduced.exists_call_iff hl hb s method rs

theorem reduceList_text {e : Expr} {needle : String} (he : e.reduce = .ok (.value (.text needle))) :
    reduceList [e] = .ok [.value (.text needle)] := by
  rw [reduceList, reduceList, he]
  rfl

theorem reduce_call_search {e : Expr} {needle : String}
    (he : e.reduce = .ok (.value (.text needle))) (v : String) (place : SearchPlace) :
    (call (text v) place.methodName [e]).reduce =
      .ok (.value (.bool (place.found needle v))) := by
  have htext : (text v).reduce = .ok (.value (.text v)) := rfl
  rw [reduce, htext, reduceList_text he]
  cases place <;> rfl

theorem compile_call_search {e : Expr} {needle : String}
    (he : e.reduce = .ok (.value (.text needle))) (d : Dialect) (name : String)
    (enum : Option EnumType) (place : SearchPlace) :
    (call (column name enum) place.methodName [e]).compile d =
      .ok (Text.identifier name ++ " like " ++ Text.quoted (place.pattern needle)) := by
  have hreduce : (call (column name enum) place.methodName [e]).reduce =
      .ok (.sql (.method (.search place needle) (.column ⟨name, enum⟩))) := by
    rw [reduce, column, reduce_column, reduceList_text he]
    cases place <;> rfl
  rw [compile_eq, predicate, hreduce]
  rfl

/-- **Host and SQL have the same methods of texts.** A call that has a value on a constant has an
SQL form on a column, and the other way round. A search on a column, for whatever is a text,
compares it by `like` with a quoted pattern, and the pattern matches exactly the texts on which the
same search is true in the host if and only if what is searched for has no wildcard. -/
theorem text_methods_agree (d : Dialect) (name : String) (enum : Option EnumType) :
    (∀ (s method : String) (args : List Expr),
      (∃ v, (call (text s) method args).reduce = .ok (.value v)) ↔
        ∃ x, (call (column name enum) method args).reduce = .ok (.sql x)) ∧
      ∀ (place : SearchPlace) (e : Expr) (needle : String),
        e.reduce = .ok (.value (.text needle)) → ∃ literal pattern,
          (call (column name enum) place.methodName [e]).compile d =
              .ok (Text.identifier name ++ " like " ++ literal) ∧
            Text.Quoted.scan '\'' literal.toList = some (pattern, []) ∧
            ((∀ v : String, Text.isLike pattern v.toList = true ↔
                (call (text v) place.methodName [e]).reduce = .ok (.value (.bool true))) ↔
              '%' ∉ needle.toList ∧ '_' ∉ needle.toList) := by
  refine ⟨fun s method args => exists_reduce_call_iff s name enum method args, ?_⟩
  intro place e needle he
  refine ⟨_, (place.pattern needle).toList, compile_call_search he d name enum place, ?_, ?_⟩
  · have hscan := Text.Quoted.scan_enclose '\'' (place.pattern needle).toList [] (by simp)
    rwa [List.append_nil, ← Text.toList_quoted] at hscan
  · refine Iff.trans ?_ (place.found_eq_isLike_iff needle)
    refine forall_congr' fun v => ?_
    rw [reduce_call_search he, Except.ok.injEq, Reduced.value.injEq, Value.bool.injEq]
    exact Bool.eq_iff_iff.symm

/-- A text that is put together in the host, with a wildcard in it. -/
def tenPercent : Expr := add (text "10") (text "%")

/-- Some text is found in the host and not by SQL, or the other way round. -/
theorem contains_tenPercent_differs :
    tenPercent.reduce = .ok (.value (.text "10%")) ∧
      (call (column "x" none) "Contains" [tenPercent]).compile .sqlite =
        .ok "\"x\" like '%10%%'" ∧
      ∃ literal pattern,
        (call (column "x" none) "Contains" [tenPercent]).compile .sqlite =
            .ok (Text.identifier "x" ++ " like " ++ literal) ∧
          Text.Quoted.scan '\'' literal.toList = some (pattern, []) ∧
          ¬∀ v : String, Text.isLike pattern v.toList = true ↔
            (call (text v) "Contains" [tenPercent]).reduce = .ok (.value (.bool true)) := by
  have hneedle : tenPercent.reduce = .ok (.value (.text "10%")) := rfl
  obtain ⟨-, hsearch⟩ := text_methods_agree .sqlite "x" none
  obtain ⟨literal, pattern, hcompile, hscan, hplain⟩ := hsearch .anywhere tenPercent "10%" hneedle
  refine ⟨hneedle, rfl, literal, pattern, hcompile, hscan, fun hall => ?_⟩
  exact absurd (hplain.mp hall).1 (by decide)

end Expr

end WhereClause
