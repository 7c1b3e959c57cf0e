import WhereClause.EnumType.Declaration
import WhereClause.Proofs.EnumColumn

/-!
# Enums as they are declared

What a declaration says of its variants is read off it without regard to what can go wrong: a
discriminant is the value of its literal or one more than the one before, and the stored name is
the one that the attribute `sql` gives or else the identifier. A declaration that is accepted has
the table that it says. No two entries share an ordinal or a name, since each variant is compared
with all those before it, and so the table can be read in both directions.

Headlines:
* `EnumDeclaration.memberOf_eq_ok_iff`: what one variant adds to the table.
* `EnumDeclaration.membersFrom_lists`, `EnumDeclaration.membersFrom_distinct`: what all of them do,
  by induction on the variants.
* `EnumDeclaration.enumType_roundTrips`: the table of a declaration, its look-ups, and what its
  members are compiled to.
-/

namespace WhereClause

/-! ## What a declaration says -/

/-- The value of a discriminant, if it is a literal. -/
def Discriminant.value? : Discriminant → Option Int
  | literal false n => some n
  | literal true n => some (-n)
  | other => none

/-- The name that an entry gives, if it gives one. -/
def AttributeEntry.rename? (e : AttributeEntry) : Option String :=
  match e.value with
  | .text s => if e.key = "rename" then some s else none
  | _ => none

/-- The name that the attributes `sql` give, if they give one. -/
def Attribute.rename? (attributes : List Attribute) : Option String :=
  ((attributes.filter fun a => a.path == "sql").flatMap fun a => a.entries.getD []).findSome?
    AttributeEntry.rename?

namespace Variant

/-- The discriminant of a variant, where `next` is the one that it has if it declares none. -/
def discriminantOr (next : Int) (v : Variant) : Option Int :=
  match v.discriminant with
  | some d => d.value?
  | none => some next

/-- The name under which a variant is stored. -/
def storedName (v : Variant) : String := (Attribute.rename? v.attributes).getD v.name

end Variant

/-- The discriminants of variants, in their order: each is declared, or one more than the one before
it, where `next` is the one that comes first. -/
def EnumDeclaration.discriminantsFrom? (next : Int) : List Variant → Option (List Int)
  | [] => some []
  | v :: vs => do
    let n ← v.discriminantOr next
    let ns ← discriminantsFrom? (n + 1) vs
    return n :: ns

/-! ## Variants -/

theorem Discriminant.ordinal_eq_ok_iff {d : Discriminant} {ordinal : Int64} :
    d.ordinal = .ok ordinal ↔ d.value? = some ordinal.toInt := by
  cases d with
  | other => exact ⟨nofun, nofun⟩
  | literal negative n =>
    cases negative with
    | false =>
      rw [Discriminant.ordinal, value?, Option.some_inj, Eq.comm (a := (n : Int)),
        ← Word.signed?_eq_some_iff]
      cases Word.signed? n <;> simp
    | true =>
      rw [Discriminant.ordinal, value?, Option.some_inj, Eq.comm (a := -(n : Int)),
        ← Word.signed?_eq_some_iff]
      split
      · -- What is too large for 128 bits is too small for a word once it is negated.
        have hnone : Word.signed? (-n) = none := Word.signed?_eq_none_iff.mpr (by omega)
        simp [hnone]
      · cases Word.signed? (-n) <;> simp

/-- The ordinal of a variant, where `next` is the one that it has if it declares none. -/
def Variant.ordinalOr (next : Int64) (v : Variant) : Except DeclarationError Int64 :=
  match v.discriminant with
  | some d => d.ordinal
  | none => .ok next

theorem Variant.ordinalOr_eq_ok_iff {next ordinal : Int64} {v : Variant} :
    v.ordinalOr next = .ok ordinal ↔ v.discriminantOr next.toInt = some ordinal.toInt := by
  unfold ordinalOr discriminantOr
  cases v.discriminant with
  | some d => exact Discriminant.ordinal_eq_ok_iff
  | none => rw [Option.some_inj, Int64.toInt_inj, Except.ok.injEq]

namespace Attribute

theorem renameFrom_some_eq_ok_iff {name : String} {es : List AttributeEntry} {r : Option String} :
    renameFrom (some name) es = .ok r ↔ es = [] ∧ r = some name := by
  cases es with
  | nil =>
    constructor
    · intro h
      cases h
      exact ⟨rfl, rfl⟩
    · rintro ⟨-, rfl⟩
      rfl
  | cons e es =>
    refine iff_of_false (fun h => ?_) nofun
    rw [renameFrom] at h
    split at h
    · cases h
    · cases h
    · cases h

/-- An attribute gives a name by its only entry. -/
theorem renameFrom_none_eq_ok_iff {es : List AttributeEntry} {r : Option String} :
    renameFrom none es = .ok r ↔
      es = [] ∧ r = none ∨ ∃ s, s ≠ "" ∧ es = [⟨"rename", .text s⟩] ∧ r = some s := by
  cases es with
  | nil =>
    constructor
    · intro h
      cases h
      exact Or.inl ⟨rfl, rfl⟩
    · rintro (⟨-, rfl⟩ | ⟨s, -, hes, -⟩)
      · rfl
      · cases hes
  | cons e es =>
    obtain ⟨key, value⟩ := e
    constructor
    · intro h
      rw [renameFrom] at h
      split at h
      · rename_i s hkey hvalue
        rw [if_neg nofun, except_ite_error_eq_ok, renameFrom_some_eq_ok_iff] at h
        obtain ⟨hs, rfl, rfl⟩ := h
        obtain rfl : key = "rename" := eq_of_beq hkey
        obtain rfl : value = .text s := hvalue
        exact Or.inr ⟨s, by simpa using hs, rfl, rfl⟩
      · cases h
      · cases h
    · rintro (⟨hes, -⟩ | ⟨s, hs, hes, rfl⟩)
      · cases hes
      · cases hes
        have hempty : ¬s.isEmpty = true := by simpa using hs
        rw [renameFrom]
        exact (if_neg hempty).trans (renameFrom_some_eq_ok_iff.mpr ⟨rfl, rfl⟩)

/-- The name that is found is the one that is given, and it is not empty. -/
theorem rename_eq_ok {attributes : List Attribute} {r : Option String}
    (h : rename attributes = .ok r) : r = rename? attributes ∧ r ≠ some "" := by
  unfold rename at h
  rw [rename?]
  split at h
  · rename_i hfilter
    cases h
    rw [hfilter]
    exact ⟨rfl, nofun⟩
  · rename_i a hfilter
    rw [hfilter, List.flatMap_singleton]
    split at h
    · rename_i entries hentries
      rw [hentries]
      rcases renameFrom_none_eq_ok_iff.mp h with ⟨rfl, rfl⟩ | ⟨s, hs, rfl, rfl⟩
      · exact ⟨rfl, nofun⟩
      · exact ⟨rfl, fun e => hs (Option.some.inj e)⟩
    · cases h
  · cases h

end Attribute

namespace EnumDeclaration

/-- What a variant adds behind the members `done`: a member with the variant's ordinal and name, if
none has them already. -/
structure Declares (done : List DeclaredMember) (next : Int) (v : Variant) (m : DeclaredMember) :
    Prop where
  hasNoFields : v.hasFields = false
  identifier : m.identifier = v.name
  ordinal : v.discriminantOr next = some m.ordinal.toInt
  rename : ∃ r, Attribute.rename v.attributes = .ok r ∧ m.name = r.getD v.name
  newOrdinal : ∀ k ∈ done, k.ordinal ≠ m.ordinal
  newName : ∀ k ∈ done, k.name ≠ m.name

section

variable {done ms : List DeclaredMember} {next : Int64} {v : Variant} {vs : List Variant}
  {m : DeclaredMember}

theorem memberOf_eq (done : List DeclaredMember) (next : Int64) (v : Variant) :
    memberOf done next v =
      if v.hasFields = true then .error .fields
      else
        v.ordinalOr next >>= fun ordinal =>
        if (done.any fun k => k.ordinal == ordinal) = true then .error (.duplicateOrdinal ordinal)
        else
          Attribute.rename v.attributes >>= fun r =>
          if (done.any fun k => k.name == r.getD v.name) = true then
            .error (.duplicateName (r.getD v.name))
          else .ok ⟨v.name, ordinal, r.getD v.name⟩ := by
  unfold memberOf Variant.ordinalOr
  cases v.discriminant <;> rfl

/-- **A variant is taken if and only if it declares a member.** -/
theorem memberOf_eq_ok_iff : memberOf done next v = .ok m ↔ Declares done next.toInt v m := by
  rw [memberOf_eq, except_ite_error_eq_ok, except_bind_eq_ok]
  constructor
  · rintro ⟨hfields, ordinal, hordinal, h⟩
    obtain ⟨hnewOrdinal, h⟩ := except_ite_error_eq_ok.mp h
    obtain ⟨r, hr, h⟩ := except_bind_eq_ok.mp h
    obtain ⟨hnewName, h⟩ := except_ite_error_eq_ok.mp h
    cases h
    exact {
      hasNoFields := by simpa using hfields
      identifier := rfl
      ordinal := Variant.ordinalOr_eq_ok_iff.mp hordinal
      rename := ⟨r, hr, rfl⟩
      newOrdinal := by simpa using hnewOrdinal
      newName := by simpa using hnewName }
  · rintro ⟨hfields, hidentifier, hordinal, ⟨r, hr, hname⟩, hnewOrdinal, hnewName⟩
    refine ⟨by simpa using hfields, m.ordinal, Variant.ordinalOr_eq_ok_iff.mpr hordinal, ?_⟩
    refine except_ite_error_eq_ok.mpr ⟨by simpa using hnewOrdinal, ?_⟩
    refine except_bind_eq_ok.mpr ⟨r, hr, ?_⟩
    rw [← hname, ← hidentifier]
    exact except_ite_error_eq_ok.mpr ⟨by simpa using hnewName, rfl⟩

theorem Declares.name_eq {next : Int} (h : Declares done next v m) : m.name = v.storedName := by
  obtain ⟨r, hr, hname⟩ := h.rename
  rw [hname, Variant.storedName, (Attribute.rename_eq_ok hr).1]

theorem Declares.name_ne_empty {next : Int} (h : Declares done next v m) (hv : v.name ≠ "") :
    m.name ≠ "" := by
  obtain ⟨r, hr, hname⟩ := h.rename
  rw [hname]
  cases r with
  | none => exact hv
  | some s => exact fun e => (Attribute.rename_eq_ok hr).2 (congrArg some e)

theorem nextOrdinal_eq_ok_iff {ordinal after : Int64} :
    nextOrdinal ordinal = .ok after ↔ after.toInt = ordinal.toInt + 1 := by
  have hone : (1 : Int64).toInt = 1 := rfl
  rw [← hone, ← Word.add?_eq_some_iff, nextOrdinal]
  cases Word.add? ordinal 1 <;> simp

/-- The first variant declares a member, and the others go on behind it. -/
theorem membersFrom_cons_eq_ok_iff : membersFrom done next (v :: vs) = .ok ms ↔
    ∃ m after, Declares done next.toInt v m ∧ after.toInt = m.ordinal.toInt + 1 ∧
      membersFrom (done ++ [m]) after vs = .ok ms := by
  rw [membersFrom, except_bind_eq_ok]
  simp only [except_bind_eq_ok, memberOf_eq_ok_iff, nextOrdinal_eq_ok_iff, exists_and_left]

/-! ## Tables -/

/-- What variants declare: their identifiers, their discriminants and the names under which they are
stored, in their order. No name is empty, unless an identifier is. -/
structure Lists (next : Int) (vs : List Variant) (ms : List DeclaredMember) : Prop where
  identifiers : ms.map DeclaredMember.identifier = vs.map Variant.name
  ordinals : discriminantsFrom? next vs = some (ms.map fun m => m.ordinal.toInt)
  names : ms.map DeclaredMember.name = vs.map Variant.storedName
  named : (∀ v ∈ vs, v.name ≠ "") → ∀ m ∈ ms, m.name ≠ ""

/-- No two members share an ordinal or a name. -/
structure Distinct (ms : List DeclaredMember) : Prop where
  ordinals : (ms.map DeclaredMember.ordinal).Nodup
  names : (ms.map DeclaredMember.name).Nodup

theorem Lists.nil (next : Int) : Lists next [] [] where
  identifiers := rfl
  ordinals := rfl
  names := rfl
  named := nofun

theorem Lists.cons {next : Int} (hm : Declares done next v m)
    (h : Lists (m.ordinal.toInt + 1) vs ms) : Lists next (v :: vs) (m :: ms) where
  identifiers := by rw [List.map_cons, List.map_cons, hm.identifier, h.identifiers]
  ordinals := by
    rw [discriminantsFrom?, hm.ordinal, Option.bind_eq_bind, Option.bind_some, h.ordinals]
    rfl
  names := by rw [List.map_cons, List.map_cons, hm.name_eq, h.names]
  named hvs := by
    rw [List.forall_mem_cons] at hvs
    exact List.forall_mem_cons.mpr ⟨hm.name_ne_empty hvs.1, h.named hvs.2⟩

theorem Distinct.nil : Distinct [] where
  ordinals := List.nodup_nil
  names := List.nodup_nil

theorem Distinct.concat {next : Int} (h : Distinct done) (hm : Declares done next v m) :
    Distinct (done ++ [m]) where
  ordinals := by
    rw [List.map_append, List.map_singleton, List.nodup_append]
    exact ⟨h.ordinals, by simp, by simpa using hm.newOrdinal⟩
  names := by
    rw [List.map_append, List.map_singleton, List.nodup_append]
    exact ⟨h.names, by simp, by simpa using hm.newName⟩

/-- **The members are what the variants declare**, behind those that were there. -/
theorem membersFrom_lists (h : membersFrom done next vs = .ok ms) :
    ∃ new, ms = done ++ new ∧ Lists next.toInt vs new := by
  induction vs generalizing done next with
  | nil =>
    cases h
    exact ⟨[], (List.append_nil _).symm, .nil _⟩
  | cons v vs ih =>
    obtain ⟨m, after, hm, hafter, h⟩ := membersFrom_cons_eq_ok_iff.mp h
    obtain ⟨new, rfl, hnew⟩ := ih h
    rw [hafter] at hnew
    exact ⟨m :: new, by simp, .cons hm hnew⟩

/-- **No two members are alike.** -/
theorem membersFrom_distinct (hdone : Distinct done) (h : membersFrom done next vs = .ok ms) :
    Distinct ms := by
  induction vs generalizing done next with
  | nil =>
    cases h
    exact hdone
  | cons v vs ih =>
    obtain ⟨m, after, hm, -, h⟩ := membersFrom_cons_eq_ok_iff.mp h
    exact ih (hdone.concat hm) h

theorem check_eq (d : EnumDeclaration) :
    d.check =
      if d.isGeneric = true then .error .generic
      else if d.kind ≠ .enum then .error .notEnum
      else if d.variants.isEmpty = true then .error .noVariants
      else
        Attribute.rename d.attributes >>= fun r =>
        d.members >>= fun ms => .ok (r.getD d.name, ms) := by
  unfold check
  rfl

theorem members_of_check {d : EnumDeclaration} {name : String} (h : d.check = .ok (name, ms)) :
    d.members = .ok ms := by
  rw [check_eq] at h
  obtain ⟨-, h⟩ := except_ite_error_eq_ok.mp h
  obtain ⟨-, h⟩ := except_ite_error_eq_ok.mp h
  obtain ⟨-, h⟩ := except_ite_error_eq_ok.mp h
  obtain ⟨r, -, h⟩ := except_bind_eq_ok.mp h
  obtain ⟨ms, hms, h⟩ := except_bind_eq_ok.mp h
  cases h
  exact hms

/-- The type of a declaration is the table of its members. -/
theorem enumType_members {d : EnumDeclaration} {t : EnumType} (h : d.enumType = .ok t) :
    ∃ ms, d.check = .ok (t.name, ms) ∧ d.members = .ok ms ∧
      t.members = ms.map fun m => (m.ordinal, m.name) := by
  obtain ⟨⟨name, ms⟩, hcheck, rfl⟩ := except_map_eq_ok.mp h
  exact ⟨ms, hcheck, members_of_check hcheck, rfl⟩

/-! ## Reading a table in both directions -/

namespace Distinct

variable {t : EnumType} (h : Distinct ms) (ht : t.members = ms.map fun m => (m.ordinal, m.name))
  (hm : m ∈ ms)

include h ht hm

theorem nameOf? : t.nameOf? m.ordinal = some m.name := by
  have hkeys : (t.members.map Prod.fst).Nodup := by
    rw [ht, List.map_map]
    exact h.ordinals
  exact EnumType.nameOf?_of_mem hkeys (ht ▸ List.mem_map_of_mem hm)

theorem ordinalOf? : t.ordinalOf? m.name = some m.ordinal := by
  have hkeys : (t.members.map Prod.snd).Nodup := by
    rw [ht, List.map_map]
    exact h.names
  exact EnumType.ordinalOf?_of_mem hkeys (ht ▸ List.mem_map_of_mem hm)

variable (d : Dialect) (column : String) {op : Operator} (hop : op.isLogical = false)

include hop

theorem compile_behind :
    (Expr.binary op (.column column (some t)) (.ordinal m.ordinal)).compile d =
      .ok (Sql.operatorText op (Text.identifier column) (Text.quoted m.name)) :=
  Expr.compile_column_ordinal d column hop rfl (Word.signed?_toInt _) (h.nameOf? ht hm)

theorem compile_inFront :
    (Expr.binary op (.ordinal m.ordinal) (.column column (some t))).compile d =
      .ok (Sql.operatorText op (Text.quoted m.name) (Text.identifier column)) :=
  Expr.compile_ordinal_column d column hop rfl (Word.signed?_toInt _) (h.nameOf? ht hm)

end Distinct

/-- **A declared enum goes into SQL and back.** The table of a declaration that is accepted has the
discriminants and the stored names of the variants, in their order, and each of them once. Looking
up the name of an ordinal and the ordinal of a name are inverse to one another. Beside a column of
the enum a member is written as its stored name, whatever the operator, and no two members are
written alike. -/
theorem enumType_roundTrips {d : EnumDeclaration} {t : EnumType} (h : d.enumType = .ok t) :
    ∃ ms, d.check = .ok (t.name, ms) ∧ t.members = (ms.map fun m => (m.ordinal, m.name)) ∧
      Lists 0 d.variants ms ∧ Distinct ms ∧
      (∀ m ∈ ms, t.nameOf? m.ordinal = some m.name ∧ t.ordinalOf? m.name = some m.ordinal) ∧
      ∀ (dialect : Dialect) (column : String) (op : Operator), op.isLogical = false →
        (∀ m ∈ ms,
          (Expr.binary op (.column column (some t)) (.ordinal m.ordinal)).compile dialect =
            .ok (Sql.operatorText op (Text.identifier column) (Text.quoted m.name)) ∧
          (Expr.binary op (.ordinal m.ordinal) (.column column (some t))).compile dialect =
            .ok (Sql.operatorText op (Text.quoted m.name) (Text.identifier column))) ∧
        ms.Pairwise fun m k =>
          (Expr.binary op (.column column (some t)) (.ordinal m.ordinal)).compile dialect ≠
            (Expr.binary op (.column column (some t)) (.ordinal k.ordinal)).compile dialect ∧
          (Expr.binary op (.ordinal m.ordinal) (.column column (some t))).compile dialect ≠
            (Expr.binary op (.ordinal k.ordinal) (.column column (some t))).compile dialect := by
  obtain ⟨ms, hcheck, hmembers, ht⟩ := enumType_members h
  obtain ⟨new, hnew, hlists⟩ := membersFrom_lists hmembers
  obtain rfl : ms = new := hnew
  have hdistinct : Distinct ms := membersFrom_distinct Distinct.nil hmembers
  refine ⟨ms, hcheck, ht, hlists, hdistinct, ?_, ?_⟩
  · intro m hm
    exact ⟨hdistinct.nameOf? ht hm, hdistinct.ordinalOf? ht hm⟩
  intro dialect column op hop
  have hbehind := fun {m} (hm : m ∈ ms) => hdistinct.compile_behind ht hm dialect column hop
  have hinFront := fun {m} (hm : m ∈ ms) => hdistinct.compile_inFront ht hm dialect column hop
  refine ⟨fun m hm => ⟨hbehind hm, hinFront hm⟩, ?_⟩
  refine (List.pairwise_map.mp hdistinct.names).imp_of_mem fun {m k} hm hk hne => ⟨?_, ?_⟩
  · rw [hbehind hm, hbehind hk]
    exact fun e => hne (Text.quoted_injective (Sql.operatorText_injective_right op _ (Except.ok.inj e)))
  · rw [hinFront hm, hinFront hk]
    exact fun e => hne (Text.quoted_injective (Sql.operatorText_injective_left op _ (Except.ok.inj e)))

/-- An enum with discriminants that are declared and that are not, one of them negative, and a name
that is given: `Pending = 1, Active, Done = 10` stored as `CLOSED`, `Rejected = -1`. -/
def ticketStatus : EnumDeclaration where
  kind := .enum
  name := "Status"
  isGeneric := false
  attributes := [⟨"sql", some [⟨"rename", .text "TicketStatus"⟩]⟩]
  variants := [
    ⟨"Pending", some (.literal false 1), false, []⟩,
    ⟨"Active", none, false, [⟨"doc", none⟩]⟩,
    ⟨"Done", some (.literal false 10), false, [⟨"sql", some [⟨"rename", .text "CLOSED"⟩]⟩]⟩,
    ⟨"Rejected", some (.literal true 1), false, []⟩]

/-- Its table. -/
def ticketStatusType : EnumType :=
  ⟨"TicketStatus", [(1, "Pending"), (2, "Active"), (10, "CLOSED"), (-1, "Rejected")]⟩

theorem enumType_roundTrips_ticketStatus :
    ticketStatus.enumType = .ok ticketStatusType ∧
      ticketStatusType.ordinalOf? "CLOSED" = some 10 ∧
      (Expr.binary (.comparison .eq) (.column "status" (some ticketStatusType))
          (.ordinal 10)).compile .sqlite = .ok "(\"status\" = 'CLOSED')" := by
  have htype : ticketStatus.enumType = .ok ticketStatusType := rfl
  obtain ⟨ms, hcheck, -, -, -, hlookup, hcompile⟩ := enumType_roundTrips htype
  have hms : ticketStatus.check = .ok ("TicketStatus", [⟨"Pending", 1, "Pending"⟩,
      ⟨"Active", 2, "Active"⟩, ⟨"Done", 10, "CLOSED"⟩, ⟨"Rejected", -1, "Rejected"⟩]) := rfl
  obtain rfl := congrArg Prod.snd (Except.ok.inj (hcheck.symm.trans hms))
  refine ⟨htype, (hlookup ⟨"Done", 10, "CLOSED"⟩ (by simp)).2, ?_⟩
  obtain ⟨htexts, -⟩ := hcompile .sqlite "status" (.comparison .eq) rfl
  exact (htexts ⟨"Done", 10, "CLOSED"⟩ (by simp)).1

end

end EnumDeclaration

end WhereClause
