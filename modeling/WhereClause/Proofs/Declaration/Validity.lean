import WhereClause.Proofs.Declaration

/-!
# Declarations that are accepted

Which declarations are valid is said without the order of the checks: of each attribute and each
variant on its own, and of the discriminants and the stored names as two lists without repetitions.
The loop over the variants compares each with those before it, so validity is carried along it with
the members that are there already (`Extends`). The loop also asks for an ordinal behind every
variant, the last one included. A valid declaration is therefore refused if one of its ordinals is
the greatest word, and only then.

Headlines:
* `Attribute.exists_rename_iff`: which attributes are read.
* `EnumDeclaration.extends_cons_iff`: one variant of the loop.
* `EnumDeclaration.exists_membersFrom_iff`, `EnumDeclaration.membersFrom_of_greatest`: all of them,
  by induction on the variants.
* `EnumDeclaration.accepted_iff`: whole declarations.
-/

namespace WhereClause

/-! ## What is valid -/

/-- The entry gives a name, which is not empty. -/
def AttributeEntry.IsRename (e : AttributeEntry) : Prop :=
  e.key = "rename" ∧ ∃ s, s ≠ "" ∧ e.value = .text s

/-- The attribute has parentheses and at most one entry in them, which gives a name. -/
def Attribute.IsProper (a : Attribute) : Prop :=
  ∃ entries, a.entries = some entries ∧ entries.length ≤ 1 ∧ ∀ e ∈ entries, e.IsRename

/-- At most one of the attributes is `sql`, and it is proper. -/
structure Attribute.AreProper (attributes : List Attribute) : Prop where
  atMostOne : (attributes.filter fun a => a.path == "sql").length ≤ 1
  proper : ∀ a ∈ attributes, a.path = "sql" → a.IsProper

/-- The variant has no fields, and its attributes are proper. -/
structure Variant.IsProper (v : Variant) : Prop where
  hasNoFields : v.hasFields = false
  attributes : Attribute.AreProper v.attributes

namespace EnumDeclaration

/-- The declaration is one of an enum: it is not generic and has variants, its attributes and its
variants are proper, every variant has an ordinal of its own, and a stored name of its own. -/
structure IsValid (d : EnumDeclaration) : Prop where
  isNotGeneric : d.isGeneric = false
  isEnum : d.kind = .enum
  hasVariants : d.variants ≠ []
  attributes : Attribute.AreProper d.attributes
  variants : ∀ v ∈ d.variants, v.IsProper
  ordinals : ∃ ns, discriminantsFrom? 0 d.variants = some ns ∧ (∀ n ∈ ns, Word.Fits n) ∧ ns.Nodup
  names : (d.variants.map Variant.storedName).Nodup

/-- One of the discriminants is the greatest word, which no word comes behind. -/
def HasGreatest (d : EnumDeclaration) : Prop :=
  ∃ ns, discriminantsFrom? 0 d.variants = some ns ∧ 9223372036854775807 ∈ ns

end EnumDeclaration

/-! ## Attributes -/

namespace Attribute

theorem exists_renameFrom_iff {es : List AttributeEntry} :
    (∃ r, renameFrom none es = .ok r) ↔ es.length ≤ 1 ∧ ∀ e ∈ es, e.IsRename := by
  simp only [renameFrom_none_eq_ok_iff]
  match es with
  | [] => simp
  | [⟨key, value⟩] =>
    simp only [AttributeEntry.IsRename, List.mem_singleton, forall_eq]
    constructor
    · rintro ⟨r, ⟨h, -⟩ | ⟨s, hs, h, -⟩⟩
      · cases h
      · cases h
        exact ⟨Nat.le_refl 1, rfl, s, hs, rfl⟩
    · rintro ⟨-, rfl, s, hs, rfl⟩
      exact ⟨some s, Or.inr ⟨s, hs, rfl, rfl⟩⟩
  | _ :: _ :: _ => simp

theorem rename_of_single {attributes : List Attribute} {a : Attribute}
    (h : (attributes.filter fun a => a.path == "sql") = [a]) :
    (∃ r, rename attributes = .ok r) ↔ a.IsProper := by
  unfold rename
  rw [h]
  cases ha : a.entries with
  | none => simp [IsProper, ha]
  | some entries => simp [IsProper, ha, exists_renameFrom_iff]

/-- **The attributes are read exactly if they are proper.** -/
theorem exists_rename_iff {attributes : List Attribute} :
    (∃ r, rename attributes = .ok r) ↔ AreProper attributes := by
  have hmem : ∀ {a}, a ∈ (attributes.filter fun a => a.path == "sql") ↔
      a ∈ attributes ∧ a.path = "sql" := by
    simp [List.mem_filter]
  cases hfilter : attributes.filter fun a => a.path == "sql" with
  | nil =>
    rw [hfilter] at hmem
    refine iff_of_true ⟨none, by unfold rename; rw [hfilter]⟩ ⟨by simp [hfilter], ?_⟩
    intro a ha hpath
    exact absurd (hmem.mpr ⟨ha, hpath⟩) List.not_mem_nil
  | cons a rest =>
    rw [hfilter] at hmem
    cases rest with
    | nil =>
      rw [rename_of_single hfilter]
      constructor
      · intro h
        refine ⟨by simp [hfilter], fun b hb hpath => ?_⟩
        rwa [List.mem_singleton.mp (hmem.mpr ⟨hb, hpath⟩)]
      · intro h
        obtain ⟨ha, hpath⟩ := hmem.mp List.mem_cons_self
        exact h.proper a ha hpath
    | cons b rest =>
      refine iff_of_false (fun ⟨r, h⟩ => ?_) fun h => ?_
      · unfold rename at h
        rw [hfilter] at h
        cases h
      · have hone := h.atMostOne
        rw [hfilter] at hone
        simp at hone

end Attribute

/-! ## Variants -/

namespace EnumDeclaration

/-- What makes the variants valid behind the members `done`, where `ns` are their discriminants:
neither their ordinals nor their names are among those of the members or repeat themselves. -/
structure Extends (done : List DeclaredMember) (next : Int) (vs : List Variant) (ns : List Int) :
    Prop where
  proper : ∀ v ∈ vs, v.IsProper
  discriminants : discriminantsFrom? next vs = some ns
  fit : ∀ n ∈ ns, Word.Fits n
  ordinals : (done.map (fun m => m.ordinal.toInt) ++ ns).Nodup
  names : (done.map DeclaredMember.name ++ vs.map Variant.storedName).Nodup

section

variable {done : List DeclaredMember} {next : Int64} {v : Variant} {vs : List Variant}
  {m : DeclaredMember} {ns : List Int}

theorem discriminantsFrom?_cons {next : Int} :
    discriminantsFrom? next (v :: vs) = some ns ↔
      ∃ n after, v.discriminantOr next = some n ∧ discriminantsFrom? (n + 1) vs = some after ∧
        ns = n :: after := by
  simp only [discriminantsFrom?, Option.bind_eq_bind, Option.bind_eq_some_iff, Option.pure_def,
    Option.some_inj, exists_and_left, eq_comm (b := ns)]

theorem Declares.isProper {next : Int} (h : Declares done next v m) : v.IsProper := by
  obtain ⟨r, hr, -⟩ := h.rename
  exact ⟨h.hasNoFields, Attribute.exists_rename_iff.mp ⟨r, hr⟩⟩

/-- **A valid variant in front of others** declares a member, and the others are valid behind it. -/
theorem extends_cons_iff {next : Int} :
    Extends done next (v :: vs) ns ↔
      ∃ m after, ns = m.ordinal.toInt :: after ∧ Declares done next v m ∧
        Extends (done ++ [m]) (m.ordinal.toInt + 1) vs after := by
  constructor
  · intro h
    obtain ⟨n, after, hn, hafter, rfl⟩ := discriminantsFrom?_cons.mp h.discriminants
    obtain ⟨hfit, hfits⟩ := List.forall_mem_cons.mp h.fit
    obtain ⟨hv, hvs⟩ := List.forall_mem_cons.mp h.proper
    obtain ⟨w, rfl⟩ := Word.exists_toInt_iff.mpr hfit
    obtain ⟨r, hr⟩ := Attribute.exists_rename_iff.mpr hv.attributes
    have hname : v.storedName = r.getD v.name := by
      rw [Variant.storedName, (Attribute.rename_eq_ok hr).1]
    have hordinals := (List.nodup_append.mp h.ordinals).2.2
    have hnames := (List.nodup_append.mp h.names).2.2
    refine ⟨⟨v.name, w, v.storedName⟩, after, rfl, ?_, hvs, hafter, hfits, ?_, ?_⟩
    · exact {
        hasNoFields := hv.hasNoFields
        identifier := rfl
        ordinal := hn
        rename := ⟨r, hr, hname⟩
        newOrdinal := fun k hk e =>
          hordinals _ (List.mem_map_of_mem hk) _ List.mem_cons_self (congrArg Int64.toInt e)
        newName := fun k hk => hnames _ (List.mem_map_of_mem hk) _ List.mem_cons_self }
    · simpa using h.ordinals
    · simpa using h.names
  · rintro ⟨m, after, rfl, hm, h⟩
    exact {
      proper := List.forall_mem_cons.mpr ⟨hm.isProper, h.proper⟩
      discriminants := discriminantsFrom?_cons.mpr ⟨_, after, hm.ordinal, h.discriminants, rfl⟩
      fit := List.forall_mem_cons.mpr ⟨Word.toInt_bounds _, h.fit⟩
      ordinals := by simpa using h.ordinals
      names := by simpa [← hm.name_eq] using h.names }

theorem nodup_ordinals_iff :
    (done.map fun m => m.ordinal.toInt).Nodup ↔ (done.map DeclaredMember.ordinal).Nodup := by
  simp only [List.Nodup, List.pairwise_map, ne_eq, Int64.toInt_inj]

theorem extends_nil_iff {next : Int} : Extends done next [] ns ↔ ns = [] ∧ Distinct done := by
  constructor
  · intro h
    obtain rfl : [] = ns := Option.some.inj h.discriminants
    exact ⟨rfl, nodup_ordinals_iff.mp (by simpa using h.ordinals), by simpa using h.names⟩
  · rintro ⟨rfl, hordinals, hnames⟩
    exact ⟨nofun, rfl, nofun, by simpa using nodup_ordinals_iff.mpr hordinals,
      by simpa using hnames⟩

theorem exists_after_iff {ordinal : Int64} :
    (∃ after : Int64, after.toInt = ordinal.toInt + 1) ↔ 9223372036854775807 ≠ ordinal.toInt := by
  have hbounds := Word.toInt_bounds ordinal
  rw [Word.exists_toInt_iff, Word.Fits]
  omega

theorem nextOrdinal_of_greatest {ordinal : Int64} (h : 9223372036854775807 = ordinal.toInt) :
    nextOrdinal ordinal = .error .noNextOrdinal := by
  have hone : (1 : Int64).toInt = 1 := rfl
  have hnone : Word.add? ordinal 1 = none :=
    Word.signed?_eq_none_iff.mpr (Or.inr (by omega))
  rw [nextOrdinal, hnone]

/-- **The members are there exactly if the variants are valid** and none of them has the greatest
ordinal. -/
theorem exists_membersFrom_iff (hdone : Distinct done) :
    (∃ ms, membersFrom done next vs = .ok ms) ↔
      ∃ ns, Extends done next.toInt vs ns ∧ 9223372036854775807 ∉ ns := by
  induction vs generalizing done next with
  | nil =>
    refine iff_of_true ⟨done, rfl⟩ ⟨[], extends_nil_iff.mpr ⟨rfl, hdone⟩, List.not_mem_nil⟩
  | cons v vs ih =>
    constructor
    · rintro ⟨ms, h⟩
      obtain ⟨m, after, hm, hafter, h⟩ := membersFrom_cons_eq_ok_iff.mp h
      obtain ⟨ns, hns, hgreatest⟩ := (ih (hdone.concat hm)).mp ⟨ms, h⟩
      rw [hafter] at hns
      refine ⟨m.ordinal.toInt :: ns, extends_cons_iff.mpr ⟨m, ns, rfl, hm, hns⟩, ?_⟩
      rw [List.mem_cons, not_or]
      exact ⟨exists_after_iff.mp ⟨after, hafter⟩, hgreatest⟩
    · rintro ⟨ns, hns, hgreatest⟩
      obtain ⟨m, rest, rfl, hm, hrest⟩ := extends_cons_iff.mp hns
      rw [List.mem_cons, not_or] at hgreatest
      obtain ⟨after, hafter⟩ := exists_after_iff.mpr hgreatest.1
      rw [← hafter] at hrest
      obtain ⟨ms, h⟩ := (ih (hdone.concat hm)).mpr ⟨rest, hrest, hgreatest.2⟩
      exact ⟨ms, membersFrom_cons_eq_ok_iff.mpr ⟨m, after, hm, hafter, h⟩⟩

/-- **Valid variants are refused behind the greatest ordinal**, even if nothing comes there. -/
theorem membersFrom_of_greatest (h : Extends done next.toInt vs ns)
    (hgreatest : 9223372036854775807 ∈ ns) :
    membersFrom done next vs = .error .noNextOrdinal := by
  induction vs generalizing done next ns with
  | nil =>
    rw [(extends_nil_iff.mp h).1] at hgreatest
    exact absurd hgreatest List.not_mem_nil
  | cons v vs ih =>
    obtain ⟨m, rest, rfl, hm, hrest⟩ := extends_cons_iff.mp h
    rw [membersFrom, memberOf_eq_ok_iff.mpr hm]
    show (nextOrdinal m.ordinal >>= fun after => membersFrom (done ++ [m]) after vs) = _
    by_cases hordinal : 9223372036854775807 = m.ordinal.toInt
    · rw [nextOrdinal_of_greatest hordinal]
      rfl
    · obtain ⟨after, hafter⟩ := exists_after_iff.mpr hordinal
      rw [nextOrdinal_eq_ok_iff.mpr hafter]
      rw [← hafter] at hrest
      exact ih hrest ((List.mem_cons.mp hgreatest).resolve_left hordinal)

end

/-! ## Declarations -/

variable {d : EnumDeclaration}

/-- What is checked before the variants. -/
structure IsEnum (d : EnumDeclaration) : Prop where
  isNotGeneric : d.isGeneric = false
  isEnum : d.kind = .enum
  hasVariants : d.variants ≠ []
  attributes : Attribute.AreProper d.attributes

theorem isValid_iff :
    d.IsValid ↔ d.IsEnum ∧ ∃ ns, Extends [] 0 d.variants ns := by
  constructor
  · intro h
    obtain ⟨ns, hdiscriminants, hfit, hdistinct⟩ := h.ordinals
    exact ⟨⟨h.isNotGeneric, h.isEnum, h.hasVariants, h.attributes⟩, ns, h.variants,
      hdiscriminants, hfit, hdistinct, h.names⟩
  · rintro ⟨hd, ns, h⟩
    exact ⟨hd.isNotGeneric, hd.isEnum, hd.hasVariants, hd.attributes, h.proper,
      ⟨ns, h.discriminants, h.fit, h.ordinals⟩, h.names⟩

theorem IsEnum.enumType_eq (h : d.IsEnum) :
    ∃ name, d.enumType = d.members.map fun ms =>
      ⟨name, ms.map fun m => (m.ordinal, m.name)⟩ := by
  obtain ⟨r, hr⟩ := Attribute.exists_rename_iff.mpr h.attributes
  refine ⟨r.getD d.name, ?_⟩
  rw [enumType, check_eq, if_neg (by simp [h.isNotGeneric]), if_neg (by simp [h.isEnum]),
    if_neg (by simp [h.hasVariants]), hr]
  cases d.members <;> rfl

theorem isEnum_of_enumType {t : EnumType} (h : d.enumType = .ok t) : d.IsEnum := by
  obtain ⟨checked, hcheck, -⟩ := except_map_eq_ok.mp h
  rw [check_eq] at hcheck
  obtain ⟨hgeneric, hcheck⟩ := except_ite_error_eq_ok.mp hcheck
  obtain ⟨henum, hcheck⟩ := except_ite_error_eq_ok.mp hcheck
  obtain ⟨hvariants, hcheck⟩ := except_ite_error_eq_ok.mp hcheck
  obtain ⟨r, hr, -⟩ := except_bind_eq_ok.mp hcheck
  exact ⟨by simpa using hgeneric, by simpa using henum, by simpa using hvariants,
    Attribute.exists_rename_iff.mp ⟨r, hr⟩⟩

/-- **A declaration is accepted exactly if it is valid** and has not the greatest ordinal. One that is
valid and has it is refused for want of an ordinal behind it, even if no variant would take that. -/
theorem accepted_iff (d : EnumDeclaration) :
    ((∃ t, d.enumType = .ok t) ↔ d.IsValid ∧ ¬d.HasGreatest) ∧
      (d.IsValid → d.HasGreatest → d.enumType = .error .noNextOrdinal) := by
  have hmembers : (∃ ms, d.members = .ok ms) ↔
      ∃ ns, Extends [] 0 d.variants ns ∧ 9223372036854775807 ∉ ns :=
    exists_membersFrom_iff Distinct.nil
  refine ⟨⟨?_, ?_⟩, ?_⟩
  · rintro ⟨t, h⟩
    obtain ⟨ms, -, hms, -⟩ := enumType_members h
    obtain ⟨ns, hns, hgreatest⟩ := hmembers.mp ⟨ms, hms⟩
    refine ⟨isValid_iff.mpr ⟨isEnum_of_enumType h, ns, hns⟩, ?_⟩
    rintro ⟨ns', hns', hmem⟩
    obtain rfl : ns = ns' := Option.some.inj (hns.discriminants.symm.trans hns')
    exact hgreatest hmem
  · rintro ⟨hvalid, hgreatest⟩
    obtain ⟨hd, ns, hns⟩ := isValid_iff.mp hvalid
    obtain ⟨ms, hms⟩ := hmembers.mpr ⟨ns, hns, fun hmem => hgreatest ⟨ns, hns.discriminants, hmem⟩⟩
    obtain ⟨name, htype⟩ := hd.enumType_eq
    exact ⟨_, htype.trans (by rw [hms]; rfl)⟩
  · rintro hvalid ⟨ns, hdiscriminants, hmem⟩
    obtain ⟨hd, ns', hns⟩ := isValid_iff.mp hvalid
    obtain rfl : ns' = ns := Option.some.inj (hns.discriminants.symm.trans hdiscriminants)
    obtain ⟨name, htype⟩ := hd.enumType_eq
    have herror : membersFrom [] 0 d.variants = .error .noNextOrdinal :=
      membersFrom_of_greatest hns hmem
    rw [htype, members, herror]
    rfl

/-- An enum of one variant, with the greatest ordinal. -/
def greatestAlone : EnumDeclaration where
  kind := .enum
  name := "E"
  isGeneric := false
  attributes := []
  variants := [⟨"A", some (.literal false 9223372036854775807), false, []⟩]

/-- It is valid, as nothing comes behind its variant, and yet it is refused. -/
theorem greatestAlone_refused :
    greatestAlone.IsValid ∧ greatestAlone.enumType = .error .noNextOrdinal := by
  have hproper : Attribute.AreProper [] := ⟨by decide, nofun⟩
  have hvalid : greatestAlone.IsValid := {
    isNotGeneric := rfl
    isEnum := rfl
    hasVariants := nofun
    attributes := hproper
    variants := by
      rintro v (_ | ⟨_, ⟨⟩⟩)
      exact ⟨rfl, hproper⟩
    ordinals := ⟨[9223372036854775807], rfl, by simp [Word.Fits], by simp⟩
    names := by simp [greatestAlone] }
  exact ⟨hvalid, (accepted_iff _).2 hvalid ⟨_, rfl, List.mem_cons_self⟩⟩

end EnumDeclaration

end WhereClause
