import WhereClause.Proofs.Document
import WhereClause.Settings

/-!
# What names a dialect

The setting of the environment names a dialect between blanks and in any ASCII letter case. A
settings document is stricter: its only entry has the name itself as its text or, in front of a
null, as its tag.

Headlines:
* `BuiltinDialect.ofName_eq_ok_iff`: which settings name a dialect.
* `Settings.dialectOf?_eq_some_iff`: which scalars do.
* `Settings.ofDocument_eq_ok_iff`: which documents are settings.
* `Settings.documentDeclares_lines_iff`: which documents of lines are.
-/

namespace WhereClause

/-! ## Names of dialects -/

namespace Text

theorem toLower_of_isBlank {c : Char} (h : isBlank c = true) : c.toLower = c := by
  unfold Char.toLower
  split
  · -- None of the letters is blank.
    rename_i hupper
    have hfirst : 65 ≤ c.toNat := UInt32.le_iff_toNat_le.mp hupper.1
    have hlast : c.toNat ≤ 90 := UInt32.le_iff_toNat_le.mp hupper.2
    simp only [isBlank, Bool.or_eq_true, Bool.and_eq_true, decide_eq_true_eq, beq_iff_eq] at h
    omega
  · rfl

theorem dropWhile_isBlank_of_not_blank {cs : List Char} (h : ∀ c ∈ cs, isBlank c = false) :
    cs.dropWhile isBlank = cs := by
  cases cs with
  | nil => rfl
  | cons c cs => rw [List.dropWhile_cons_of_neg (by simp [h c List.mem_cons_self])]

/-- Trimming takes blanks from both ends. -/
theorem exists_trim (s : String) : ∃ front back : List Char,
    s = String.ofList (front ++ (trim s).toList ++ back) ∧
      ∀ c ∈ front ++ back, isBlank c = true := by
  have hall : ∀ cs : List Char, ∀ c ∈ cs.takeWhile isBlank, isBlank c = true := fun cs c hc =>
    List.all_eq_true.mp List.all_takeWhile c hc
  refine ⟨s.toList.takeWhile isBlank,
    ((s.toList.dropWhile isBlank).reverse.takeWhile isBlank).reverse, ?_, fun c hc => ?_⟩
  · simp only [trim, trimStart, trimEnd, String.toList_ofList]
    rw [List.append_assoc, ← List.reverse_append, List.takeWhile_append_dropWhile,
      List.reverse_reverse, List.takeWhile_append_dropWhile, String.ofList_toList]
  · rcases List.mem_append.mp hc with hc | hc
    · exact hall _ c hc
    · exact hall _ c (List.mem_reverse.mp hc)

/-- Trimming takes nothing else, if no blanks are inside. -/
theorem trim_of_not_blank {front word back : List Char}
    (hblank : ∀ c ∈ front ++ back, isBlank c = true) (hne : word ≠ [])
    (hword : ∀ c ∈ word, isBlank c = false) :
    trim (String.ofList (front ++ word ++ back)) = String.ofList word := by
  have hfront := trimStart_append_of_blank (b := front)
    (fun c hc => hblank c (List.mem_append_left back hc)) (String.ofList (word ++ back))
  have hback := trimEnd_append_of_blank (b := back)
    (fun c hc => hblank c (List.mem_append_right front hc)) (String.ofList word)
  simp only [String.toList_ofList] at hfront hback
  have hstart : trimStart (String.ofList (word ++ back)) = String.ofList (word ++ back) := by
    cases word with
    | nil => exact absurd rfl hne
    | cons c word => simp [trimStart, hword c List.mem_cons_self]
  rw [trim, List.append_assoc, hfront, hstart, hback, trimEnd, String.toList_ofList,
    dropWhile_isBlank_of_not_blank fun c hc => hword c (List.mem_reverse.mp hc),
    List.reverse_reverse]

end Text

namespace BuiltinDialect

/-- The setting names the dialect: the name stands there between blanks, in any ASCII letter case. -/
def IsNamed (b : BuiltinDialect) (setting : String) : Prop :=
  ∃ front word back : List Char, setting = String.ofList (front ++ word ++ back) ∧
    (∀ c ∈ front ++ back, Text.isBlank c = true) ∧ word.map Char.toLower = b.name.toList

theorem ofName_eq_ok_iff_toLower {setting : String} {b : BuiltinDialect} :
    ofName setting = .ok b ↔ (Text.trim setting).toLower = b.name := by
  unfold ofName
  split
  · rename_i h
    rw [h]
    cases b <;> simp [name]
  · rename_i h
    rw [h]
    cases b <;> simp [name]
  · rename_i hfirebird hsqlite
    cases b with
    | firebird => exact iff_of_false nofun hfirebird
    | sqlite => exact iff_of_false nofun hsqlite

theorem not_blank_of_mem_name {b : BuiltinDialect} {c : Char} (h : c ∈ b.name.toList) :
    Text.isBlank c = false := by
  have hnames : ∀ b : BuiltinDialect, b.name.toList.all fun c => !Text.isBlank c := by
    intro b
    cases b <;> decide
  simpa using List.all_eq_true.mp (hnames b) c h

/-- **Which settings name a dialect.** -/
theorem ofName_eq_ok_iff {setting : String} {b : BuiltinDialect} :
    ofName setting = .ok b ↔ b.IsNamed setting := by
  have hlower : (Text.trim setting).toLower.toList = (Text.trim setting).toList.map Char.toLower :=
    String.toList_map
  rw [ofName_eq_ok_iff_toLower, ← String.toList_inj, hlower]
  constructor
  · intro h
    obtain ⟨front, back, hsetting, hblank⟩ := Text.exists_trim setting
    exact ⟨front, _, back, hsetting, hblank, h⟩
  · rintro ⟨front, word, back, rfl, hblank, hname⟩
    have hword : ∀ c ∈ word, Text.isBlank c = false := by
      intro c hc
      rw [Bool.eq_false_iff]
      intro hc'
      have hmem : c ∈ b.name.toList := by
        rw [← hname, ← Text.toLower_of_isBlank hc']
        exact List.mem_map_of_mem hc
      rw [not_blank_of_mem_name hmem] at hc'
      cases hc'
    have hne : word ≠ [] := by
      rintro rfl
      cases b <;> cases hname
    rw [Text.trim_of_not_blank hblank hne hword, String.toList_ofList, hname]

end BuiltinDialect

/-! ## Settings -/

namespace Settings

/-- The scalar names the dialect: its text is the name, or else its tag is, behind which there is
nothing but a null. -/
inductive Names : Yaml.Scalar → BuiltinDialect → Prop
  | text (isPlain : Bool) (b : BuiltinDialect) : Names ⟨none, isPlain, b.name⟩ b
  | tag (b : BuiltinDialect) {null : String} (h : null ∈ ["", "~", "null", "Null", "NULL"]) :
      Names ⟨some b.name, true, null⟩ b

theorem dialectNamed?_eq_some_iff {name : String} {b : BuiltinDialect} :
    dialectNamed? name = some b ↔ name = b.name := by
  unfold dialectNamed?
  split
  · cases b <;> simp [BuiltinDialect.name]
  · cases b <;> simp [BuiltinDialect.name]
  · rename_i hfirebird hsqlite
    cases b with
    | firebird => exact iff_of_false nofun hfirebird
    | sqlite => exact iff_of_false nofun hsqlite

/-- **Which scalars name a dialect.** -/
theorem dialectOf?_eq_some_iff {s : Yaml.Scalar} {b : BuiltinDialect} :
    dialectOf? s = some b ↔ Names s b := by
  obtain ⟨tag, isPlain, text⟩ := s
  constructor
  · intro h
    cases tag with
    | none =>
      obtain rfl := dialectNamed?_eq_some_iff.mp h
      exact .text isPlain b
    | some tag =>
      simp only [dialectOf?] at h
      split at h
      · rename_i hvoid
        simp only [isVoid, Bool.and_eq_true, List.contains_iff_mem] at hvoid
        obtain ⟨rfl, hnull⟩ := hvoid
        obtain rfl := dialectNamed?_eq_some_iff.mp h
        exact .tag b hnull
      · cases h
  · intro h
    cases h with
    | text => exact dialectNamed?_eq_some_iff.mpr rfl
    | tag _ hnull =>
      have hvoid : isVoid ⟨some b.name, true, text⟩ = true := by
        rw [isVoid, Bool.true_and, List.contains_iff_mem]
        exact hnull
      exact (if_pos hvoid).trans (dialectNamed?_eq_some_iff.mpr rfl)

/-- What entries say is the dialect: that of the only entry, or the default one without an entry. -/
inductive Declares : List Yaml.Entry → BuiltinDialect → Prop
  | missing : Declares [] .firebird
  | entry {e : Yaml.Entry} {b : BuiltinDialect} (hkey : e.key.text = "dialect")
      (hvalue : Names e.value b) : Declares [e] b

theorem ofEntries_some_eq_ok_iff {b : BuiltinDialect} {es : List Yaml.Entry} {s : Settings} :
    ofEntries (some b) es = .ok s ↔ es = [] ∧ s = ⟨b⟩ := by
  cases es with
  | nil => simp [ofEntries, eq_comm]
  | cons e es =>
    rw [ofEntries]
    split
    · exact iff_of_false nofun nofun
    · exact iff_of_false nofun nofun

/-- **Which entries are settings.** -/
theorem ofEntries_eq_ok_iff {es : List Yaml.Entry} {s : Settings} :
    ofEntries none es = .ok s ↔ Declares es s.dialect := by
  constructor
  · intro h
    cases es with
    | nil =>
      cases h
      exact .missing
    | cons e es =>
      rw [ofEntries] at h
      split at h
      · cases h
      · rename_i hkey
        split at h
        · cases h
        · split at h
          · rename_i b hvalue
            obtain ⟨rfl, rfl⟩ := ofEntries_some_eq_ok_iff.mp h
            exact .entry (by simpa using hkey) (dialectOf?_eq_some_iff.mp hvalue)
          · cases h
  · intro h
    obtain ⟨b⟩ := s
    cases h with
    | missing => rfl
    | entry hkey hvalue => simp [ofEntries, hkey, dialectOf?_eq_some_iff.mpr hvalue]

/-- What a document says is the dialect. -/
def DocumentDeclares (document : String) (b : BuiltinDialect) : Prop :=
  ∃ entries, Yaml.mapping? document = some entries ∧ Declares entries b

/-- **Which documents are settings.** -/
theorem ofDocument_eq_ok_iff {document : String} {s : Settings} :
    ofDocument document = .ok s ↔ DocumentDeclares document s.dialect := by
  unfold ofDocument DocumentDeclares
  cases Yaml.mapping? document with
  | none => exact iff_of_false nofun nofun
  | some entries => simp [ofEntries_eq_ok_iff]

theorem DocumentDeclares.ofDocument_eq {document : String} {b : BuiltinDialect}
    (h : DocumentDeclares document b) : ofDocument document = .ok ⟨b⟩ :=
  ofDocument_eq_ok_iff.mpr h

/-- A text without a tag names a dialect only by being its name. -/
theorem names_text_iff {isPlain : Bool} {text : String} {b : BuiltinDialect} :
    Names ⟨none, isPlain, text⟩ b ↔ text = b.name :=
  dialectOf?_eq_some_iff.symm.trans dialectNamed?_eq_some_iff

theorem declares_line_iff {l : Yaml.Line} {b : BuiltinDialect} :
    Declares [l.entry] b ↔ l.key = "dialect".toList ∧ l.value = b.name.toList := by
  have hkey : l.entry.key.text = "dialect" ↔ l.key = "dialect".toList := by
    rw [← String.toList_inj, Yaml.Line.entry, String.toList_ofList]
  have hvalue : Names l.entry.value b ↔ l.value = b.name.toList := by
    rw [Yaml.Line.entry, names_text_iff, ← String.toList_inj, String.toList_ofList]
  rw [← hkey, ← hvalue]
  constructor
  · rintro (_ | ⟨hkey, hvalue⟩)
    exact ⟨hkey, hvalue⟩
  · exact fun h => .entry h.1 h.2

/-- **Which lines are settings**: none, or a single one that gives the name of a dialect. -/
theorem documentDeclares_lines_iff (isEnded : Bool) {ls : List Yaml.Line}
    (hls : ∀ l ∈ ls, l.IsReadable) {b : BuiltinDialect} :
    DocumentDeclares (String.ofList (Yaml.Line.document isEnded ls)) b ↔
      ls = [] ∧ b = .firebird ∨
        ∃ l, ls = [l] ∧ l.key = "dialect".toList ∧ l.value = b.name.toList := by
  unfold DocumentDeclares
  rw [Yaml.mapping?_lines isEnded hls]
  constructor
  · rintro ⟨es, hes, h⟩
    obtain rfl := Option.some.inj hes
    match ls with
    | [] =>
      cases h
      exact Or.inl ⟨rfl, rfl⟩
    | [l] => exact Or.inr ⟨l, rfl, declares_line_iff.mp h⟩
    | l :: m :: ls => cases h
  · rintro (⟨rfl, rfl⟩ | ⟨l, rfl, hl⟩)
    · exact ⟨[], rfl, .missing⟩
    · exact ⟨[l.entry], rfl, declares_line_iff.mpr hl⟩

/-- Each dialect can be set by a line with its name, quoted or not. -/
theorem documentDeclares_name (b : BuiltinDialect) (isQuoted isEnded : Bool) :
    DocumentDeclares (String.ofList
      (Yaml.Line.document isEnded [⟨"dialect".toList, b.name.toList, isQuoted⟩])) b := by
  have hkey : Yaml.IsWord "dialect".toList :=
    ⟨List.all_eq_true.mp (by decide), 'd', "ialect".toList, rfl, by decide⟩
  have hvalue : Yaml.IsWord b.name.toList := by
    cases b with
    | firebird => exact ⟨List.all_eq_true.mp (by decide), 'f', "irebird".toList, rfl, by decide⟩
    | sqlite => exact ⟨List.all_eq_true.mp (by decide), 's', "qlite".toList, rfl, by decide⟩
  have hlength : "dialect".toList.length ≤ 1024 := by decide
  refine (documentDeclares_lines_iff isEnded fun l hl => ?_).mpr (Or.inr ⟨_, rfl, rfl, rfl⟩)
  obtain rfl := List.mem_singleton.mp hl
  exact ⟨hkey, hlength, fun _ => hvalue, fun _ => hvalue.isLineChar_of_mem⟩

end Settings

end WhereClause
