import WhereClause.Proofs.Settings
import WhereClause.Session

/-!
# Runs of sessions

Three kinds of steps install a dialect: a reset, which reads the setting that the environment has by
then, an installation, and a document that is one of settings. What a session has behind a run is
told from the steps alone (`Session.Behind`): the setting is the last one made, and the active
dialect is what the last of the installing steps has installed (`SessionStep.LastInstalled`). Each
step preserves this, and so does each run.

Headlines:
* `Session.active_step_eq_iff`: what a step can do to the active dialect.
* `Session.Behind.run`: the invariant of runs.
* `Session.run_lastInstalled`: the active dialect behind each step of a run, and the step's answer.
-/

namespace WhereClause

/-! ## Choices -/

namespace Session

/-- The dialect that a setting chooses: the one that it names, or the default one if there is no
setting or it names none. -/
inductive Chooses (setting : Option String) : Dialect → Prop
  | named {s : String} {b : BuiltinDialect} (hset : setting = some s) (hb : b.IsNamed s) :
      Chooses setting b.dialect
  | unnamed (h : ∀ s ∈ setting, ∀ b : BuiltinDialect, ¬b.IsNamed s) : Chooses setting .firebird

/-- **A reset installs the dialect that the setting chooses.** -/
theorem dialectOf_eq_iff {setting : Option String} {d : Dialect} :
    dialectOf setting = d ↔ Chooses setting d := by
  constructor
  · rintro rfl
    unfold dialectOf
    split
    · exact .unnamed nofun
    · rename_i s
      split
      · rename_i b hb
        exact .named rfl (BuiltinDialect.ofName_eq_ok_iff.mp hb)
      · rename_i err hs
        refine .unnamed fun s' hs' b hb => ?_
        obtain rfl := Option.some.inj hs'
        rw [BuiltinDialect.ofName_eq_ok_iff.mpr hb] at hs
        cases hs
  · intro h
    cases h with
    | named hset hb =>
      rw [hset, dialectOf, BuiltinDialect.ofName_eq_ok_iff.mpr hb]
    | unnamed h =>
      unfold dialectOf
      split
      · rfl
      · rename_i s
        split
        · rename_i b hb
          exact absurd (BuiltinDialect.ofName_eq_ok_iff.mp hb) (h s rfl b)
        · rfl

end Session

/-! ## Steps -/

namespace SessionStep

/-- The setting that the step makes, if it makes one. -/
def setting? : SessionStep → Option (Option String)
  | setEnvironment setting => some setting
  | _ => none

/-- The setting behind steps: the last one made, and none at first. -/
def settingBehind (ts : List SessionStep) : Option String :=
  (ts.filterMap setting?).getLast?.getD none

/-- The step installs a dialect. A document does if it is one of settings. -/
inductive IsInstalling : SessionStep → Prop
  | reset : IsInstalling reset
  | install (d : Dialect) : IsInstalling (install d)
  | configure {document : String} {b : BuiltinDialect}
      (hb : Settings.DocumentDeclares document b) : IsInstalling (configure document)

/-- The step installs the dialect, where the environment has a setting. -/
inductive Installs (setting : Option String) : SessionStep → Dialect → Prop
  | reset {d : Dialect} (hd : Session.Chooses setting d) : Installs setting reset d
  | install (d : Dialect) : Installs setting (install d) d
  | configure {document : String} {b : BuiltinDialect}
      (hb : Settings.DocumentDeclares document b) :
      Installs setting (configure document) b.dialect

/-- The dialect is what the last installing step has installed, or the one of Firebird if none of
the steps is installing. -/
def LastInstalled (ts : List SessionStep) (d : Dialect) : Prop :=
  ((∀ t ∈ ts, ¬t.IsInstalling) ∧ d = .firebird) ∨
    ∃ before t after, ts = before ++ t :: after ∧ (∀ u ∈ after, ¬u.IsInstalling) ∧
      t.Installs (settingBehind before) d

/-- What the step answers where the dialect is active behind it. -/
def answer (d : Dialect) : SessionStep → SessionAnswer
  | configure document =>
    match Settings.ofDocument document with
    | .ok _ => .active d.name
    | .error e => .refused e
  | compile e => .predicate (e.compile d)
  | page p => .page (p.compile d)
  | query q => .query (q.compile d)
  | _ => .active d.name

theorem Installs.isInstalling {setting : Option String} {t : SessionStep} {d : Dialect}
    (h : t.Installs setting d) : t.IsInstalling := by
  cases h with
  | reset => exact .reset
  | install => exact .install d
  | configure hb => exact .configure hb

theorem settingBehind_concat (ts : List SessionStep) (t : SessionStep) :
    settingBehind (ts ++ [t]) = t.setting?.getD (settingBehind ts) := by
  unfold settingBehind
  rw [List.filterMap_append]
  cases h : t.setting? <;> simp [h]

theorem lastInstalled_nil {d : Dialect} : LastInstalled [] d ↔ .firebird = d := by
  simp [LastInstalled, eq_comm]

/-- **The last installing step is the last step, or that of the steps before it.** -/
theorem lastInstalled_concat {ts : List SessionStep} {t : SessionStep} {d : Dialect} :
    LastInstalled (ts ++ [t]) d ↔
      t.Installs (settingBehind ts) d ∨ ¬t.IsInstalling ∧ LastInstalled ts d := by
  constructor
  · rintro (⟨hnone, rfl⟩ | ⟨before, u, after, heq, hafter, hu⟩)
    · exact Or.inr ⟨hnone t (by simp), Or.inl ⟨fun u hu => hnone u (by simp [hu]), rfl⟩⟩
    · -- The installing step is the last one, or the last one is among those behind it.
      rcases List.eq_nil_or_concat after with rfl | ⟨after, v, rfl⟩
      · obtain ⟨rfl, hlast⟩ := List.append_inj' heq rfl
        cases hlast
        exact Or.inl hu
      · rw [List.concat_eq_append] at heq hafter
        rw [← List.cons_append, ← List.append_assoc] at heq
        obtain ⟨rfl, hlast⟩ := List.append_inj' heq rfl
        cases hlast
        exact Or.inr ⟨hafter t (by simp), Or.inr ⟨before, u, after, rfl,
          fun w hw => hafter w (by simp [hw]), hu⟩⟩
  · rintro (ht | ⟨ht, ⟨hnone, rfl⟩ | ⟨before, u, after, rfl, hafter, hu⟩⟩)
    · exact Or.inr ⟨ts, t, [], rfl, nofun, ht⟩
    · refine Or.inl ⟨fun u hu => ?_, rfl⟩
      rcases List.mem_append.mp hu with hu | hu
      · exact hnone u hu
      · rwa [List.mem_singleton.mp hu]
    · refine Or.inr ⟨before, u, after ++ [t], by simp, fun w hw => ?_, hu⟩
      rcases List.mem_append.mp hw with hw | hw
      · exact hafter w hw
      · rwa [List.mem_singleton.mp hw]

end SessionStep

/-! ## Runs -/

namespace Session

open SessionStep

theorem step_configure_ok (s : Session) {document : String} {settings : Settings}
    (h : Settings.ofDocument document = .ok settings) :
    s.step (.configure document) = s.activate settings.dialect.dialect := by
  simp only [step, h]

theorem step_configure_error (s : Session) {document : String} {err : SettingsError}
    (h : Settings.ofDocument document = .error err) :
    s.step (.configure document) = (s, .refused err) := by
  simp only [step, h]

theorem setting_step (s : Session) (t : SessionStep) :
    (s.step t).1.setting = t.setting?.getD s.setting := by
  cases t with
  | configure document =>
    cases h : Settings.ofDocument document with
    | ok settings =>
      rw [step_configure_ok s h]
      rfl
    | error err =>
      rw [step_configure_error s h]
      rfl
  | _ => rfl

/-- **What a step does to the active dialect**: it installs one, or leaves it as it is. -/
theorem active_step_eq_iff {s : Session} {t : SessionStep} {d : Dialect} :
    (s.step t).1.active = d ↔ t.Installs s.setting d ∨ ¬t.IsInstalling ∧ s.active = d := by
  have huse : ¬t.IsInstalling → (s.step t).1.active = s.active →
      ((s.step t).1.active = d ↔ t.Installs s.setting d ∨ ¬t.IsInstalling ∧ s.active = d) := by
    intro ht hactive
    rw [hactive, or_iff_right fun h => ht h.isInstalling, and_iff_right ht]
  cases t with
  | reset =>
    rw [or_iff_left fun h => h.1 .reset]
    exact dialectOf_eq_iff.trans ⟨.reset, fun h => by cases h; assumption⟩
  | install d' =>
    rw [or_iff_left fun h => h.1 (.install d')]
    constructor
    · rintro rfl
      exact .install _
    · intro h
      cases h
      rfl
  | configure document =>
    cases h : Settings.ofDocument document with
    | ok settings =>
      have hb := Settings.ofDocument_eq_ok_iff.mp h
      rw [step_configure_ok s h, or_iff_left fun h' => h'.1 (.configure hb)]
      constructor
      · rintro rfl
        exact .configure hb
      · intro hd
        cases hd with
        | configure hb' =>
          rw [hb'.ofDocument_eq] at h
          cases h
          rfl
    | error err =>
      refine huse (fun hinstalling => ?_) (by rw [step_configure_error s h])
      cases hinstalling with
      | configure hb =>
        rw [hb.ofDocument_eq] at h
        cases h
  | setEnvironment setting => exact huse nofun rfl
  | observe => exact huse nofun rfl
  | compile e => exact huse nofun rfl
  | page p => exact huse nofun rfl
  | query q => exact huse nofun rfl

/-- The answer of a step is given with the dialect that is active behind it. -/
theorem answer_step (s : Session) (t : SessionStep) :
    (s.step t).2 = t.answer (s.step t).1.active := by
  cases t with
  | configure document =>
    cases h : Settings.ofDocument document with
    | ok settings =>
      rw [step_configure_ok s h, answer, h]
      rfl
    | error err => rw [step_configure_error s h, answer, h]
  | _ => rfl

/-- The session is behind the steps, at first without a setting. -/
structure Behind (s : Session) (ts : List SessionStep) : Prop where
  setting_eq : s.setting = settingBehind ts
  active_eq_iff : ∀ d, s.active = d ↔ LastInstalled ts d

theorem behind_nil : fresh.Behind [] := ⟨rfl, fun _ => lastInstalled_nil.symm⟩

variable {s : Session} {ts : List SessionStep}

/-- **A step preserves the invariant.** -/
theorem Behind.step (h : s.Behind ts) (t : SessionStep) : (s.step t).1.Behind (ts ++ [t]) where
  setting_eq := by rw [setting_step, settingBehind_concat, h.setting_eq]
  active_eq_iff d := by
    rw [active_step_eq_iff, lastInstalled_concat, h.setting_eq, h.active_eq_iff]

/-- **A run preserves the invariant**, by induction on its steps. -/
theorem Behind.run (h : s.Behind ts) (us : List SessionStep) : (s.run us).1.Behind (ts ++ us) := by
  induction us generalizing s ts with
  | nil => rwa [List.append_nil]
  | cons u us ih =>
    have h' := ih (h.step u)
    rwa [List.append_assoc] at h'

theorem run_cons (s : Session) (t : SessionStep) (ts : List SessionStep) :
    s.run (t :: ts) = (((s.step t).1.run ts).1, (s.step t).2 :: ((s.step t).1.run ts).2) := rfl

theorem run_append (s : Session) (ts us : List SessionStep) :
    s.run (ts ++ us) =
      (((s.run ts).1.run us).1, (s.run ts).2 ++ ((s.run ts).1.run us).2) := by
  induction ts generalizing s with
  | nil => rfl
  | cons t ts ih =>
    rw [List.cons_append, run_cons, ih]
    rfl

theorem length_run (s : Session) (ts : List SessionStep) : (s.run ts).2.length = ts.length := by
  induction ts generalizing s with
  | nil => rfl
  | cons t ts ih => exact congrArg (· + 1) (ih _)

/-- **The active dialect over whole runs** that start with a reset, without a setting. Behind each
step it is what the last installing step has installed, where a reset reads the setting behind the
steps before it. A step that is not installing changes nothing. Each answer is the one that the
active dialect gives. -/
theorem run_lastInstalled (d₀ : Dialect) (before after : List SessionStep) (t : SessionStep) :
    let start := ((⟨none, d₀⟩ : Session).step .reset).1
    let active := (start.run (before ++ [t])).1.active
    (∀ d, active = d ↔ LastInstalled (before ++ [t]) d) ∧
      (¬t.IsInstalling → active = (start.run before).1.active) ∧
      (start.run (before ++ t :: after)).2[before.length]? = some (t.answer active) := by
  intro start active
  have hstep : active = ((start.run before).1.step t).1.active := by
    simp only [active, run_append]
    rfl
  refine ⟨(behind_nil.run (before ++ [t])).active_eq_iff, fun ht => ?_, ?_⟩
  · rw [hstep]
    exact active_step_eq_iff.mpr (Or.inr ⟨ht, rfl⟩)
  · rw [hstep, ← answer_step, run_append]
    simp [length_run, run]

/-- A setting counts from the reset on, compiling leaves the dialect as it is, and a document sets
another one. -/
theorem run_compile_behind_reset :
    let before := [SessionStep.setEnvironment (some " SQLite "), .reset]
    let document := SessionStep.configure "dialect: firebird"
    let t := SessionStep.compile (.constant (.bool true))
    let start := ((⟨none, .firebird⟩ : Session).step .reset).1
    (start.run before).1.active = .sqlite ∧ (start.run (before ++ [t])).1.active = .sqlite ∧
      (start.run (before ++ t :: [document])).2[2]? = some (t.answer .sqlite) ∧
      (start.run (before ++ [t] ++ [document])).1.active = .firebird := by
  -- Only what the document declares counts, so that its text is hidden from evaluation.
  generalize htext : "dialect: firebird" = text
  intro before document t start
  obtain ⟨hactive, hsame, hanswer⟩ := run_lastInstalled .firebird before [document] t
  obtain ⟨hdocument, -, -⟩ := run_lastInstalled .firebird (before ++ [t]) [] document
  have hquiet : ¬(SessionStep.compile (.constant (.bool true))).IsInstalling := nofun
  have hnamed : BuiltinDialect.sqlite.IsNamed " SQLite " :=
    ⟨[' '], "SQLite".toList, [' '], by decide +kernel, by simp [Text.isBlank], by decide +kernel⟩
  have hlast : LastInstalled (before ++ [t]) .sqlite :=
    Or.inr ⟨[.setEnvironment (some " SQLite ")], .reset, [t], rfl,
      fun u hu => by rwa [List.mem_singleton.mp hu], .reset (.named rfl hnamed)⟩
  have hsqlite := (hactive .sqlite).mpr hlast
  have hline : "dialect: firebird" = String.ofList (Yaml.Line.document false
      [⟨"dialect".toList, BuiltinDialect.firebird.name.toList, false⟩]) := by decide +kernel
  have hdeclares : Settings.DocumentDeclares text .firebird := by
    rw [← htext, hline]
    exact Settings.documentDeclares_name .firebird false false
  have hfirebird : LastInstalled (before ++ [t] ++ [document]) .firebird :=
    Or.inr ⟨before ++ [t], document, [], rfl, nofun, .configure hdeclares⟩
  exact ⟨(hsame hquiet).symm.trans hsqlite, hsqlite, by rw [← hsqlite]; exact hanswer,
    (hdocument .firebird).mpr hfirebird⟩

end Session

end WhereClause
