-- The settings of a session. They are read as a whole when they are first
-- asked for and then stay, whatever becomes of the variables, until a reset. A
-- fault leaves none behind, so that the next reading starts anew.
import Mathlib.Data.List.Induction
import Rulebook.Session
import Rulebook.Proofs.Computation
import Rulebook.Proofs.Mapping

namespace Rulebook

/-! ## Settings that passed every check -/

structure Settings.Valid (c : Settings) : Prop where
  level : c.log.level ∈ SettingFault.validLevels
  parentKey : c.logic.parentKey ≠ ""
  marker : c.logic.marker.length = 1
  unreserved : c.logic.marker ≠ "$"

theorem LogSettings.checked_ok {level : String} {directory : Option String} {c : LogSettings}
    (h : checked level directory = .ok c) : c.level ∈ SettingFault.validLevels := by
  simp only [checked] at h
  split at h
  · rename_i hlevel
    obtain rfl := Except.ok.inj h
    exact List.contains_iff_mem.mp hlevel
  · cases h

theorem LogicSettings.checked_ok {debug : Bool} {parentKey marker : String} {c : LogicSettings}
    (h : checked debug parentKey marker = .ok c) :
    c.parentKey ≠ "" ∧ c.marker.length = 1 ∧ c.marker ≠ "$" := by
  unfold checked at h
  by_cases hparent : parentKey = ""
  · rw [if_pos hparent] at h
    cases h
  by_cases hlength : marker.length ≠ 1
  · rw [if_neg hparent, if_pos hlength] at h
    cases h
  by_cases hmarker : marker = "$"
  · rw [if_neg hparent, if_neg hlength, if_pos hmarker] at h
    cases h
  rw [if_neg hparent, if_neg hlength, if_neg hmarker] at h
  obtain rfl := Except.ok.inj h
  exact ⟨hparent, Decidable.not_not.mp hlength, hmarker⟩

theorem Settings.ofVariables_valid {vars : Variables} {c : Settings} (h : ofVariables vars = .ok c) :
    c.Valid := by
  unfold ofVariables at h
  obtain ⟨log, hlog, h⟩ := bind_ok h
  obtain ⟨logic, hlogic, h⟩ := bind_ok h
  obtain rfl := Except.ok.inj h
  obtain ⟨hparent, hlength, hmarker⟩ := LogicSettings.checked_ok hlogic
  exact ⟨LogSettings.checked_ok hlog, hparent, hlength, hmarker⟩

namespace Configuration

/-- An instance is initialised with settings that were read as a whole, or not at
all. -/
theorem initialise_spec (c : Configuration) (vars : Variables) (refused : Option SettingFault) :
    (c.initialise vars refused).1 = refused.elim (Settings.ofVariables vars) .error
      ∧ (c.initialise vars refused).2.settings? = (c.initialise vars refused).1.toOption := by
  cases refused with
  | some f => exact ⟨rfl, rfl⟩
  | none =>
    simp only [initialise, Option.elim, Settings.ofVariables]
    cases LogSettings.ofVariables vars with
    | error f => exact ⟨rfl, rfl⟩
    | ok log => cases LogicSettings.ofVariables vars <;> exact ⟨rfl, rfl⟩

end Configuration

namespace Session

/-! ## Reading the settings -/

/-- The variables that the file gives a value. -/
def fileVariables (s : Session) : Variables :=
  match s.file with
  | some text => s.reader.given s.environment text
  | none => []

/-- What the environment, overlaid with the variables of the file, asks for. -/
def asked (s : Session) : Except SettingFault Settings :=
  match s.fileVariables.findSome? fun v => Variables.refusal? v.1 v.2 with
  | some f => .error f
  | none => Settings.ofVariables (Mapping.overlay s.environment s.fileVariables)

variable {s t : Session} {c : Settings}

theorem asked_valid (h : s.asked = .ok c) : c.Valid := by
  unfold asked at h
  split at h
  · cases h
  · exact Settings.ofVariables_valid h

theorem settings_eq_some : s.settings = some c ↔ s.configuration = .initialised c := by
  unfold settings
  cases s.configuration <;> simp [Configuration.settings?]

theorem consult_read (h : s.settings = some c) : s.consult = (.ok c, s) := by
  unfold consult
  rw [settings_eq_some.mp h]

/-- What is asked for is what the reader has set. -/
theorem asked_eq (s : Session) :
    s.asked = s.loadFile.2.elim (Settings.ofVariables s.loadFile.1) .error := by
  have hfile : s.loadFile.2 = s.fileVariables.findSome? (fun v => Variables.refusal? v.1 v.2)
      ∧ (s.loadFile.2 = none → s.loadFile.1 = Mapping.overlay s.environment s.fileVariables) := by
    unfold loadFile fileVariables
    cases s.file with
    | none => exact ⟨rfl, fun _ => rfl⟩
    | some text => exact ⟨s.reader.refuses _ _, s.reader.overlays _ _⟩
  obtain ⟨hrefused, henvironment⟩ := hfile
  unfold asked
  rw [← hrefused]
  cases hr : s.loadFile.2 with
  | some f => rfl
  | none =>
    rw [← henvironment hr]
    rfl

/-- The instance after a reading. -/
def reread (s : Session) : Configuration := (s.configuration.initialise s.loadFile.1 s.loadFile.2).2

theorem reread_settings (s : Session) : s.reread.settings? = s.asked.toOption := by
  obtain ⟨houtcome, hsettings⟩ := s.configuration.initialise_spec s.loadFile.1 s.loadFile.2
  rw [reread, hsettings, houtcome, asked_eq]

/-- Settings that were not read yet are read as a whole. -/
theorem consult_unread (h : s.settings = none) :
    s.consult = (s.asked.mapError .setting,
      { s with environment := s.loadFile.1, configuration := s.reread }) := by
  obtain ⟨houtcome, -⟩ := s.configuration.initialise_spec s.loadFile.1 s.loadFile.2
  rw [asked_eq, ← houtcome]
  unfold consult reread
  cases hs : s.configuration with
  | initialised c =>
    rw [settings_eq_some.mpr hs] at h
    cases h
  | absent | published => rfl

/-- Then those asked for are there, and none after a fault. -/
theorem consult_unread_settings (h : s.settings = none) : s.consult.2.settings = s.asked.toOption := by
  rw [consult_unread h]
  exact reread_settings s

/-- Settings that someone was given stay there. -/
theorem consult_settings (h : s.consult.1 = .ok c) : s.consult.2.settings = some c := by
  cases hs : s.settings with
  | some c' =>
    rw [consult_read hs] at h ⊢
    exact hs.trans (congrArg some (Except.ok.inj h))
  | none =>
    rw [consult_unread hs] at h
    rw [consult_unread_settings hs]
    cases hasked : s.asked with
    | error f =>
      rw [hasked] at h
      cases h
    | ok c' =>
      rw [hasked] at h
      exact congrArg some (Except.ok.inj h)

theorem setting_class (f : SettingFault) : (Fault.setting f).classOf = .value := rfl

/-- What reading does to the settings: they are there as before, or they were
not there and are now those asked for. -/
def Reads (s t : Session) : Prop :=
  t.settings = s.settings ∨ s.settings = none ∧ ∃ c, s.asked = .ok c ∧ t.settings = some c

theorem consult_reads (s : Session) : Reads s s.consult.2 := by
  cases h : s.settings with
  | some c =>
    rw [consult_read h]
    exact .inl rfl
  | none =>
    have hsettings := consult_unread_settings h
    cases hasked : s.asked with
    | error f =>
      rw [hasked] at hsettings
      exact .inl (hsettings.trans h.symm)
    | ok c =>
      rw [hasked] at hsettings
      exact .inr ⟨h, c, hasked, hsettings⟩

/-! ## What a command changes -/

/-- Reports apart, a session goes on as it is, or after it was asked for its
settings. -/
def GoesOn (s t : Session) : Prop :=
  ∃ reports, t = { s with reports := reports } ∨ t = { s.consult.2 with reports := reports }

theorem foldl_reports {α : Type} {f : Session → α → Session}
    (h : ∀ s a, ∃ reports, f s a = { s with reports := reports }) (xs : List α) (s : Session) :
    ∃ reports, xs.foldl f s = { s with reports := reports } := by
  induction xs generalizing s with
  | nil => exact ⟨s.reports, rfl⟩
  | cons x xs ih =>
    obtain ⟨first, hfirst⟩ := h s x
    obtain ⟨rest, hrest⟩ := ih (f s x)
    exact ⟨rest, by rw [List.foldl_cons, hrest, hfirst]⟩

theorem log_reports (level : Log.Level) (logger message : String) (s : Session) :
    ∃ reports, s.log level logger message = { s with reports := reports } := by
  unfold log
  split
  · exact ⟨_, rfl⟩
  · exact ⟨s.reports, rfl⟩

theorem logNotice_reports (s : Session) (n : Notice) :
    ∃ reports, s.logNotice n = { s with reports := reports } := by
  unfold logNotice
  split
  · split
    · exact log_reports ..
    · exact ⟨s.reports, rfl⟩
  · exact ⟨s.reports, rfl⟩

theorem deliver_reports (level : Log.Level) (s : Session) (e : Event) :
    ∃ reports, s.deliver level e = { s with reports := reports } := by
  unfold deliver
  split
  · exact ⟨s.reports, rfl⟩
  · split
    · exact ⟨_, rfl⟩
    · exact ⟨_, rfl⟩
    · exact ⟨_, rfl⟩
    · exact log_reports ..
    · exact log_reports ..

theorem debugMode_goesOn (s : Session) : s.GoesOn s.debugMode.2 := by
  unfold debugMode
  split
  · exact ⟨s.reports, .inl rfl⟩
  · exact ⟨_, .inr rfl⟩

theorem GoesOn.report (h : s.GoesOn t) (reports : List Report) :
    s.GoesOn { t with reports := reports } := by
  obtain ⟨_, rfl | rfl⟩ := h
  · exact ⟨reports, .inl rfl⟩
  · exact ⟨reports, .inr rfl⟩

theorem build_goesOn {α : Type} (s : Session) (work : Surroundings → Build α) :
    s.GoesOn (s.build work).2.2 := by
  have hnotices (draft : Draft) : s.GoesOn
      (draft.notices.reverse.foldl logNotice (if draft.consulted then s.consult.2 else s)) := by
    obtain ⟨reports, hreports⟩ := foldl_reports logNotice_reports draft.notices.reverse
      (if draft.consulted then s.consult.2 else s)
    rw [hreports]
    by_cases hconsulted : draft.consulted = true
    · rw [if_pos hconsulted]
      exact ⟨reports, .inr rfl⟩
    · rw [if_neg hconsulted]
      exact ⟨reports, .inl rfl⟩
  exact hnotices _

theorem evaluate_goesOn {α : Type} (s : Session) (b : Built α) (work : α → Eval Value) :
    s.GoesOn (s.evaluate b work).2.2 := by
  have hevents (asked : Bool) (level : Log.Level) (events : List Event) :
      s.GoesOn (events.foldl (deliver level) (if asked then s.debugMode.2 else s)) := by
    obtain ⟨reports, hreports⟩ := foldl_reports (deliver_reports level) events
      (if asked then s.debugMode.2 else s)
    rw [hreports]
    cases asked with
    | true => exact (debugMode_goesOn s).report reports
    | false => exact ⟨reports, .inl rfl⟩
  unfold evaluate
  cases s.debugMode.1 with
  | ok on => exact hevents _ _ _
  | error f => exact hevents _ _ _

/-- An evaluation leaves what it evaluates as it is. -/
theorem evaluate_content {α : Type} (s : Session) (b : Built α) (work : α → Eval Value) :
    (s.evaluate b work).2.1.content = b.content := rfl

theorem GoesOn.reads (h : s.GoesOn t) : Reads s t := by
  obtain ⟨_, rfl | rfl⟩ := h
  · exact .inl rfl
  · exact consult_reads s

theorem consult_rest (s : Session) : s.consult.2.logics = s.logics ∧ s.consult.2.strict = s.strict := by
  cases h : s.settings with
  | some c =>
    rw [consult_read h]
    exact ⟨rfl, rfl⟩
  | none =>
    rw [consult_unread h]
    exact ⟨rfl, rfl⟩

theorem GoesOn.rest (h : s.GoesOn t) : t.logics = s.logics ∧ t.strict = s.strict := by
  obtain ⟨_, rfl | rfl⟩ := h
  · exact ⟨rfl, rfl⟩
  · exact consult_rest s

/-- What is built under a name. -/
def logic? (s : Session) (id : String) : Option Logic := (Mapping.get? id s.logics).map Built.content

/-- Commands that set up what others go by. -/
def Command.IsEdit : Command → Prop
  | .setVariables _ | .writeFile _ | .reset | .setSink _ | .setDebug _ | .setThreshold _ => True
  | _ => False

/-- Any other command may read the settings, report, and build things. It
replaces no logic but that under the name of a new one. -/
theorem step_works (s : Session) {command : Command} (h : ¬ command.IsEdit) :
    ∃ t logics maps, s.GoesOn t ∧ (s.step command).2 = { t with logics := logics, maps := maps }
      ∧ ∀ id, (∀ operations base definition, command ≠ .newLogic id operations base definition) →
          (Mapping.get? id logics).map Built.content = s.logic? id := by
  have hgoesOn {t : Session} (ht : s.GoesOn t) (id : String) :
      (Mapping.get? id t.logics).map Built.content = s.logic? id := by
    rw [ht.rest.1, logic?]
  have hstays : s.GoesOn s := ⟨s.reports, .inl rfl⟩
  cases command with
  | summary => exact ⟨s.consult.2, _, _, ⟨_, .inr rfl⟩, rfl, fun id _ => hgoesOn ⟨_, .inr rfl⟩ id⟩
  | isDebug =>
    have hmode := debugMode_goesOn s
    exact ⟨s.debugMode.2, _, _, hmode, rfl, fun id _ => hgoesOn hmode id⟩
  | newLogic id operations base definition =>
    have hbuild := build_goesOn s fun around =>
      Logic.build around operations (base.boxed .base) (definition.boxed .definition)
    simp only [step, newLogic]
    generalize (s.build fun around =>
      Logic.build around operations (base.boxed .base) (definition.boxed .definition)) = result at hbuild
    have hname {other : String} (hother : ∀ operations' base' definition',
        Command.newLogic id operations base definition
          ≠ .newLogic other operations' base' definition') : (id == other) = false := by
      apply beq_false_of_ne
      rintro rfl
      exact hother _ _ _ rfl
    obtain ⟨_ | b, lookups, t⟩ := result
    · refine ⟨t, _, _, hbuild, rfl, fun other hother => ?_⟩
      rw [Mapping.get?_erase (hname hother)]
      exact hgoesOn hbuild other
    · refine ⟨t, _, _, hbuild, rfl, fun other hother => ?_⟩
      rw [Mapping.get?_put, hname hother]
      exact hgoesOn hbuild other
  | newMap id base definition =>
    have hbuild := build_goesOn s fun around =>
      LogicMap.build (Logic.build around [] (base.boxed .base)) (definition.boxed .definition)
    simp only [step, newMap]
    generalize (s.build fun around =>
      LogicMap.build (Logic.build around [] (base.boxed .base)) (definition.boxed .definition)) = result
      at hbuild
    obtain ⟨_ | b, lookups, t⟩ := result
    · exact ⟨t, _, _, hbuild, rfl, fun other _ => hgoesOn hbuild other⟩
    · exact ⟨t, _, _, hbuild, rfl, fun other _ => hgoesOn hbuild other⟩
  | evalLogic id context =>
    simp only [step, evalLogic]
    cases hb : Mapping.get? id s.logics with
    | none => exact ⟨s, _, _, hstays, rfl, fun other _ => hgoesOn hstays other⟩
    | some b =>
      have heval := evaluate_goesOn s b fun l : Logic => l.eval (context.boxed .context)
      refine ⟨_, _, _, heval, rfl, fun other _ => ?_⟩
      rw [Mapping.get?_put]
      by_cases hother : id = other
      · subst hother
        rw [if_pos BEq.rfl, logic?, hb]
        exact congrArg some (evaluate_content s b fun l : Logic => l.eval (context.boxed .context))
      · rw [if_neg (by simpa using hother)]
        exact hgoesOn heval other
  | evalMap id context =>
    simp only [step, evalMap]
    cases Mapping.get? id s.maps with
    | none => exact ⟨s, _, _, hstays, rfl, fun other _ => hgoesOn hstays other⟩
    | some b =>
      have heval := evaluate_goesOn s b fun m : LogicMap => m.eval (context.boxed .context)
      exact ⟨_, _, _, heval, rfl, fun other _ => hgoesOn heval other⟩
  | describe id =>
    simp only [step]
    cases Mapping.get? id s.logics with
    | none => exact ⟨s, _, _, hstays, rfl, fun other _ => hgoesOn hstays other⟩
    | some b => exact ⟨s, _, _, hstays, rfl, fun other _ => hgoesOn hstays other⟩
  | _ => exact absurd trivial h

/-- A command other than a reset reads the settings, if it touches them at all. -/
theorem step_reads (s : Session) {command : Command} (h : command ≠ .reset) :
    Reads s (s.step command).2 := by
  by_cases hedit : command.IsEdit
  · cases command with
    | reset => exact absurd rfl h
    | setVariables | writeFile | setSink | setDebug | setThreshold => exact .inl rfl
    | _ => exact hedit.elim
  · obtain ⟨t, logics, maps, ht, hstep, -⟩ := step_works s hedit
    rw [hstep]
    exact ht.reads

/-! ## Runs of commands -/

theorem run_cons (s : Session) (command : Command) (commands : List Command) :
    s.run (command :: commands) = (s.step command).2.run commands := rfl

theorem run_append (s : Session) (before later : List Command) :
    s.run (before ++ later) = (s.run before).run later := List.foldl_append

/-- Settings that were read stay until a reset. -/
theorem run_keeps (h : s.settings = some c) {commands : List Command} (hreset : .reset ∉ commands) :
    (s.run commands).settings = some c := by
  induction commands generalizing s with
  | nil => exact h
  | cons command commands ih =>
    rw [run_cons]
    have hother : command ≠ .reset := fun heq => hreset (heq ▸ List.mem_cons_self)
    rcases step_reads s hother with hkept | ⟨hnone, -⟩
    · exact ih (hkept.trans h) fun hmem => hreset (List.mem_cons_of_mem _ hmem)
    · rw [h] at hnone
      cases hnone

/-- Settings that are there were asked for at the first reading since the last
reset. -/
theorem run_origin (hs : s.settings = none) {commands : List Command}
    (h : (s.run commands).settings = some c) :
    ∃ before reading later, commands = before ++ reading :: later ∧ .reset ∉ reading :: later
      ∧ (s.run before).settings = none ∧ (s.run before).asked = .ok c
      ∧ ((s.run before).step reading).2.settings = some c := by
  induction commands using List.reverseRecOn with
  | nil =>
    have hnone : s.settings = some c := h
    rw [hs] at hnone
    cases hnone
  | append_singleton commands command ih =>
    rw [run_append] at h
    by_cases hreset : command = .reset
    · subst hreset
      cases h
    rcases step_reads (s.run commands) hreset with hkept | ⟨hnone, c', hasked, hread⟩
    · obtain ⟨before, reading, later, rfl, hlater, horigin⟩ := ih (hkept.symm.trans h)
      refine ⟨before, reading, later ++ [command], List.append_assoc .., ?_, horigin⟩
      rw [← List.cons_append, List.mem_append, List.mem_singleton]
      rintro (hmem | hmem)
      · exact hlater hmem
      · exact hreset hmem.symm
    · obtain rfl : c' = c := Option.some.inj (hread.symm.trans h)
      refine ⟨commands, command, [], rfl, ?_, hnone, hasked, hread⟩
      rw [List.mem_singleton]
      exact fun heq => hreset heq.symm

/-- Where no settings are there, every reading since the last reset has failed. -/
theorem run_failed (s : Session) {earlier later : List Command}
    (h : (s.run (earlier ++ .summary :: later)).settings = none) (hreset : .reset ∉ later) :
    ∃ f, (s.run earlier).consult.1 = .error f := by
  cases hread : (s.run earlier).consult.1 with
  | error f => exact ⟨f, rfl⟩
  | ok c =>
    rw [run_append, run_cons] at h
    have hkept := run_keeps (s := ((s.run earlier).step .summary).2) (consult_settings hread) hreset
    rw [hkept] at h
    cases h

theorem run_edits (h : s.settings = none) {edits : List Command} (hedits : ∀ e ∈ edits, e.IsEdit) :
    (s.run edits).settings = none := by
  induction edits generalizing s with
  | nil => exact h
  | cons e edits ih =>
    rw [run_cons]
    apply ih _ fun e' he' => hedits e' (List.mem_cons_of_mem _ he')
    have he := hedits e List.mem_cons_self
    cases e with
    | reset => rfl
    | setVariables | writeFile | setSink | setDebug | setThreshold => exact h
    | _ => exact he.elim

/-- The settings of a session are all there or not at all, however its file of
variables is read. After any commands, whoever asks for them gets settings that
passed every check, or a fault. They are what the variables and the file asked for
at the first reading since the last reset, which comes next if it is not this one,
and remain the answer until the next reset. After a fault none are there, and the
next reading starts anew. -/
theorem settings_are_read_as_a_whole_and_kept (s : Session) (hs : s.settings = none)
    (commands : List Command) :
    (∀ c, (s.run commands).consult.1 = .ok c → c.Valid
      ∧ (∃ before later, commands = before ++ later ∧ .reset ∉ later
          ∧ (s.run before).settings = none ∧ (s.run before).asked = .ok c
          ∧ (later = [] ∨ ∃ reading rest, later = reading :: rest
              ∧ ((s.run before).step reading).2.settings = some c)
          ∧ ∀ earlier since, before = earlier ++ .summary :: since → .reset ∉ since →
              ∃ f, (s.run earlier).consult.1 = .error f)
      ∧ ∀ more, .reset ∉ more → ((s.run commands).consult.2.run more).consult.1 = .ok c)
    ∧ ∀ f, (s.run commands).consult.1 = .error f → f.classOf = .value
      ∧ (s.run commands).asked.mapError .setting = .error f
      ∧ (s.run commands).consult.2.settings = none
      ∧ ∀ edits, (∀ e ∈ edits, e.IsEdit) → ((s.run commands).consult.2.run edits).consult.1
          = ((s.run commands).consult.2.run edits).asked.mapError .setting := by
  have hlater {t : Session} {c : Settings} (ht : t.settings = some c) (more : List Command)
      (hmore : .reset ∉ more) : (t.run more).consult.1 = .ok c := by
    rw [consult_read (run_keeps ht hmore)]
  have hfirst {before : List Command} (hbefore : (s.run before).settings = none)
      (earlier since : List Command) (heq : before = earlier ++ .summary :: since)
      (hsince : .reset ∉ since) : ∃ f, (s.run earlier).consult.1 = .error f := by
    rw [heq] at hbefore
    exact run_failed s hbefore hsince
  cases hsettings : (s.run commands).settings with
  | some c =>
    obtain ⟨before, reading, rest, hsplit, hreset, hnone, hasked, hread⟩ := run_origin hs hsettings
    rw [consult_read hsettings]
    constructor
    · rintro _ ⟨⟩
      exact ⟨asked_valid hasked, ⟨before, reading :: rest, hsplit, hreset, hnone, hasked,
        .inr ⟨reading, rest, rfl, hread⟩, hfirst hnone⟩, hlater hsettings⟩
    · rintro f ⟨⟩
  | none =>
    have hafter := consult_unread_settings hsettings
    cases hasked : (s.run commands).asked with
    | ok c =>
      rw [hasked] at hafter
      constructor
      · intro c' hc'
        have hsame := consult_settings hc'
        obtain rfl : c = c' := Option.some.inj (hafter.symm.trans hsame)
        exact ⟨asked_valid hasked, ⟨commands, [], (List.append_nil _).symm, List.not_mem_nil, hsettings,
          hasked, .inl rfl, hfirst hsettings⟩, hlater hafter⟩
      · rw [consult_unread hsettings, hasked]
        rintro f ⟨⟩
    | error f =>
      rw [hasked] at hafter
      rw [consult_unread hsettings, hasked] at hafter ⊢
      constructor
      · rintro c ⟨⟩
      · rintro _ ⟨⟩
        refine ⟨setting_class f, rfl, hafter, fun edits hedits => ?_⟩
        rw [consult_unread (run_edits hafter hedits)]

/-- A level that is no level, then another one, which stays. -/
theorem level_stays_after_a_fault :
    ∃ c, ((fresh .log).run [.setVariables [("LOG_LEVEL", some "LOUD")], .summary,
          .setVariables [("LOG_LEVEL", some "debug")], .summary,
          .setVariables [("LOG_LEVEL", some "ERROR")]]).consult.1 = .ok c
      ∧ c.log.level = "DEBUG" ∧ c.Valid := by
  have hread : ((fresh .log).run [.setVariables [("LOG_LEVEL", some "LOUD")], .summary,
        .setVariables [("LOG_LEVEL", some "debug")], .summary,
        .setVariables [("LOG_LEVEL", some "ERROR")]]).consult.1
      = .ok ⟨⟨"DEBUG", none⟩, ⟨false, Settings.defaultParentKey, Settings.defaultMarker⟩⟩ := rfl
  exact ⟨_, hread, rfl, ((settings_are_read_as_a_whole_and_kept (fresh .log) rfl _).1 _ hread).1⟩

end Session
end Rulebook
