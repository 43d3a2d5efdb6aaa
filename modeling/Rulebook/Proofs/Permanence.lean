-- A logic that was built stays as it is. Whatever happens afterwards, its
-- evaluations end as the first one did, unless debug mode can no longer be told.
import Rulebook.Proofs.LogicMaps
import Rulebook.Proofs.Recording
import Rulebook.Proofs.Sessions
import Rulebook.Proofs.Transparency

namespace Rulebook

/-! ## Results that are alike but for some faults -/

/-- The first result is the second one, or one of some faults. -/
def EndsLike {α : Type} (E : Fault → Prop) (r q : Except Fault α) : Prop :=
  r = q ∨ ∃ e, E e ∧ r = .error e

namespace EndsLike

variable {α β σ : Type} {E : Fault → Prop} {r q : Except Fault α}

theorem refl (r : Except Fault α) : EndsLike E r r := .inl rfl

theorem bind {f g : α → Except Fault β} (h : EndsLike E r q) (hf : ∀ a, EndsLike E (f a) (g a)) :
    EndsLike E (r >>= f) (q >>= g) := by
  rcases h with rfl | ⟨e, he, rfl⟩
  · cases r with
    | error e => exact refl _
    | ok a => exact hf a
  · exact .inr ⟨e, he, rfl⟩

theorem mapM {f g : α → Except Fault β} {xs : List α} (h : ∀ x ∈ xs, EndsLike E (f x) (g x)) :
    EndsLike E (xs.mapM f) (xs.mapM g) := by
  induction xs with
  | nil => exact refl _
  | cons x xs ih =>
    rw [List.mapM_cons, List.mapM_cons]
    apply (h x List.mem_cons_self).bind
    intro y
    exact (ih fun x' hx' => h x' (List.mem_cons_of_mem _ hx')).bind fun ys => refl _

theorem foldlM {f g : σ → α → Except Fault σ} {xs : List α}
    (h : ∀ s, ∀ x ∈ xs, EndsLike E (f s x) (g s x)) (s : σ) :
    EndsLike E (xs.foldlM f s) (xs.foldlM g s) := by
  induction xs generalizing s with
  | nil => exact refl _
  | cons x xs ih =>
    rw [List.foldlM_cons, List.foldlM_cons]
    apply (h s x List.mem_cons_self).bind
    intro s'
    exact ih (fun s x' hx' => h s x' (List.mem_cons_of_mem _ hx')) s'

end EndsLike

/-- A value changes no more than what becomes of the records. -/
theorem Node.value_endsLike {E : Fault → Prop} {p q : Policy} (n : Node)
    (hseen : ∀ e, EndsLike E (p.take (.named "") e) (q.take (.named "") e))
    (h : ∀ r ∈ n.recorders, ∀ e, EndsLike E (p.take r.sink e) (q.take r.sink e)) (context : Fields) :
    EndsLike E (n.value p context) (n.value q context) := by
  have hpart {xs : List Node} (hxs : ∀ r ∈ xs.flatMap recorders, ∀ e,
      EndsLike E (p.take r.sink e) (q.take r.sink e)) {x : Node} (hx : x ∈ xs) :
      ∀ r ∈ x.recorders, ∀ e, EndsLike E (p.take r.sink e) (q.take r.sink e) :=
    fun r hr => hxs r (List.mem_flatMap.mpr ⟨x, hx, hr⟩)
  induction n generalizing context with
  | literal v => exact EndsLike.refl _
  | path names resolver => exact EndsLike.refl _
  | template text holes ih =>
    simp only [recorders, recordersOfItems_eq] at h
    simp only [value, valueOfHoles_eq]
    refine (EndsLike.mapM fun x hx => ?_).bind fun ts => EndsLike.refl _
    exact (ih x hx (hpart h hx) context).bind fun v => EndsLike.refl _
  | branch x t f hx ht hf =>
    simp only [recorders, List.forall_mem_append] at h
    simp only [value]
    refine (hx h.1.1 context).bind fun v => ?_
    split
    · exact ht h.1.2 context
    · exact hf h.2 context
  | unary name f x ih =>
    simp only [value]
    exact (ih h context).bind fun v => EndsLike.refl _
  | binary name f xs ih | complex name f xs ih =>
    simp only [recorders, recordersOfItems_eq] at h
    simp only [value, valueOfItems_eq]
    refine (EndsLike.mapM fun x hx => ?_).bind fun vs => EndsLike.refl _
    exact ih x hx (hpart h hx) context
  | witness name x ih =>
    simp only [value]
    exact (ih h context).bind fun v => (hseen _).bind fun _ => EndsLike.refl _
  | array xs ih =>
    simp only [recorders, recordersOfItems_eq] at h
    simp only [value, valueOfItems_eq]
    refine (EndsLike.mapM fun x hx => ?_).bind fun vs => EndsLike.refl _
    exact ih x hx (hpart h hx) context
  | object es ih =>
    simp only [recorders, recordersOfEntries_eq] at h
    simp only [value, valueOfEntries_eq]
    refine (EndsLike.mapM fun e he => ?_).bind fun fs => EndsLike.refl _
    have hentry : ∀ r ∈ e.2.recorders, ∀ e, EndsLike E (p.take r.sink e) (q.take r.sink e) :=
      fun r hr => h r (List.mem_flatMap.mpr ⟨e, he, hr⟩)
    exact (ih e he hentry context).bind fun v => EndsLike.refl _
  | property base keys hb hk =>
    simp only [recorders, recordersOfItems_eq, List.forall_mem_append] at h
    simp only [value, valueOfKeys_eq]
    refine (hb h.1 context).bind fun v => EndsLike.foldlM (fun w x hx => ?_) v
    exact (hk x hx (hpart h.2 hx) context).bind fun key => EndsLike.refl _
  | calculated x ih => exact ih h context
  | map source body hs hb =>
    simp only [recorders, List.forall_mem_append] at h
    simp only [value]
    refine (hs h.1 context).bind fun v => ?_
    cases v with
    | object fs =>
      refine (EndsLike.mapM fun e _ => ?_).bind fun es => EndsLike.refl _
      exact (hb h.2 _).bind fun w => EndsLike.refl _
    | list xs => exact (EndsLike.mapM fun e _ => hb h.2 _).bind fun vs => EndsLike.refl _
    | _ => exact EndsLike.refl _
  | recorded r d x ih =>
    simp only [recorders, List.forall_mem_cons] at h
    simp only [value]
    refine (h.1 _).bind fun _ => (ih h.2 context).bind fun v => ?_
    exact (h.1 _).bind fun _ => EndsLike.refl _

theorem Logic.value_endsLike {E : Fault → Prop} {p q : Policy} {l : Logic}
    (hseen : ∀ e, EndsLike E (p.take (.named "") e) (q.take (.named "") e))
    (h : ∀ r ∈ l.root.recorders, ∀ e, EndsLike E (p.take r.sink e) (q.take r.sink e))
    (context : Value) : EndsLike E (l.value p context) (l.value q context) := by
  cases context with
  | null => exact l.root.value_endsLike hseen h _
  | object fs => exact l.root.value_endsLike hseen h _
  | _ => exact EndsLike.refl _

theorem Logic.build_debugged_bool :
    (Logic.build ordinary [] .null (debugged (.bool true))).run.run ⟨0, [], false⟩
      = (.ok ⟨debugged (.bool true), [], [], .recorded ⟨0, .log⟩ (.bool true) (.literal (.bool true))⟩,
        ⟨1, [.compiling Operation.literalName (.bool true), .compiling "debug" (.bool true)], true⟩) := by
  have hliteral : Registry.standard.factory? (.text Operation.literalName)
      = some (.form Blueprint.literal) := rfl
  have hbase : Entries.ofValue .null = .ok [] := rfl
  have hoperand (r : Recorder) : Compile.compile ⟨Registry.standard, Settings.defaultMarker,
        .ok Settings.defaultParentKey, .log⟩ (.recorded r) (.bool true) = (do
      Build.note (.compiling Operation.literalName (.bool true))
      return .literal (.bool true)) := by
    rw [Compile.compile]
    simp [Compile.select, hliteral, Compile.ofFactory, Compile.ofBlueprint, Blueprint.literal,
      Blueprint.payloads, Blueprint.quote, Key.plain]
  have hdebugged (d : Value) : Compile.compile ⟨Registry.standard, Settings.defaultMarker,
      .ok Settings.defaultParentKey, .log⟩ .plain (debugged d) = _ :=
    Compile.compile_debugged rfl .plain d
  rw [build_eq hbase rfl rfl]
  simp only [setup, ordinary, hdebugged, Compile.ofDebug, Compile.beneath, hoperand]
  rfl

namespace Session

variable {s t : Session} {id : String} {l : Logic}

/-! ## Evaluations of a session -/

/-- What sinks refuse in an evaluation. -/
def policy (s : Session) : Policy where
  logFault := match s.debugMode.1 with
    | .ok _ => none
    | .error f => some f
  strict := s.strict && Log.passes s.threshold (match s.debugMode.1 with
    | .ok true => Log.Level.info
    | _ => Log.Level.debug)
  choosy := s.strict

theorem policy_quiet (h : s.strict = false) {on : Bool} (hmode : s.debugMode.1 = .ok on) :
    s.policy.Quiet where
  logFault := by simp only [policy, hmode]
  strict := by simp only [policy, h, Bool.false_and]
  choosy := h

/-- An evaluation ends with the value of the logic. -/
theorem eval_reply (hl : s.logic? id = some l) (hsettled : .count ∉ l.root.sources)
    (context : Value) :
    (s.step (.evalLogic id context)).1 = .ofOutcome (l.value s.policy (context.boxed .context)) := by
  unfold logic? at hl
  obtain ⟨b, hb, rfl⟩ := Option.map_eq_some_iff.mp hl
  simp only [step, evalLogic, hb]
  have hvalue : (s.evaluate b fun l : Logic => l.eval (context.boxed .context)).1
      = b.content.value s.policy (context.boxed .context) :=
    (Logic.eval_yields s.policy b.content hsettled _ _ rfl).1
  exact congrArg Reply.ofOutcome hvalue

/-! ## What is known right after building -/

theorem consult_congr (hsettings : t.settings = s.settings) (henvironment : t.environment = s.environment)
    (hfile : t.file = s.file) (hreader : t.reader = s.reader) : t.consult.1 = s.consult.1 := by
  cases h : s.settings with
  | some c => rw [consult_read h, consult_read (hsettings.trans h)]
  | none =>
    have hasked : t.asked = s.asked := by
      unfold asked fileVariables
      rw [henvironment, hfile, hreader]
    rw [consult_unread h, consult_unread (hsettings.trans h), hasked]

theorem GoesOn.consult (h : s.GoesOn t) {c : Settings} (hc : s.consult.1 = .ok c) :
    t.consult.1 = .ok c := by
  obtain ⟨reports, heq | heq⟩ := h
  · have hsame : t.consult.1 = s.consult.1 := by subst heq; exact consult_congr rfl rfl rfl rfl
    exact hsame.trans hc
  · have hsame : t.consult.1 = s.consult.2.consult.1 := by subst heq; exact consult_congr rfl rfl rfl rfl
    rw [hsame, consult_read (consult_settings hc)]

/-- Who has settings can tell debug mode. -/
theorem debugMode_ok {c : Settings} (h : s.consult.1 = .ok c) : ∃ on, s.debugMode.1 = .ok on := by
  unfold debugMode
  cases s.debug with
  | some on => exact ⟨on, rfl⟩
  | none =>
    simp only [h]
    exact ⟨_, rfl⟩

/-- Only where it was reset and the variables are at fault, debug mode cannot be told. -/
theorem debugMode_error {f : Fault} (h : s.debugMode.1 = .error f) :
    s.debug = none ∧ s.settings = none ∧ s.asked.mapError .setting = .error f := by
  unfold debugMode at h
  cases hdebug : s.debug with
  | some on =>
    rw [hdebug] at h
    cases h
  | none =>
    rw [hdebug] at h
    cases hsettings : s.settings with
    | some c =>
      rw [consult_read hsettings] at h
      cases h
    | none =>
      rw [consult_unread hsettings] at h
      cases hasked : s.asked with
      | ok c =>
        rw [hasked] at h
        cases h
      | error g =>
        rw [hasked] at h
        have hf : Fault.setting g = f := Except.error.inj h
        exact ⟨rfl, rfl, congrArg Except.error hf⟩

/-- What a session has after it built a logic. -/
theorem newLogic_built {base d : Value} {lookups : List (List String)}
    (h : (s.newLogic id [] base d).1 = .built lookups) :
    (∃ l, (s.newLogic id [] base d).2.logic? id = some l ∧ .count ∉ l.root.sources)
      ∧ (∃ on, (s.newLogic id [] base d).2.debugMode.1 = .ok on)
      ∧ (s.newLogic id [] base d).2.strict = s.strict := by
  have hgoesOn := build_goesOn s fun around => Logic.build around [] base d
  have houtcome : (s.build fun around => Logic.build around [] base d).1
      = (outcome (Logic.build ⟨s.consult.1.map fun c => c.logic, s.sink⟩ [] base d) ⟨0, [], false⟩).map
          fun l => ⟨l, fun _ => 0⟩ := rfl
  simp only [newLogic] at h ⊢
  generalize (s.build fun around => Logic.build around [] base d) = result at h hgoesOn houtcome ⊢
  obtain ⟨_ | b, _, t⟩ := result
  · cases h
  · cases hl : outcome (Logic.build ⟨s.consult.1.map fun c => c.logic, s.sink⟩ [] base d) ⟨0, [], false⟩ with
    | error f =>
      rw [hl] at houtcome
      cases houtcome
    | ok l =>
      rw [hl] at houtcome
      obtain rfl := Except.ok.inj houtcome
      have hsettled := Logic.build_settled _ base d _ l hl
      obtain ⟨_, _, settings, -, -, hset⟩ := Logic.build_ok hl
      obtain ⟨c, hc, -⟩ : ∃ c, s.consult.1 = .ok c ∧ c.logic = settings := by
        cases hc : s.consult.1 with
        | error f =>
          rw [hc] at hset
          cases hset
        | ok c =>
          rw [hc] at hset
          exact ⟨c, rfl, Except.ok.inj hset⟩
      refine ⟨⟨l, ?_, hsettled⟩, ?_, hgoesOn.rest.2⟩
      · simp [logic?]
      · apply debugMode_ok (c := c)
        rw [← hgoesOn.consult hc]
        exact consult_congr rfl rfl rfl rfl

/-! ## Commands that leave a logic alone -/

theorem step_strict (s : Session) (command : Command) : (s.step command).2.strict = s.strict := by
  by_cases hedit : command.IsEdit
  · cases command with
    | setVariables | writeFile | reset | setSink | setDebug | setThreshold => rfl
    | _ => exact hedit.elim
  · obtain ⟨t, logics, maps, ht, hstep, -⟩ := step_works s hedit
    rw [hstep]
    exact ht.rest.2

theorem run_strict (s : Session) (commands : List Command) : (s.run commands).strict = s.strict := by
  induction commands generalizing s with
  | nil => rfl
  | cons command commands ih => exact (ih _).trans (step_strict s command)

/-- A logic stays until another one is built under its name. -/
theorem step_logic (s : Session) {command : Command}
    (h : ∀ operations base definition, command ≠ .newLogic id operations base definition) :
    (s.step command).2.logic? id = s.logic? id := by
  by_cases hedit : command.IsEdit
  · cases command with
    | setVariables | writeFile | reset | setSink | setDebug | setThreshold => rfl
    | _ => exact hedit.elim
  · obtain ⟨t, logics, maps, -, hstep, hlogics⟩ := step_works s hedit
    rw [hstep]
    exact hlogics id h

theorem run_logic (s : Session) {commands : List Command}
    (h : ∀ operations base definition, .newLogic id operations base definition ∉ commands) :
    (s.run commands).logic? id = s.logic? id := by
  induction commands generalizing s with
  | nil => rfl
  | cons command commands ih =>
    rw [run_cons, ih _ fun operations base definition hmem =>
      h operations base definition (List.mem_cons_of_mem _ hmem)]
    apply step_logic
    rintro operations base definition rfl
    exact h operations base definition List.mem_cons_self

/-! ## Evaluation, now and later -/

/-- Where nothing is refused but by the log, and that for one reason, a logic
has the value that it has elsewhere, or fails for this reason. -/
theorem value_later {p q : Policy} (hp : p.strict = false ∧ p.choosy = false) (hq : q.Quiet)
    (l : Logic) (context : Value) :
    EndsLike (fun f => p.logFault = some f ∧ ∃ r ∈ l.root.recorders, r.sink = .log)
      (l.value p context) (l.value q context) := by
  apply Logic.value_endsLike
  · intro e
    left
    simp [Policy.take, hp.2, hq.choosy]
  · intro r hr e
    rw [Policy.take_of_quiet hq]
    cases hsink : r.sink with
    | named name =>
      left
      simp [Policy.take, hp.2]
    | log =>
      cases hfault : p.logFault with
      | none =>
        left
        simp [Policy.take, hfault, hp.1]
      | some f =>
        right
        exact ⟨f, ⟨rfl, r, hr, hsink⟩, by simp [Policy.take, hfault]⟩

/-- A logic is fixed when it is built. Whatever commands follow that build no
other logic under its name, it stays the same and evaluates as at first. There
is one exception: a logic with debug operations that record in the log fails
if debug mode cannot be told any more, as the settings were dropped and the
variables are at fault since. -/
theorem logics_are_fixed_while_debug_mode_is_known (s : Session) (hstrict : s.strict = false)
    (id : String) (base d : Value) (lookups : List (List String))
    (hbuilt : (s.step (.newLogic id [] base d)).1 = .built lookups) (commands : List Command)
    (hother : ∀ operations base' d', .newLogic id operations base' d' ∉ commands) (context : Value) :
    let built := (s.step (.newLogic id [] base d)).2
    let later := built.run commands
    ∃ l r, built.logic? id = some l ∧ later.logic? id = some l
      ∧ (built.step (.evalLogic id context)).1 = .ofOutcome r
      ∧ ((later.step (.evalLogic id context)).1 = .ofOutcome r
        ∨ ∃ f, (later.step (.evalLogic id context)).1 = .failed f
          ∧ later.debugMode.1 = .error f ∧ (∃ o ∈ l.root.recorders, o.sink = .log)
          ∧ later.debug = none ∧ later.settings = none
          ∧ later.asked.mapError .setting = .error f) := by
  intro built later
  obtain ⟨⟨l, hl, hsettled⟩, ⟨on, hmode⟩, hstays⟩ := newLogic_built hbuilt
  have hbuiltStrict : built.strict = false := hstays.trans hstrict
  have hlaterStrict : later.strict = false := (run_strict built commands).trans hbuiltStrict
  have hlater : later.logic? id = some l := (run_logic built hother).trans hl
  have hquiet := policy_quiet hbuiltStrict hmode
  refine ⟨l, l.value built.policy (context.boxed .context), hl, hlater, eval_reply hl hsettled context, ?_⟩
  rw [eval_reply hlater hsettled context]
  have hlenient : later.policy.strict = false ∧ later.policy.choosy = false := by
    simp [policy, hlaterStrict]
  rcases value_later hlenient hquiet l (context.boxed .context) with heq | ⟨f, ⟨hfault, hlogged⟩, hf⟩
  · rw [heq]
    exact .inl rfl
  · have herror : later.debugMode.1 = .error f := by
      simp only [policy] at hfault
      split at hfault
      · cases hfault
      · rename_i g hg
        rw [hg, Option.some.inj hfault]
    right
    rw [hf]
    exact ⟨f, rfl, herror, hlogged, debugMode_error herror⟩

/-- A session in which every record is taken. -/
def lenient : Session := { fresh .log with strict := false }

theorem lenient_builds :
    (lenient.step (.newLogic "l" [] .null (debugged (.bool true)))).1 = .built []
      ∧ ((lenient.step (.newLogic "l" [] .null (debugged (.bool true)))).2.step
          (.evalLogic "l" (.object []))).1 = .value (.bool true) := by
  have haround : (⟨lenient.consult.1.map fun c => c.logic, lenient.sink⟩ : Surroundings)
      = Logic.ordinary := rfl
  have hbase : Value.null.boxed .base = .null := rfl
  have hdefinition : (debugged (.bool true)).boxed .definition = debugged (.bool true) := rfl
  simp only [step, newLogic, build, haround, hbase, hdefinition, Logic.build_debugged_bool]
  exact ⟨rfl, rfl⟩

/-- With debug mode switched on, variables do not matter. -/
theorem debugged_logic_stays_in_debug_mode :
    ∃ r, ((lenient.step (.newLogic "l" [] .null (debugged (.bool true)))).2.step
          (.evalLogic "l" (.object []))).1 = .ofOutcome r
      ∧ (((lenient.step (.newLogic "l" [] .null (debugged (.bool true)))).2.run
            [.setVariables [("LOG_LEVEL", some "LOUD")], .reset, .setDebug true]).step
          (.evalLogic "l" (.object []))).1 = .ofOutcome r := by
  obtain ⟨l, r, -, -, hfirst, hlater⟩ := logics_are_fixed_while_debug_mode_is_known lenient rfl "l"
    .null (debugged (.bool true)) [] lenient_builds.1
    [.setVariables [("LOG_LEVEL", some "LOUD")], .reset, .setDebug true] (by simp) (.object [])
  rcases hlater with hsame | ⟨f, -, -, -, hdebug, -⟩
  · exact ⟨r, hfirst, hsame⟩
  · cases hdebug

/-- Once the settings are dropped and the variables are at fault, a logic that
records in the log fails. -/
theorem debugged_logic_fails_after_a_reset :
    (lenient.step (.newLogic "l" [] .null (debugged (.bool true)))).1 = .built []
      ∧ ((lenient.step (.newLogic "l" [] .null (debugged (.bool true)))).2.step
          (.evalLogic "l" (.object []))).1 = .value (.bool true)
      ∧ (((lenient.step (.newLogic "l" [] .null (debugged (.bool true)))).2.run
            [.setVariables [("LOG_LEVEL", some "LOUD")], .reset]).step
          (.evalLogic "l" (.object []))).1 = .failed (.setting (.level "LOUD")) := by
  refine ⟨lenient_builds.1, lenient_builds.2, ?_⟩
  have haround : (⟨lenient.consult.1.map fun c => c.logic, lenient.sink⟩ : Surroundings)
      = Logic.ordinary := rfl
  have hbase : Value.null.boxed .base = .null := rfl
  have hdefinition : (debugged (.bool true)).boxed .definition = debugged (.bool true) := rfl
  simp only [step, newLogic, build, haround, hbase, hdefinition, Logic.build_debugged_bool]
  rfl

end Session
end Rulebook
