-- Compilation without what only evaluation and logging need: a survey makes
-- the tree of a definition without recorders, and the paths it reports. A
-- compilation and a survey of one definition end alike.
import Rulebook.Logic
import Rulebook.Proofs.Blueprint

namespace Rulebook

open Node (Source)

/-! ## The steps of a compilation -/

namespace Build

@[simp] theorem outcome_note (n : Notice) (draft : Draft) : outcome (note n) draft = .ok () := rfl

@[simp] theorem after_note (n : Notice) (draft : Draft) :
    after (note n) draft = { draft with notices := n :: draft.notices } := rfl

@[simp] theorem outcome_consult (draft : Draft) : outcome consult draft = .ok () := rfl

@[simp] theorem after_consult (draft : Draft) :
    after consult draft = { draft with consulted := true } := rfl

end Build

/-- Induction over a compilation: it fails, or it meets an operation and treats
the definitions beneath, given how they are compiled. -/
theorem Compile.compile_induction {setup : Compile.Setup}
    {motive : Compile.Mode → Value → Build Node → Prop} (fault : ∀ mode d e, motive mode d (throw e))
    (operation : ∀ mode d name operand f compile, Compile.select setup.marker d = .ok (name, operand) →
      setup.registry.factory? name = some f → (∀ mode c, motive mode c (compile mode c)) →
      motive mode d (do
        Build.note (.compiling name.plain operand)
        Compile.ofFactory compile setup mode operand f)) (mode : Compile.Mode) (d : Value) :
    motive mode d (Compile.compile setup mode d) := by
  induction hd : d.size using Nat.strongRecOn generalizing d mode with
  | _ size ih =>
    rw [Compile.compile]
    cases hselect : Compile.select setup.marker d with
    | error e => exact fault mode d e
    | ok selected =>
      obtain ⟨name, operand⟩ := selected
      simp only [liftExcept_ok, pure_bind]
      cases hf : setup.registry.factory? name with
      | none => exact fault mode d _
      | some f =>
        refine operation mode d name operand f _ hselect hf fun mode c => ?_
        split
        · exact ih c.size (by omega) mode c rfl
        · exact fault mode c _

/-! ## Surveys -/

/-- The blueprint of an operand; debug has that of the operand alone. -/
def Factory.blueprint (setup : Compile.Setup) (operand : Value) : Factory → Except Fault Blueprint
  | .form plan => plan operand
  | .configuredPath => do
    let parent ← setup.parentKey
    Blueprint.path (.inherited parent) operand
  | .debug _ => .ok (Blueprint.bare operand)

/-- Of a regular operation every blueprint is regular. What it reads is allowed,
or it is a path with the configured parent key. -/
theorem Factory.Regular.blueprint {allowed : Source → Prop} {f : Factory} (hf : f.Regular allowed)
    {setup : Compile.Setup} {operand : Value} {b : Blueprint}
    (h : f.blueprint setup operand = .ok b) :
    ∃ own, (∀ s ∈ own, allowed s ∨ ∃ parent names, setup.parentKey = .ok parent
      ∧ s = .path names (.inherited parent)) ∧ b.Regular own := by
  cases f with
  | form plan =>
    obtain ⟨own, hown, hb⟩ := hf operand b h
    exact ⟨own, fun s hs => Or.inl (hown s hs), hb⟩
  | configuredPath =>
    obtain ⟨parent, hparent, hpath⟩ := bind_ok h
    obtain ⟨names, hb⟩ := Blueprint.path_regular hpath
    refine ⟨_, fun s hs => Or.inr ⟨parent, names, hparent, ?_⟩, hb⟩
    exact List.mem_singleton.mp hs
  | debug sink =>
    obtain rfl := Except.ok.inj h
    exact ⟨[], by simp, Blueprint.bare_regular operand⟩

/-- The configured parent key is all that a blueprint takes of the settings. -/
theorem Factory.blueprint_congr {setup setup' : Compile.Setup}
    (hparent : setup'.parentKey = setup.parentKey) (operand : Value) (f : Factory) :
    f.blueprint setup' operand = f.blueprint setup operand := by
  cases f with
  | configuredPath => simp only [blueprint, hparent]
  | _ => rfl

/-- An operation records its operand, or it is compiled from its blueprint. -/
theorem Compile.ofFactory_cases (f : Factory) :
    (∃ sink, f = .debug sink)
      ∨ (∀ sink, f ≠ .debug sink) ∧ ∀ compile setup mode operand,
        ofFactory compile setup mode operand f
          = (do ofBlueprint compile mode (← liftExcept (f.blueprint setup operand))) := by
  cases f with
  | form plan => exact Or.inr ⟨by simp, fun _ _ _ _ => rfl⟩
  | configuredPath =>
    refine Or.inr ⟨by simp, fun compile setup mode operand => ?_⟩
    simp only [ofFactory, Factory.blueprint]
    cases setup.parentKey with
    | error e => rfl
    | ok parent => rfl
  | debug sink => exact Or.inl ⟨sink, rfl⟩

/-- A compilation whose state is the paths reported so far, in order. -/
abbrev Survey := ExceptT Fault (StateM (List (List String)))

namespace Survey

def ofBlueprint (part : Value → Survey Node) (b : Blueprint) : Survey Node := do
  modify (· ++ b.lookups)
  return b.assemble (← b.parts.mapM part)

theorem ofBlueprint_bare (part : Value → Survey Node) (operand : Value) :
    ofBlueprint part (Blueprint.bare operand) = part operand := by
  have hmodify : (modify (fun paths => paths) : Survey Unit) = pure () := rfl
  simp [ofBlueprint, Blueprint.bare, hmodify]

end Survey

namespace Compile

/-- The blueprint of a definition. -/
def blueprint (setup : Setup) (d : Value) : Except Fault Blueprint := do
  let (name, operand) ← select setup.marker d
  match setup.registry.factory? name with
  | none => throw (.unknownOperation name d setup.registry.sortedNames)
  | some factory => factory.blueprint setup operand

def survey (setup : Setup) (d : Value) : Survey Node := do
  let b ← liftExcept (blueprint setup d)
  Survey.ofBlueprint (fun c => if _h : c.size < d.size then survey setup c else throw .endless) b
termination_by d.size

/-! ## Compilation keeps step with a survey -/

/-- The notices after some given ones tell of some paths. -/
def Tells (base : List Notice) (draft : Draft) (paths : List (List String)) : Prop :=
  ∃ notices, draft.notices = notices ++ base ∧ Logic.lookupsOf notices = paths

/-- Two compilations end alike, one of them without recorders. -/
abbrev SurveyedBy (base : List Notice) (x : Build Node) (y : Survey Node) : Prop :=
  InStep (Tells base) Eq (fun n m => n.erase = m) x y

variable {base : List Notice} {compile : Mode → Value → Build Node} {part : Value → Survey Node}

theorem tells_note {draft : Draft} {paths : List (List String)} (h : Tells base draft paths)
    (n : Notice) : Tells base (after (Build.note n) draft)
      (paths ++ match n with
        | .lookup p => [p]
        | _ => []) := by
  obtain ⟨notices, hn, hp⟩ := h
  refine ⟨n :: notices, by simp [Build.note, hn], ?_⟩
  cases n <;> simp [Logic.lookupsOf, ← hp]

theorem outcome_notes (ps : List (List String)) (draft : Draft) :
    outcome (ps.forM fun p => Build.note (.lookup p)) draft = .ok () := by
  induction ps generalizing draft with
  | nil => rfl
  | cons p ps ih =>
    rw [List.forM_eq_forM, List.forM_cons, outcome_bind]
    exact ih _

theorem tells_notes (ps : List (List String)) {draft : Draft} {paths : List (List String)}
    (h : Tells base draft paths) :
    Tells base (after (ps.forM fun p => Build.note (.lookup p)) draft) (paths ++ ps) := by
  induction ps generalizing draft paths with
  | nil => simpa using h
  | cons p ps ih =>
    have hrest := ih (tells_note h (.lookup p))
    rw [List.append_assoc] at hrest
    rw [List.forM_eq_forM, List.forM_cons, after_bind]
    exact hrest

/-- Recorders are not in a survey. -/
theorem recorded_surveyed {x : Build Node} {y : Survey Node} (r : Recorder) (d : Value)
    (h : SurveyedBy base x y) : SurveyedBy base (do return .recorded r d (← x)) y := by
  have hbind : SurveyedBy base (do return .recorded r d (← x)) (y >>= pure) :=
    h.bind fun n m hnm => InStep.pure (by simpa [Node.erase, Node.retrace] using hnm)
  rwa [bind_pure] at hbind

theorem beneath_surveyed {mode : Mode} (hmode : mode ≠ .replaced) {c : Value}
    (h : ∀ mode, mode ≠ .replaced → SurveyedBy base (compile mode c) (part c)) :
    SurveyedBy base (beneath compile mode c) (part c) := by
  cases mode with
  | plain => exact h .plain hmode
  | recorded r =>
    exact recorded_surveyed r c (h (.recorded r) hmode)
  | replaced => exact absurd rfl hmode

theorem ofBlueprint_surveyed {mode : Mode} (hmode : mode ≠ .replaced)
    (h : ∀ mode c, mode ≠ .replaced → SurveyedBy base (compile mode c) (part c)) {own : List Source}
    {b : Blueprint} (hb : b.Regular own) :
    SurveyedBy base (ofBlueprint compile mode b) (Survey.ofBlueprint part b) := by
  refine InStep.bind (V := Eq) (fun draft paths ht => ?_) fun _ _ _ => ?_
  · rw [outcome_notes, outcome_modify]
    exact ⟨rfl, tells_notes b.lookups ht⟩
  · have hparts : List.Forall₂ (fun c c' => SurveyedBy base (beneath compile mode c) (part c'))
        b.parts b.parts :=
      List.forall₂_same.mpr fun c _ => beneath_surveyed hmode fun mode hm => h mode c hm
    refine (InStep.mapM hparts).bind fun ns ms hns => InStep.pure ?_
    obtain rfl : ns.map Node.erase = ms := by
      rw [← List.forall₂_eq_eq_eq, List.forall₂_map_left_iff]
      exact hns
    exact hb.retrace _ ns

theorem ofDebug_surveyed {mode : Mode} (hmode : mode ≠ .replaced)
    (h : ∀ mode c, mode ≠ .replaced → SurveyedBy base (compile mode c) (part c)) (sink : Sink)
    (operand : Value) :
    SurveyedBy base (ofDebug compile mode sink operand)
      (Survey.ofBlueprint part (Blueprint.bare operand)) := by
  have hnumber (draft : Draft) (paths : List (List String)) (ht : Tells base draft paths) :
      ∃ r, outcome (Build.newRecorder sink) draft = .ok r
        ∧ Tells base (after (Build.newRecorder sink) draft) paths :=
    ⟨_, rfl, ht⟩
  rw [Survey.ofBlueprint_bare]
  refine InStep.skip hnumber fun r => ?_
  cases mode with
  | plain => exact beneath_surveyed (by simp) fun mode hm => h mode operand hm
  | recorded r' =>
    have hinner : SurveyedBy base (beneath compile (.recorded r') operand) (part operand) :=
      beneath_surveyed hmode fun mode hm => h mode operand hm
    exact recorded_surveyed r operand hinner
  | replaced => exact absurd rfl hmode

theorem ofFactory_surveyed {setup : Setup} {mode : Mode} (hmode : mode ≠ .replaced)
    (h : ∀ mode c, mode ≠ .replaced → SurveyedBy base (compile mode c) (part c))
    {allowed : Source → Prop} {f : Factory} (hf : f.Regular allowed) (operand : Value) :
    SurveyedBy base (ofFactory compile setup mode operand f)
      (do Survey.ofBlueprint part (← liftExcept (f.blueprint setup operand))) := by
  rcases ofFactory_cases f with ⟨sink, rfl⟩ | ⟨-, hplan⟩
  · simp only [ofFactory, Factory.blueprint, liftExcept_ok, pure_bind]
    exact ofDebug_surveyed hmode h _ operand
  · rw [hplan]
    cases hb : f.blueprint setup operand with
    | error e => exact InStep.throw rfl
    | ok b =>
      obtain ⟨own, -, hregular⟩ := hf.blueprint hb
      exact ofBlueprint_surveyed hmode h hregular

/-- A compilation ends like the survey of its definition: with the tree and
the paths of the survey, or with its fault after the same paths. -/
theorem compile_surveyed {setup : Setup} {allowed : Source → Prop}
    (hreg : setup.registry.All (Factory.Regular allowed)) {mode : Mode} (hmode : mode ≠ .replaced)
    (d : Value) : SurveyedBy base (Compile.compile setup mode d) (survey setup d) := by
  induction hd : d.size using Nat.strongRecOn generalizing d mode with
  | _ size ih =>
    rw [Compile.compile, survey, blueprint]
    cases select setup.marker d with
    | error e => exact InStep.throw rfl
    | ok selected =>
      obtain ⟨name, operand⟩ := selected
      simp only [liftExcept_ok, pure_bind, ok_bind]
      cases hf : setup.registry.factory? name with
      | none => exact InStep.throw rfl
      | some f =>
        have hnote (draft : Draft) (paths : List (List String)) (ht : Tells base draft paths) :
            ∃ u, outcome (Build.note (.compiling name.plain operand)) draft = .ok u
              ∧ Tells base (after (Build.note (.compiling name.plain operand)) draft) paths :=
          ⟨_, rfl, by simpa using tells_note ht (.compiling name.plain operand)⟩
        refine InStep.skip hnote fun _ => ?_
        refine ofFactory_surveyed hmode (fun mode c hm => ?_) (Registry.factory?_of_all hreg hf) operand
        -- a definition beneath is smaller, or both give up
        split
        · exact ih c.size (by omega) hm c rfl
        · exact InStep.throw rfl

/-! ## What a survey reports -/

section Reads

variable {setup : Setup} {allowed : Source → Prop}

theorem blueprint_regular (hreg : setup.registry.All (Factory.Regular allowed))
    (hpath : ∀ parent names, setup.parentKey = .ok parent → allowed (.path names (.inherited parent)))
    {d : Value} {b : Blueprint} (h : blueprint setup d = .ok b) :
    ∃ own, (∀ s ∈ own, allowed s) ∧ b.Regular own := by
  unfold blueprint at h
  cases hselect : select setup.marker d with
  | error e => rw [hselect] at h; cases h
  | ok selected =>
    obtain ⟨name, operand⟩ := selected
    simp only [hselect, ok_bind] at h
    cases hf : setup.registry.factory? name with
    | none => rw [hf] at h; cases h
    | some f =>
      simp only [hf] at h
      obtain ⟨own, hown, hb⟩ := (Registry.factory?_of_all hreg hf).blueprint h
      refine ⟨own, fun s hs => ?_, hb⟩
      rcases hown s hs with hallowed | ⟨parent, names, hparent, rfl⟩
      · exact hallowed
      · exact hpath parent names hparent

/-- A survey has reported the paths of its tree, and the tree reads only what
is allowed. -/
def Reads (allowed : Source → Prop) (x : Survey Node) : Prop :=
  ∀ paths n, outcome x paths = .ok n →
    after x paths = paths ++ n.paths ∧ ∀ s ∈ n.sources, allowed s

theorem mapM_reads {part : Value → Survey Node} {cs : List Value}
    (h : ∀ c ∈ cs, Reads allowed (part c)) {paths : List (List String)} {ns : List Node}
    (hns : outcome (cs.mapM part) paths = .ok ns) :
    ns.length = cs.length ∧ after (cs.mapM part) paths = paths ++ ns.flatMap Node.paths
      ∧ ∀ s ∈ ns.flatMap Node.sources, allowed s := by
  induction cs generalizing paths ns with
  | nil =>
    obtain rfl := Except.ok.inj hns
    simp
  | cons c cs ih =>
    rw [List.mapM_cons] at hns ⊢
    obtain ⟨m, hm, hrest, hafter⟩ := outcome_bind_ok hns
    obtain ⟨ms, hms, hpure, hafter'⟩ := outcome_bind_ok hrest
    obtain rfl := Except.ok.inj hpure
    obtain ⟨hpaths, hsources⟩ := h c (by simp) _ _ hm
    obtain ⟨hlen, hpaths', hsources'⟩ := ih (fun c' hc' => h c' (List.mem_cons_of_mem _ hc')) hms
    rw [hafter, hafter', after_pure, hpaths', hpaths, List.flatMap_cons, List.flatMap_cons]
    refine ⟨by simp [hlen], by simp, fun s hs => ?_⟩
    rcases List.mem_append.mp hs with hs | hs
    · exact hsources s hs
    · exact hsources' s hs

theorem ofBlueprint_reads {part : Value → Survey Node} {own : List Source} {b : Blueprint}
    (hown : ∀ s ∈ own, allowed s) (hb : b.Regular own)
    (h : ∀ c ∈ b.parts, Reads allowed (part c)) : Reads allowed (Survey.ofBlueprint part b) := by
  intro paths n hn
  obtain ⟨_, -, hrest, hafter⟩ := outcome_bind_ok hn
  obtain ⟨ns, hns, hpure, hafter'⟩ := outcome_bind_ok hrest
  obtain rfl := Except.ok.inj hpure
  obtain ⟨hlen, hpaths, hsources⟩ := mapM_reads h hns
  have hreads := hb.sources ns hlen
  refine ⟨?_, fun s hs => ?_⟩
  · have hflat : ns.flatMap Node.paths = (ns.flatMap Node.sources).filterMap Source.path? := by
      rw [List.filterMap_flatMap]
      rfl
    rw [Survey.ofBlueprint, hafter, hafter', after_pure, hpaths, after_modify, hb.lookups,
      Node.paths, hreads, List.filterMap_append, hflat, List.append_assoc]
  · rw [hreads] at hs
    rcases List.mem_append.mp hs with hs | hs
    · exact hown s hs
    · exact hsources s hs

theorem survey_reads (hreg : setup.registry.All (Factory.Regular allowed))
    (hpath : ∀ parent names, setup.parentKey = .ok parent → allowed (.path names (.inherited parent)))
    (d : Value) : Reads allowed (survey setup d) := by
  induction hd : d.size using Nat.strongRecOn generalizing d with
  | _ size ih =>
    rw [survey]
    cases hb : blueprint setup d with
    | error e =>
      intro paths n hn
      cases hn
    | ok b =>
      obtain ⟨own, hown, hregular⟩ := blueprint_regular hreg hpath hb
      refine ofBlueprint_reads hown hregular fun c _ => ?_
      split
      · exact ih c.size (by omega) c rfl
      · intro paths n hn
        cases hn

end Reads

end Compile
end Rulebook
