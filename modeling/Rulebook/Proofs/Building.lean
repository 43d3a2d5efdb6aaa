-- What is built from a definition. It does not depend on what was built
-- before, but for the numbers of recorders; its paths are those of its tree.
import Rulebook.LogicMap
import Rulebook.Proofs.Survey

namespace Rulebook

open Node (Source)

namespace Compile

/-! ## Compiling again -/

/-- Two modes record in the same sink, or do the same thing to definitions
beneath. -/
inductive Mode.Alike : Mode → Mode → Prop
  | plain : Alike .plain .plain
  | recorded {r r' : Recorder} (h : r.sink = r'.sink) : Alike (.recorded r) (.recorded r')
  | replaced : Alike .replaced .replaced

/-- Two compilations end alike from all drafts, but for the numbers of
recorders. -/
abbrev BuiltAlike (x y : Build Node) : Prop :=
  InStep (fun _ _ => True) Eq (fun n m => n.anonymous = m.anonymous) x y

section Again

variable {compile : Mode → Value → Build Node}

theorem recorded_alike {x y : Build Node} {r r' : Recorder} (hr : r.sink = r'.sink) (d : Value)
    (h : BuiltAlike x y) :
    BuiltAlike (do return .recorded r d (← x)) (do return .recorded r' d (← y)) := by
  refine h.bind fun n m hnm => InStep.pure ?_
  unfold Node.anonymous at hnm ⊢
  simp only [Node.retrace, hr, hnm]

theorem beneath_alike {mode mode' : Mode} (hmode : mode.Alike mode') {c : Value}
    (h : ∀ mode mode' : Mode, mode.Alike mode' → BuiltAlike (compile mode c) (compile mode' c)) :
    BuiltAlike (beneath compile mode c) (beneath compile mode' c) := by
  cases hmode with
  | plain => exact h .plain .plain .plain
  | recorded hr => exact recorded_alike hr c (h _ _ (.recorded hr))
  | replaced => exact fun _ _ _ => ⟨rfl, trivial⟩

theorem ofBlueprint_alike {mode mode' : Mode} (hmode : mode.Alike mode')
    (h : ∀ (mode mode' : Mode) (c : Value), mode.Alike mode' →
      BuiltAlike (compile mode c) (compile mode' c)) {own : List Source} {b : Blueprint}
    (hb : b.Regular own) :
    BuiltAlike (ofBlueprint compile mode b) (ofBlueprint compile mode' b) := by
  refine InStep.bind (V := Eq) (fun s t _ => ⟨?_, trivial⟩) fun _ _ _ => ?_
  · rw [outcome_notes, outcome_notes]
    exact rfl
  · have hparts : List.Forall₂
        (fun c c' => BuiltAlike (beneath compile mode c) (beneath compile mode' c')) b.parts b.parts :=
      List.forall₂_same.mpr fun c _ => beneath_alike hmode fun mode mode' hm => h mode mode' c hm
    refine (InStep.mapM hparts).bind fun ns ms hns => InStep.pure ?_
    have heq : ns.map Node.anonymous = ms.map Node.anonymous :=
      map_eq_of_forall₂ hns fun _ _ hnm => hnm
    calc (b.assemble ns).anonymous = b.assemble (ns.map Node.anonymous) := hb.retrace _ ns
      _ = b.assemble (ms.map Node.anonymous) := by rw [heq]
      _ = (b.assemble ms).anonymous := (hb.retrace _ ms).symm

theorem ofDebug_alike {mode mode' : Mode} (hmode : mode.Alike mode')
    (h : ∀ (mode mode' : Mode) (c : Value), mode.Alike mode' →
      BuiltAlike (compile mode c) (compile mode' c)) (sink : Sink) (operand : Value) :
    BuiltAlike (ofDebug compile mode sink operand) (ofDebug compile mode' sink operand) := by
  have hrecorder : InStep (fun _ _ => True) Eq (fun r r' => r.sink = r'.sink)
      (Build.newRecorder sink) (Build.newRecorder sink) := fun _ _ _ => ⟨rfl, trivial⟩
  refine hrecorder.bind fun r r' hr => ?_
  have hbeneath := beneath_alike hmode (c := operand) fun mode mode' hm => h mode mode' operand hm
  cases hmode with
  | plain => exact beneath_alike (.recorded hr) fun mode mode' hm => h mode mode' operand hm
  | recorded hr' => exact recorded_alike hr operand hbeneath
  | replaced => exact recorded_alike hr operand hbeneath

theorem ofFactory_alike {setup : Setup} {mode mode' : Mode} (hmode : mode.Alike mode')
    (h : ∀ (mode mode' : Mode) (c : Value), mode.Alike mode' →
      BuiltAlike (compile mode c) (compile mode' c)) {allowed : Source → Prop} {f : Factory}
    (hf : f.Regular allowed) (operand : Value) :
    BuiltAlike (ofFactory compile setup mode operand f) (ofFactory compile setup mode' operand f) := by
  rcases ofFactory_cases f with ⟨sink, rfl⟩ | ⟨-, hplan⟩
  · exact ofDebug_alike hmode h _ operand
  · rw [hplan, hplan]
    cases hb : f.blueprint setup operand with
    | error e => exact InStep.throw rfl
    | ok b =>
      obtain ⟨own, -, hregular⟩ := hf.blueprint hb
      exact ofBlueprint_alike hmode h hregular

/-- A definition compiled again gives the same tree, but for the numbers of
recorders, or the same fault. -/
theorem compile_alike {setup : Setup} {allowed : Source → Prop}
    (hreg : setup.registry.All (Factory.Regular allowed)) {mode mode' : Mode}
    (hmode : mode.Alike mode') (d : Value) :
    BuiltAlike (Compile.compile setup mode d) (Compile.compile setup mode' d) := by
  induction hd : d.size using Nat.strongRecOn generalizing d mode mode' with
  | _ size ih =>
    rw [Compile.compile, Compile.compile]
    cases select setup.marker d with
    | error e => exact InStep.throw rfl
    | ok selected =>
      obtain ⟨name, operand⟩ := selected
      simp only [liftExcept_ok, pure_bind]
      cases hf : setup.registry.factory? name with
      | none => exact InStep.throw rfl
      | some f =>
        have hnote : InStep (fun _ _ => True) Eq Eq (Build.note (.compiling name.plain operand))
            (Build.note (.compiling name.plain operand)) := fun _ _ _ => ⟨rfl, trivial⟩
        refine hnote.bind fun _ _ _ => ?_
        refine ofFactory_alike hmode (fun mode mode' c hm => ?_) (Registry.factory?_of_all hreg hf)
          operand
        split
        · exact ih c.size (by omega) hm c rfl
        · exact InStep.throw rfl

end Again
end Compile

/-! ## Logics -/

namespace Logic

/-- How definitions are compiled under some settings. -/
def setup (around : Surroundings) (registry : Registry) (settings : LogicSettings) : Compile.Setup :=
  ⟨registry, settings.marker, .ok settings.parentKey, around.sink⟩

/-- The logic with its recorders told apart by nothing but their sinks. -/
def anonymous (l : Logic) : Logic := { l with root := l.root.anonymous }

section Build

variable {around : Surroundings} {ops : List (String × Entry)} {base d : Value} {fields : Fields}
  {registry : Registry} {settings : LogicSettings} {allowed : Source → Prop}

/-- What is compiled and kept once everything around is in order. -/
theorem build_eq (hbase : Entries.ofValue base = .ok fields)
    (hops : Registry.standard.merged ops = .ok registry) (hset : around.settings = .ok settings) :
    build around ops base d = (do
      Build.consult
      let before := (← get).notices.length
      let root ← Compile.compile (setup around registry settings) .plain d
      let notices := (← get).notices
      return ⟨d, fields, lookupsOf (notices.take (notices.length - before)), root⟩) := by
  unfold build
  rw [hbase, hops, hset]
  rfl

/-- A logic is built like the survey of its definition, once everything
around it is in order, and so are the paths reported on the way. -/
theorem build_surveyed (hbase : Entries.ofValue base = .ok fields)
    (hops : Registry.standard.merged ops = .ok registry) (hset : around.settings = .ok settings)
    (hreg : registry.All (Factory.Regular allowed)) (draft : Draft) :
    Related Eq
        (fun l n => l.definition = d ∧ l.base = fields
          ∧ l.lookups = after (Compile.survey (setup around registry settings) d) [] ∧ l.root.erase = n)
        (outcome (build around ops base d) draft)
        (outcome (Compile.survey (setup around registry settings) d) [])
      ∧ Compile.Tells draft.notices (after (build around ops base d) draft)
          (after (Compile.survey (setup around registry settings) d) []) := by
  have hcompile : Compile.SurveyedBy draft.notices
      (Compile.compile (setup around registry settings) .plain d)
      (Compile.survey (setup around registry settings) d) :=
    Compile.compile_surveyed hreg (by simp) d
  obtain ⟨ho, notices, hn, hl⟩ := hcompile (after Build.consult draft) [] ⟨[], rfl, rfl⟩
  rw [build_eq hbase hops hset]
  generalize Compile.compile (setup around registry settings) .plain d = x at *
  rw [Build.after_consult] at ho hn
  simp only [outcome_bind, after_bind, Build.outcome_consult, Build.after_consult, outcome_get,
    after_get]
  cases hx : outcome x { draft with consulted := true } with
  | error e =>
    rw [hx] at ho
    refine ⟨?_, notices, hn, hl⟩
    cases hs : outcome (Compile.survey (setup around registry settings) d) [] <;> rw [hs] at ho
    · exact ho
    · exact ho
  | ok root =>
    rw [hx] at ho
    refine ⟨?_, notices, hn, hl⟩
    cases hs : outcome (Compile.survey (setup around registry settings) d) [] <;> rw [hs] at ho
    · exact ho
    · refine ⟨rfl, rfl, ?_, ho⟩
      simp [hn, hl]

/-- Nothing is built unless everything around is in order. -/
theorem build_ok {draft : Draft} {l : Logic} (h : outcome (build around ops base d) draft = .ok l) :
    ∃ fields registry settings, Entries.ofValue base = .ok fields
      ∧ Registry.standard.merged ops = .ok registry ∧ around.settings = .ok settings := by
  unfold build at h
  cases hbase : Entries.ofValue base with
  | error e => rw [hbase] at h; cases h
  | ok fields =>
    cases hops : Registry.standard.merged ops with
    | error e => rw [hbase, hops] at h; cases h
    | ok registry =>
      cases hset : around.settings with
      | error e => rw [hbase, hops, hset] at h; cases h
      | ok settings => exact ⟨fields, registry, settings, rfl, rfl, rfl⟩

/-- The parts of a logic are what it was built from. -/
theorem build_parts (hbase : Entries.ofValue base = .ok fields)
    (hops : Registry.standard.merged ops = .ok registry) (hset : around.settings = .ok settings)
    {draft : Draft} {l : Logic} (h : outcome (build around ops base d) draft = .ok l) :
    l.definition = d ∧ l.base = fields
      ∧ outcome (Compile.compile (setup around registry settings) .plain d) (after Build.consult draft)
        = .ok l.root := by
  rw [build_eq hbase hops hset] at h
  obtain ⟨_, -, h, -⟩ := outcome_bind_ok h
  obtain ⟨_, -, h, -⟩ := outcome_bind_ok h
  obtain ⟨root, hroot, h, -⟩ := outcome_bind_ok h
  obtain ⟨_, -, h, -⟩ := outcome_bind_ok h
  obtain rfl := Except.ok.inj h
  exact ⟨rfl, rfl, hroot⟩

/-- The paths of a logic are those of its tree, in order, and its tree reads
nothing but what is allowed. -/
theorem build_reads (hbring : ∀ e ∈ ops, e.2.Brings (Factory.Regular allowed))
    (hset : around.settings = .ok settings)
    (hpath : ∀ names, allowed (.path names (.inherited settings.parentKey))) {draft : Draft}
    {l : Logic} (h : outcome (build around ops base d) draft = .ok l) :
    l.lookups = l.root.paths ∧ ∀ s ∈ l.root.sources, allowed s := by
  obtain ⟨fields, registry, _, hbase, hops, -⟩ := build_ok h
  have hreg : registry.All (Factory.Regular allowed) :=
    Registry.merged_all hops (Registry.standard_all allowed) hbring
  obtain ⟨n, hn, -, -, hlookups, rfl⟩ :=
    (build_surveyed (d := d) hbase hops hset hreg draft).1.exists_ok h
  have hkey (parent : String) (names : List String)
      (hp : (setup around registry settings).parentKey = .ok parent) :
      allowed (.path names (.inherited parent)) := by
    obtain rfl := Except.ok.inj hp
    exact hpath names
  obtain ⟨hpaths, hsources⟩ := Compile.survey_reads hreg hkey d [] _ hn
  rw [Node.sources_erase] at hsources
  refine ⟨?_, hsources⟩
  rw [hlookups, hpaths, Node.paths, Node.sources_erase]
  rfl

/-- Definitions with the same survey are built alike, but for recorders. -/
theorem build_congr (hbring : ∀ e ∈ ops, e.2.Brings (Factory.Regular allowed)) (base : Value)
    {d d' : Value} (h : ∀ registry settings, Registry.standard.merged ops = .ok registry →
      Compile.survey (setup around registry settings) d = Compile.survey (setup around registry settings) d')
    (draft draft' : Draft) :
    Related Eq (fun l l' => l.base = l'.base ∧ l.lookups = l'.lookups ∧ l.root.erase = l'.root.erase)
      (outcome (build around ops base d) draft) (outcome (build around ops base d') draft') := by
  cases hbase : Entries.ofValue base with
  | error e => simp [build, hbase, Related]
  | ok fields =>
    cases hops : Registry.standard.merged ops with
    | error e => simp [build, hbase, hops, Related]
    | ok registry =>
      cases hset : around.settings with
      | error e => simp [build, hbase, hops, hset, outcome_bind, Related, Build.consult]
      | ok settings =>
        have hreg : registry.All (Factory.Regular allowed) :=
          Registry.merged_all hops (Registry.standard_all allowed) hbring
        have hd := (build_surveyed (d := d) hbase hops hset hreg draft).1
        have hd' := (build_surveyed (d := d') hbase hops hset hreg draft').1
        rw [← h registry settings hops] at hd'
        refine (hd.join hd').imp fun l l' _ _ hjoined => ?_
        obtain ⟨n, ⟨-, hfields, hlookups, hroot⟩, -, hfields', hlookups', hroot'⟩ := hjoined
        exact ⟨hfields.trans hfields'.symm, hlookups.trans hlookups'.symm, hroot.trans hroot'.symm⟩

/-- A logic built again is the same but for the numbers of its recorders. -/
theorem build_alike (hbring : ∀ e ∈ ops, e.2.Brings (Factory.Regular allowed)) (base d : Value) :
    InStep (fun _ _ => True) Eq (fun l m => l.anonymous = m.anonymous) (build around ops base d)
      (build around ops base d) := by
  intro s t _
  refine ⟨?_, trivial⟩
  have hbuilt : Related Eq _ (outcome (build around ops base d) s) (outcome (build around ops base d) t) :=
    build_congr hbring base (fun _ _ _ => rfl) s t
  refine hbuilt.imp fun l m hl hm h => ?_
  obtain ⟨hbase, hlookups, -⟩ := h
  obtain ⟨fields, registry, settings, hfields, hops, hset⟩ := build_ok hl
  have hreg : registry.All (Factory.Regular allowed) :=
    Registry.merged_all hops (Registry.standard_all allowed) hbring
  have hcompile : Compile.BuiltAlike (Compile.compile (setup around registry settings) .plain d)
      (Compile.compile (setup around registry settings) .plain d) :=
    Compile.compile_alike hreg .plain d
  obtain ⟨hld, -, hlroot⟩ := build_parts hfields hops hset hl
  obtain ⟨hmd, -, hmroot⟩ := build_parts hfields hops hset hm
  have hroots := (hcompile (after Build.consult s) (after Build.consult t) trivial).1
  rw [hlroot, hmroot] at hroots
  have hanonymous : l.root.anonymous = m.root.anonymous := hroots
  simp only [anonymous, hld, hmd, hbase, hlookups, hanonymous]

/-- With standard operations alone nothing calculates. -/
theorem build_settled (around : Surroundings) (base d : Value) :
    Ensures (fun l => .count ∉ l.root.sources) (build around [] base d) := by
  intro draft l h
  obtain ⟨_, _, settings, -, -, hset⟩ := build_ok h
  have hreads : l.lookups = l.root.paths ∧ ∀ s ∈ l.root.sources, s ≠ .count :=
    build_reads (by simp) hset (by simp) h
  exact fun hc => hreads.2 _ hc rfl

/-- The default settings, with records in the log. -/
def ordinary : Surroundings := ⟨.ok ⟨false, Settings.defaultParentKey, Settings.defaultMarker⟩, .log⟩

/-- A number is compiled to itself. -/
theorem compile_int (marker : String) (parent : Except Fault String) (sink : Sink) (n : Boxed Int) :
    Compile.compile ⟨Registry.standard, marker, parent, sink⟩ .plain (.int n) = (do
      Build.note (.compiling Operation.literalName (.int n))
      return .literal (.int n)) := by
  have hliteral : Registry.standard.factory? (.text Operation.literalName)
      = some (.form Blueprint.literal) := rfl
  rw [Compile.compile]
  simp [Compile.select, hliteral, Compile.ofFactory, Compile.ofBlueprint, Blueprint.literal,
    Blueprint.payloads, Blueprint.quote, Key.plain]

/-- A text with a path is compiled to that path. -/
theorem compile_reading {s : String} (path : String) (h : s.toList = '$' :: path.toList)
    (marker parent : String) (sink : Sink) (mode : Compile.Mode) :
    Compile.compile ⟨Registry.standard, marker, .ok parent, sink⟩ mode (.text s) = (do
      Build.note (.compiling Operation.pathName (.text path))
      Build.note (.lookup (Text.dotted path))
      return .path (Text.dotted path) (.inherited parent)) := by
  have hselect : Compile.select marker (.text s) = .ok (.text Operation.pathName, .text path) := by
    simp only [Compile.select, Compile.selectText, h, String.ofList_toList]
  have hpath : Registry.standard.factory? (.text Operation.pathName) = some .configuredPath := rfl
  rw [Compile.compile]
  simp [hselect, hpath, Compile.ofFactory, Compile.ofBlueprint, Blueprint.path, Key.plain]

/-- So is a logic of such a text. -/
theorem build_path (hbase : Entries.ofValue base = .ok fields) (hset : around.settings = .ok settings)
    {s : String} (path : String) (h : s.toList = '$' :: path.toList) (draft : Draft) :
    outcome (build around [] base (.text s)) draft
      = .ok ⟨.text s, fields, [Text.dotted path],
          .path (Text.dotted path) (.inherited settings.parentKey)⟩ := by
  have htwo : draft.notices.length + 1 + 1 - draft.notices.length = 2 := by omega
  rw [build_eq hbase rfl hset, setup, compile_reading path h]
  simp [outcome_bind, lookupsOf, Except.map, htwo]

theorem build_int (n : Boxed Int) (draft : Draft) :
    outcome (build ordinary [] .null (.int n)) draft = .ok ⟨.int n, [], [], .literal (.int n)⟩ := by
  have hbase : Entries.ofValue .null = .ok [] := rfl
  rw [build_eq hbase rfl rfl, setup, compile_int]
  simp [outcome_bind, lookupsOf, Except.map]

end Build
end Logic
end Rulebook
