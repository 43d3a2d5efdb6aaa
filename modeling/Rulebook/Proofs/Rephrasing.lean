-- A logic map in other words. A mapping of expressions is the object operation
-- on it, and a conditional layer is an if operation whose other branch adds
-- nothing: both are built alike, report the same paths, and evaluate alike.
import Rulebook.Proofs.Grammar
import Rulebook.Proofs.LogicMaps

namespace Rulebook

/-! ## What a compilation takes from a draft -/

namespace Compile

/-- Two drafts have given out as many recorders. -/
def SameCount (s t : Draft) : Prop := s.recorders = t.recorders

theorem sameCount_equivalence : Equivalence SameCount :=
  ⟨fun _ => rfl, fun h => h.symm, fun h h' => h.trans h'⟩

/-- From drafts with the same count a computation ends in one way. -/
abbrev Steady {α : Type} (x : Build α) : Prop := InStep SameCount Eq Eq x x

section Steady

variable {compile : Mode → Value → Build Node}

theorem steady_note (n : Notice) : Steady (Build.note n) := fun _ _ h => ⟨rfl, h⟩

theorem steady_notes (ps : List (List String)) :
    Steady (ps.forM fun p => Build.note (.lookup p)) := by
  induction ps with
  | nil => exact InStep.pure rfl
  | cons p ps ih => exact (steady_note (.lookup p)).bind_eq fun _ => ih

theorem steady_newRecorder (sink : Sink) : Steady (Build.newRecorder sink) := by
  intro s t h
  have hcount : s.recorders = t.recorders := h
  have hs : outcome (Build.newRecorder sink) s = .ok ⟨s.recorders, sink⟩ := rfl
  have ht : outcome (Build.newRecorder sink) t = .ok ⟨t.recorders, sink⟩ := rfl
  refine ⟨?_, congrArg (· + 1) hcount⟩
  rw [hs, ht, hcount]
  exact rfl

theorem beneath_steady (h : ∀ mode c, Steady (compile mode c)) (mode : Mode) (c : Value) :
    Steady (beneath compile mode c) := by
  cases mode with
  | plain => exact h .plain c
  | recorded r => exact (h (.recorded r) c).bind_eq fun n => InStep.pure rfl
  | replaced => exact (steady_note (.child c)).bind_eq fun _ => InStep.pure rfl

theorem ofBlueprint_steady (h : ∀ mode c, Steady (compile mode c)) (mode : Mode) (b : Blueprint) :
    Steady (ofBlueprint compile mode b) := by
  refine (steady_notes b.lookups).bind_eq fun _ => ?_
  refine (InStep.mapM_eq fun c _ => beneath_steady h mode c).bind_eq fun ns => ?_
  exact InStep.pure rfl

theorem ofFactory_steady (h : ∀ mode c, Steady (compile mode c)) (setup : Setup) (mode : Mode)
    (operand : Value) (f : Factory) : Steady (ofFactory compile setup mode operand f) := by
  rcases ofFactory_cases f with ⟨sink, rfl⟩ | ⟨-, hplan⟩
  · refine (steady_newRecorder (sink.getD setup.sink)).bind_eq fun r => ?_
    cases mode with
    | plain => exact beneath_steady h (.recorded r) operand
    | recorded r' => exact (beneath_steady h (.recorded r') operand).bind_eq fun n => InStep.pure rfl
    | replaced => exact (beneath_steady h .replaced operand).bind_eq fun n => InStep.pure rfl
  · rw [hplan]
    refine (InStep.lift_eq (f.blueprint setup operand)).bind_eq fun b => ?_
    exact ofBlueprint_steady h mode b

/-- A compilation takes nothing from a draft but the number of its next
recorder. -/
theorem compile_steady (setup : Setup) (mode : Mode) (d : Value) :
    Steady (Compile.compile setup mode d) := by
  refine compile_induction (motive := fun _ _ x => Steady x) (fun _ _ e => InStep.throw rfl) ?_ mode d
  intro mode d name operand f compile _ _ hcompile
  refine (steady_note (.compiling name.plain operand)).bind_eq fun _ => ?_
  exact ofFactory_steady hcompile setup mode operand f

end Steady

/-! ## Operations in their long form -/

/-- An operation with its operand. -/
def longForm (name : String) (operand : Value) : Value := .object [(.text name, operand)]

theorem size_lt_longForm {name : String} {v operand : Value} (h : v.size ≤ operand.size) :
    v.size < (longForm name operand).size :=
  Nat.lt_of_le_of_lt h (Value.size_lt_object (e := (.text name, operand)) (List.mem_singleton.mpr rfl))

/-- A mapping as an expression. -/
def objectForm (fs : Fields) : Value := longForm "object" (.object fs)

/-- An expression that adds nothing where a condition is false. -/
def conditionally (c d : Value) : Value := longForm "if" (.list [c, d, objectForm []])

section Forms

variable {setup : Setup}

/-- A plain operation is the node of its blueprint, over the nodes of its
parts. -/
theorem compile_selected {d operand : Value} {name : Key} {plan : Value → Except Fault Blueprint}
    {b : Blueprint} (hselect : select setup.marker d = .ok (name, operand))
    (hf : setup.registry.factory? name = some (.form plan)) (hplan : plan operand = .ok b)
    (hlookups : b.lookups = []) (hsize : ∀ c ∈ b.parts, c.size < d.size) :
    InStep SameCount Eq Eq (Compile.compile setup .plain d)
      (do return b.assemble (← b.parts.mapM (Compile.compile setup .plain))) := by
  have hnote (s t : Draft) (h : SameCount s t) :
      ∃ u, outcome (Build.note (.compiling name.plain operand)) s = .ok u
        ∧ SameCount (after (Build.note (.compiling name.plain operand)) s) t :=
    ⟨(), rfl, h⟩
  have hbeneath : ∀ c ∈ b.parts,
      beneath (fun m c => if _h : c.size < d.size then Compile.compile setup m c else throw .endless)
          .plain c
        = Compile.compile setup .plain c := by
    intro c hc
    simp only [beneath, dif_pos (hsize c hc)]
  rw [Compile.compile, hselect]
  simp only [liftExcept_ok, pure_bind, hf]
  refine InStep.skip hnote fun _ => ?_
  simp only [ofFactory, hplan, liftExcept_ok, pure_bind, ofBlueprint, hlookups, mapM_congr hbeneath]
  refine InStep.bind_eq (InStep.mapM_eq fun c _ => compile_steady setup .plain c) fun ns => ?_
  exact InStep.pure rfl

theorem compile_object (hreg : setup.registry = Registry.standard) (fs : Fields) :
    InStep SameCount Eq Eq (Compile.compile setup .plain (objectForm fs))
      (do return .object (← fs.mapM fun e => do
        return (e.1, ← Compile.compile setup .plain e.2))) := by
  have hfactory : setup.registry.factory? (.text "object") = some (.form Blueprint.object) := by
    rw [hreg]
    rfl
  have hsize : ∀ c ∈ fs.map Prod.snd, c.size < (objectForm fs).size := by
    intro c hc
    obtain ⟨e, he, rfl⟩ := List.mem_map.mp hc
    have hfields := Value.size_lt_object he
    simp only [objectForm, longForm, Value.size, Value.sizeFields] at hfields ⊢
    omega
  have hselect : select setup.marker (objectForm fs) = .ok (.text "object", .object fs) := rfl
  have hcompile := compile_selected hselect hfactory rfl rfl hsize
  simp only [List.mapM_map] at hcompile
  simp only [mapM_pair, bind_assoc, pure_bind]
  exact hcompile

theorem compile_conditionally (hreg : setup.registry = Registry.standard) (c d : Value) :
    InStep SameCount Eq Eq (Compile.compile setup .plain (conditionally c d))
      (do
        let n ← Compile.compile setup .plain c
        let m ← Compile.compile setup .plain d
        return Node.branch n m (.object [])) := by
  have hfactory : setup.registry.factory? (.text "if") = some (.form Blueprint.branch) := by
    rw [hreg]
    rfl
  have hsize : ∀ x ∈ [c, d, objectForm []], x.size < (conditionally c d).size := by
    intro x hx
    have hitem := Value.size_lt_list hx
    simp only [conditionally, longForm, Value.size, Value.sizeFields] at hitem ⊢
    omega
  have hselect : select setup.marker (conditionally c d)
      = .ok (.text "if", .list [c, d, objectForm []]) := rfl
  have hcompile := compile_selected hselect hfactory rfl rfl hsize
  simp only [List.mapM_cons, List.mapM_nil, bind_assoc, pure_bind] at hcompile
  -- the branch for a false condition is the node of no entries
  have hempty : InStep SameCount Eq Eq (Compile.compile setup .plain (objectForm []))
      (pure (.object [])) := compile_object hreg []
  have hparts : InStep SameCount Eq Eq
      (do
        let n ← Compile.compile setup .plain c
        let m ← Compile.compile setup .plain d
        let o ← Compile.compile setup .plain (objectForm [])
        return Node.branch n m o)
      (do
        let n ← Compile.compile setup .plain c
        let m ← Compile.compile setup .plain d
        return Node.branch n m (.object [])) := by
    refine (compile_steady setup .plain c).bind_eq fun n => ?_
    refine (compile_steady setup .plain d).bind_eq fun m => ?_
    exact hempty.bind_eq fun o => InStep.pure rfl
  exact hcompile.trans sameCount_equivalence hparts

end Forms

end Compile

/-! ## Logics and maps that say the same as a node -/

namespace Logic

/-- Everything around a definition is in order. -/
def Ready (around : Surroundings) (base : Value) : Prop :=
  ∃ fields settings, Entries.ofValue base = .ok fields ∧ around.settings = .ok settings

/-- The parts of a logic, from a base context and a compiled tree. -/
structure Holds (d : Value) (fields : Fields) (l : Logic) (n : Node) : Prop where
  definition : l.definition = d
  base : l.base = fields
  lookups : l.lookups = n.paths
  root : l.root = n

theorem Holds.eval {d : Value} {fields : Fields} {l : Logic} {n : Node} (h : l.Holds d fields n)
    (c : Fields) : l.eval (.object c) = n.eval (Mapping.overlay fields c) := by
  simp only [Logic.eval, h.root, h.base]

section Build

variable {around : Surroundings} {base : Value} {fields : Fields} {settings : LogicSettings}

/-- Once everything around is in order, a logic is built as its definition is
compiled. -/
theorem build_compiles (hbase : Entries.ofValue base = .ok fields)
    (hset : around.settings = .ok settings) (d : Value) :
    InStep Compile.SameCount Eq (Holds d fields) (build around [] base d)
      (Compile.compile (setup around Registry.standard settings) .plain d) := by
  have hnone : ∀ e ∈ ([] : List (String × Entry)), e.2.Brings (Factory.Regular fun _ => True) := by
    simp
  have hpaths : Ensures (fun l => l.lookups = l.root.paths) (build around [] base d) :=
    fun draft l hl => (build_reads hnone hset (fun _ => trivial) hl).1
  have hparts : InStep Compile.SameCount Eq
      (fun l n => l.definition = d ∧ l.base = fields ∧ l.root = n) (build around [] base d)
      (Compile.compile (setup around Registry.standard settings) .plain d) := by
    rw [build_eq hbase rfl hset]
    refine InStep.skip (fun s t h => ⟨(), rfl, h⟩) fun _ => ?_
    refine InStep.skip (fun s t h => ⟨s, rfl, h⟩) fun before => ?_
    rw [← bind_pure (Compile.compile _ .plain d)]
    simp only [bind_assoc, pure_bind]
    refine (Compile.compile_steady _ .plain d).bind fun n m hnm => ?_
    refine InStep.skip (fun s t h => ⟨s, rfl, h⟩) fun afterwards => ?_
    exact InStep.pure ⟨rfl, rfl, hnm⟩
  refine (hparts.ensures hpaths).mono fun l n h => ?_
  obtain ⟨⟨hdefinition, hfields, hroot⟩, hlookups⟩ := h
  exact ⟨hdefinition, hfields, by rw [hlookups, hroot], hroot⟩

/-- Else no definition is built, and all fail alike. -/
theorem build_unready (h : ¬ Ready around base) {α β : Type} {V : α → β → Prop} (d d' : Value)
    (f : Logic → Build α) (g : Logic → Build β) :
    InStep Compile.SameCount Eq V (build around [] base d >>= f) (build around [] base d' >>= g) := by
  intro s t hs
  cases hbase : Entries.ofValue base with
  | error e =>
    simp only [build, hbase, liftExcept_error]
    exact ⟨rfl, hs⟩
  | ok fields =>
    cases hset : around.settings with
    | error e =>
      simp only [build, hbase, hset, liftExcept_error, liftExcept_ok, pure_bind]
      exact ⟨rfl, hs⟩
    | ok settings => exact absurd ⟨fields, settings, hbase, hset⟩ h

/-- What is built depends on a draft by nothing but the number of its next
recorder. -/
theorem build_steady (around : Surroundings) (base d : Value) :
    Compile.Steady (build around [] base d) := by
  by_cases hready : Ready around base
  · obtain ⟨fields, settings, hbase, hset⟩ := hready
    have hcompiles := build_compiles hbase hset d
    refine (hcompiles.join Compile.sameCount_equivalence hcompiles).mono fun l m h => ?_
    obtain ⟨n, ⟨hdl, hbl, hll, hrl⟩, ⟨hdm, hbm, hlm, hrm⟩⟩ := h
    cases l
    cases m
    simp_all
  · have hfails : InStep Compile.SameCount Eq Eq (build around [] base d >>= pure)
        (build around [] base d >>= pure) := build_unready hready d d pure pure
    rwa [bind_pure] at hfails

end Build
end Logic

namespace LogicMap

/-! ## Building again from a draft with the same count -/

section Steady

variable {compile : Value → Build Logic}

theorem ofFields_steady (h : ∀ d, Compile.Steady (compile d)) (fs : Fields) :
    Compile.Steady (ofFields compile fs) := by
  unfold ofFields
  split
  · exact (h _).bind_eq fun l => InStep.pure rfl
  · rw [buildEntries_eq]
    refine InStep.bind_eq (InStep.mapM_eq fun e _ => ?_) fun es => InStep.pure rfl
    exact (h e.2).bind_eq fun l => InStep.pure rfl

theorem buildLayer_steady (h : ∀ d, Compile.Steady (compile d)) {x : Value}
    (hx : Compile.Steady (build compile x)) : Compile.Steady (buildLayer compile x) := by
  unfold buildLayer
  split
  · rename_i fs
    have hcondition : Compile.Steady (buildCondition compile fs) := by
      unfold buildCondition
      split
      · simp only [map_eq_pure_bind]
        exact (h _).bind_eq fun l => InStep.pure rfl
      · exact InStep.pure rfl
    refine hcondition.bind_eq fun c => ?_
    exact (ofFields_steady h _).bind_eq fun m => InStep.pure rfl
  · exact hx.bind_eq fun m => InStep.pure rfl

theorem build_steady (h : ∀ d, Compile.Steady (compile d)) (d : Value) :
    Compile.Steady (build compile d) := by
  induction d with
  | null => exact InStep.pure rfl
  | text s => exact (h (.text s)).bind_eq fun l => InStep.pure rfl
  | list xs ih =>
    simp only [build, buildLayers_eq]
    refine InStep.bind_eq (InStep.mapM_eq fun x hx => ?_) fun ls => InStep.pure rfl
    exact buildLayer_steady h (ih x hx)
  | object fs _ => exact ofFields_steady h fs
  | _ => exact InStep.throw rfl

end Steady

/-! ## Mappings of expressions -/

/-- The expression that a mapping stands for. -/
def expressionOf (fs : Fields) : Value :=
  match Mapping.get? Blueprint.logicKey fs with
  | some d => d
  | none => Compile.objectForm fs

/-- A map reads the paths of a node, and evaluates as it does over some base
context. -/
structure Says (fields : Fields) (m : LogicMap) (n : Node) : Prop where
  lookups : m.lookups = n.paths
  eval : ∀ c, m.evalIn (.object c) = n.eval (Mapping.overlay fields c)

theorem says_logic {d : Value} {fields : Fields} {l : Logic} {n : Node} (h : l.Holds d fields n) :
    Says fields (.keyed [(Blueprint.logicKey, l)]) n := by
  have hget : Mapping.get? Blueprint.logicKey [(Blueprint.logicKey, l)] = some l := rfl
  refine ⟨by simp [lookups, h.lookups], fun c => ?_⟩
  simp only [evalIn, evalKeyed, hget, h.eval]

/-- Entries without the key for a whole are an object of their nodes. -/
theorem says_entries {fields : Fields} {es : List (Key × Logic)} {ns : List (Key × Node)}
    (h : List.Forall₂ (fun e m => (e.1 == Blueprint.logicKey) = false ∧ e.1 = m.1
      ∧ ∃ d, e.2.Holds d fields m.2) es ns) :
    Says fields (.keyed es) (.object ns) := by
  have hkey : Mapping.get? Blueprint.logicKey es = none := by
    apply Mapping.get?_eq_none
    intro e he
    obtain ⟨i, hi, rfl⟩ := List.getElem_of_mem he
    exact (h.get hi (h.length_eq ▸ hi)).1
  have hlookups : es.flatMap (fun e => e.2.lookups)
      = (ns.flatMap fun e => e.2.sources).filterMap Node.Source.path? := by
    clear hkey
    induction h with
    | nil => rfl
    | cons he _ ih =>
      obtain ⟨-, -, d, hd⟩ := he
      simp only [List.flatMap_cons, List.filterMap_append, ih, hd.lookups, Node.paths]
  have heval (c : Fields) : es.mapM (fun e => do return (e.1, ← e.2.eval (.object c)))
      = ns.mapM (Node.evalEntry (Mapping.overlay fields c)) := by
    clear hkey hlookups
    induction h with
    | nil => rfl
    | cons he _ ih =>
      obtain ⟨-, hk, d, hd⟩ := he
      rw [List.mapM_cons, List.mapM_cons, ih, hd.eval, hk]
      rfl
  refine ⟨by simp [lookups, Node.paths, Node.sources, hlookups], fun c => ?_⟩
  simp only [evalIn, evalKeyed, hkey, evalEntries_eq, Node.eval, Node.evalEntries_eq, heval]

section Ready

variable {around : Surroundings} {base : Value} {fields : Fields} {settings : LogicSettings}

/-- A mapping is built as its expression is compiled. -/
theorem ofFields_compiles (hbase : Entries.ofValue base = .ok fields)
    (hset : around.settings = .ok settings) (fs : Fields) :
    InStep Compile.SameCount Eq (Says fields) (ofFields (Logic.build around [] base) fs)
      (Compile.compile (Logic.setup around Registry.standard settings) .plain (expressionOf fs)) := by
  unfold ofFields expressionOf
  cases hget : Mapping.get? Blueprint.logicKey fs with
  | some d =>
    simp only
    rw [← bind_pure (Compile.compile _ .plain d)]
    exact (Logic.build_compiles hbase hset d).bind fun l n hl => InStep.pure (says_logic hl)
  | none =>
    simp only [buildEntries_eq]
    have hentries : List.Forall₂ (fun e e' : Key × Value => InStep Compile.SameCount Eq
        (fun (e : Key × Logic) (m : Key × Node) => (e.1 == Blueprint.logicKey) = false ∧ e.1 = m.1
          ∧ ∃ d, e.2.Holds d fields m.2)
        (do return (e.1, ← Logic.build around [] base e.2))
        (do return (e'.1, ← Compile.compile (Logic.setup around Registry.standard settings) .plain e'.2)))
        fs fs := by
      refine List.forall₂_same.mpr fun e he => ?_
      refine (Logic.build_compiles hbase hset e.2).bind fun l n hl => InStep.pure ?_
      exact ⟨Mapping.not_mem_of_get? hget e he, rfl, e.2, hl⟩
    have hmap := (InStep.mapM hentries).bind fun es ns hes => InStep.pure (says_entries hes)
    have hreg : (Logic.setup around Registry.standard settings).registry = Registry.standard := rfl
    have hcompile := Compile.compile_object hreg fs
    refine (hmap.join Compile.sameCount_equivalence hcompile).mono fun m n h => ?_
    obtain ⟨n', hm, rfl⟩ := h
    exact hm

end Ready

/-! ## Layers with a condition -/

/-- A layer reads the paths of a node, and adds what its value gives. -/
structure LayerSays (fields : Fields) (e : Option Logic × LogicMap) (n : Node) : Prop where
  lookups : e.1.toList.flatMap Logic.lookups ++ e.2.lookups = n.paths
  share : ∀ c, share (.object c) e = (do
    liftExcept (contribution (← n.eval (Mapping.overlay fields c))))

/-- A layer without a condition adds what its map gives. -/
theorem layerSays_content {fields : Fields} {m : LogicMap} {n : Node} (h : Says fields m n) :
    LayerSays fields (none, m) n := by
  refine ⟨by simp [h.lookups], fun c => ?_⟩
  simp only [share, applies, pure_bind, if_true, h.eval]

/-- A layer with a condition adds what the branch node of both gives. -/
theorem layerSays_conditional {d : Value} {fields : Fields} {l : Logic} {m : LogicMap} {n o : Node}
    (hl : l.Holds d fields n) (hm : Says fields m o) :
    LayerSays fields (some l, m) (.branch n o (.object [])) := by
  refine ⟨?_, fun c => ?_⟩
  · simp [hl.lookups, hm.lookups, Node.paths, Node.sources]
  · simp only [share, applies, hl.eval, hm.eval, Node.eval, Node.evalEntries, bind_assoc, pure_bind]
    refine congrArg _ (funext fun v => ?_)
    cases v.truthy with
    | false => rfl
    | true => rfl

/-- Two layers add the same in all contexts and read the same paths. -/
structure LayerAlike (e e' : Option Logic × LogicMap) : Prop where
  lookups : e.1.toList.flatMap Logic.lookups ++ e.2.lookups
    = e'.1.toList.flatMap Logic.lookups ++ e'.2.lookups
  share : ∀ c, LogicMap.share (.object c) e = LogicMap.share (.object c) e'

/-- The second entry of a list is the first one with conditional entries in
it, or itself, as conditional expressions. -/
inductive Rephrased : Value → Value → Prop
  | same (d : Value) : Rephrased d d
  | conditional {fs : Fields} {c : Value} (h : Mapping.get? conditionKey fs = some c) :
      Rephrased (.object fs)
        (.object [(Blueprint.logicKey,
          Compile.conditionally c (expressionOf (Mapping.erase conditionKey fs)))])
  | list {xs ys : List Value} (hlength : ys.length = xs.length)
      (h : ∀ e ∈ xs.zip ys, Rephrased e.1 e.2) : Rephrased (.list xs) (.list ys)

theorem layered_alike {ls ls' : List (Option Logic × LogicMap)} (h : List.Forall₂ LayerAlike ls ls') :
    (layered ls).lookups = (layered ls').lookups
      ∧ ∀ c, (layered ls).evalIn (.object c) = (layered ls').evalIn (.object c) := by
  refine ⟨?_, fun c => ?_⟩
  · simp only [lookups, lookupsOfLayers_eq]
    induction h with
    | nil => rfl
    | cons he _ ih => rw [List.flatMap_cons, List.flatMap_cons, he.lookups, ih]
  · have hshares : ls.mapM (LogicMap.share (.object c)) = ls'.mapM (LogicMap.share (.object c)) := by
      induction h with
      | nil => rfl
      | cons he _ ih => rw [List.mapM_cons, List.mapM_cons, he.share, ih]
    simp only [evalIn, evalLayers_eq, hshares]

section Layers

variable (around : Surroundings) (base : Value)

/-- A conditional layer is built like the expression for it. -/
theorem conditional_alike {fs : Fields} {d : Value} (h : Mapping.get? conditionKey fs = some d) :
    InStep Compile.SameCount Eq LayerAlike (buildLayer (Logic.build around [] base) (.object fs))
      (buildLayer (Logic.build around [] base) (.object [(Blueprint.logicKey,
        Compile.conditionally d (expressionOf (Mapping.erase conditionKey fs)))])) := by
  have hget (e : Value) : Mapping.get? conditionKey [(Blueprint.logicKey, e)] = none := rfl
  have herase (e : Value) : Mapping.erase conditionKey [(Blueprint.logicKey, e)]
      = [(Blueprint.logicKey, e)] := rfl
  have hlogic (e : Value) : Mapping.get? Blueprint.logicKey [(Blueprint.logicKey, e)] = some e := rfl
  simp only [buildLayer, buildCondition, h, hget, herase, ofFields, hlogic, pure_bind, bind_assoc,
    map_eq_pure_bind]
  by_cases hready : Logic.Ready around base
  · obtain ⟨fields, settings, hbase, hset⟩ := hready
    have hreg : (Logic.setup around Registry.standard settings).registry = Registry.standard := rfl
    -- both are compared with the branch node of the condition and its content
    have hcompile := Compile.compile_conditionally hreg d
      (expressionOf (Mapping.erase conditionKey fs))
    have hfirst := (Logic.build_compiles hbase hset d).bind fun l n hl =>
      (ofFields_compiles hbase hset (Mapping.erase conditionKey fs)).bind fun m o hm =>
        InStep.pure (layerSays_conditional hl hm)
    have hsecond := ((Logic.build_compiles hbase hset (Compile.conditionally d
      (expressionOf (Mapping.erase conditionKey fs)))).trans Compile.sameCount_equivalence
        hcompile).bind fun l n hl => InStep.pure (layerSays_content (says_logic hl))
    rw [bind_pure] at hsecond
    refine (hfirst.join Compile.sameCount_equivalence hsecond).mono fun e e' he => ?_
    obtain ⟨n, hn, hn'⟩ := he
    exact ⟨hn.lookups.trans hn'.lookups.symm, fun c => (hn.share c).trans (hn'.share c).symm⟩
  · exact Logic.build_unready hready _ _ _ _

theorem list_alike {xs ys : List Value} (hlength : ys.length = xs.length)
    (h : ∀ e ∈ xs.zip ys, InStep Compile.SameCount Eq LayerAlike
      (buildLayer (Logic.build around [] base) e.1) (buildLayer (Logic.build around [] base) e.2)) :
    InStep Compile.SameCount Eq (fun m m' => m.lookups = m'.lookups
        ∧ ∀ c, m.evalIn (.object c) = m'.evalIn (.object c))
      (build (Logic.build around [] base) (.list xs)) (build (Logic.build around [] base) (.list ys)) := by
  simp only [build, buildLayers_eq]
  refine (InStep.mapM ?_).bind fun ls ls' hls => InStep.pure (layered_alike hls)
  rw [List.forall₂_iff_zip]
  exact ⟨hlength.symm, fun hmem => h _ hmem⟩

/-- An entry of a list is built like the entry in other words. -/
theorem rephrased_alike {x y : Value} (h : Rephrased x y) :
    InStep Compile.SameCount Eq LayerAlike (buildLayer (Logic.build around [] base) x)
      (buildLayer (Logic.build around [] base) y) := by
  induction h with
  | same d =>
    have hsteady := fun d => Logic.build_steady around base d
    refine (buildLayer_steady hsteady (build_steady hsteady d)).mono fun e e' he => ?_
    subst he
    exact ⟨rfl, fun c => rfl⟩
  | conditional h => exact conditional_alike around base h
  | list hlength _ ih =>
    refine (list_alike around base hlength ih).bind fun m m' hm => InStep.pure ?_
    refine ⟨by simp [hm.1], fun c => ?_⟩
    simp only [LogicMap.share, applies, pure_bind, if_true, hm.2]

end Layers

/-! ## Maps and expressions -/

/-- A context that may be missing. -/
def given : Option Fields → Value
  | none => .null
  | some c => .object c

theorem eval_given (m : LogicMap) (context : Option Fields) :
    m.eval (given context) = m.evalIn (.object (context.getD [])) := by
  cases context with
  | none => rfl
  | some c => simp only [eval, given, contextOf_object, Option.getD_some]

theorem logic_eval_given (l : Logic) (context : Option Fields) :
    l.eval (given context) = l.eval (.object (context.getD [])) := by
  cases context with
  | none => rfl
  | some c => rfl

/-- A map says the same as a logic: it reads the same paths, and evaluates in
the same way, whatever the journal. -/
structure Restates (m : LogicMap) (l : Logic) : Prop where
  lookups : m.lookups = l.lookups
  eval : ∀ context, m.eval (given context) = l.eval (given context)

theorem restates_logic (l : Logic) : Restates (.keyed [(Blueprint.logicKey, l)]) l := by
  have hget : Mapping.get? Blueprint.logicKey [(Blueprint.logicKey, l)] = some l := rfl
  refine ⟨by simp [lookups], fun context => ?_⟩
  rw [eval_given, logic_eval_given]
  simp only [evalIn, evalKeyed, hget]

theorem Says.restates {d : Value} {fields : Fields} {m : LogicMap} {l : Logic} {n : Node}
    (hm : Says fields m n) (hl : l.Holds d fields n) : Restates m l := by
  refine ⟨hm.lookups.trans hl.lookups.symm, fun context => ?_⟩
  rw [eval_given, logic_eval_given, hm.eval, hl.eval]

section Expressions

variable (around : Surroundings) (base : Value)

theorem fields_restate {fs : Fields} (h : Mapping.get? Blueprint.logicKey fs = none)
    (hempty : fs = [] → Logic.Ready around base) :
    InStep Compile.SameCount Eq Restates (build (Logic.build around [] base) (.object fs))
      (Logic.build around [] base (Compile.objectForm fs)) := by
  by_cases hready : Logic.Ready around base
  · obtain ⟨fields, settings, hbase, hset⟩ := hready
    have hmap := ofFields_compiles hbase hset fs
    have hexpression : expressionOf fs = Compile.objectForm fs := by
      unfold expressionOf
      rw [h]
    rw [hexpression] at hmap
    have hlogic := Logic.build_compiles hbase hset (Compile.objectForm fs)
    refine (hmap.join Compile.sameCount_equivalence hlogic).mono fun m l hml => ?_
    obtain ⟨n, hm, hl⟩ := hml
    exact hm.restates hl
  · cases fs with
    | nil => exact absurd (hempty rfl) hready
    | cons e rest =>
      -- the first expression of the mapping fails as the whole does
      rw [← bind_pure (Logic.build around [] base (Compile.objectForm (e :: rest)))]
      simp only [build, ofFields, h, buildEntries_eq, List.mapM_cons, bind_assoc]
      exact Logic.build_unready hready _ _ _ _

theorem pass_restates {fs : Fields} {d : Value} (h : Mapping.get? Blueprint.logicKey fs = some d) :
    InStep Compile.SameCount Eq Restates (build (Logic.build around [] base) (.object fs))
      (Logic.build around [] base d) := by
  rw [← bind_pure (Logic.build around [] base d)]
  simp only [build, ofFields, h]
  refine (Logic.build_steady around base d).bind fun l l' hl => InStep.pure ?_
  subst hl
  exact restates_logic l

theorem text_restates (s : String) :
    InStep Compile.SameCount Eq Restates (build (Logic.build around [] base) (.text s))
      (Logic.build around [] base (.text s)) := by
  rw [← bind_pure (Logic.build around [] base (.text s))]
  simp only [build]
  refine (Logic.build_steady around base (.text s)).bind fun l l' hl => InStep.pure ?_
  subst hl
  exact restates_logic l

/-- A logic map is an expression in other words. A mapping of expressions
builds, or fails with the same fault, as the object operation on it does; one
expression for the whole, or a text, builds as that expression; and a list
builds as the same list with conditional entries, at any depth, as conditional
expressions. What is built from both reads the same paths, and evaluates to the
same values or faults with the same records. Only the empty mapping asks for no
settings, so it has to be said that there are some. -/
theorem maps_are_expressions :
    (∀ fs, Mapping.get? Blueprint.logicKey fs = none → (fs = [] → Logic.Ready around base) →
        InStep Compile.SameCount Eq Restates (build (Logic.build around [] base) (.object fs))
          (Logic.build around [] base (Compile.objectForm fs)))
      ∧ (∀ fs d, Mapping.get? Blueprint.logicKey fs = some d →
        InStep Compile.SameCount Eq Restates (build (Logic.build around [] base) (.object fs))
          (Logic.build around [] base d))
      ∧ (∀ s, InStep Compile.SameCount Eq Restates (build (Logic.build around [] base) (.text s))
          (Logic.build around [] base (.text s)))
      ∧ (∀ xs ys, Rephrased (.list xs) (.list ys) →
        InStep Compile.SameCount Eq
          (fun m m' => m.lookups = m'.lookups
            ∧ ∀ context, m.eval (given context) = m'.eval (given context))
          (build (Logic.build around [] base) (.list xs))
          (build (Logic.build around [] base) (.list ys))) := by
  refine ⟨fun fs h hempty => fields_restate around base h hempty,
    fun fs d h => pass_restates around base h, text_restates around base, fun xs ys h => ?_⟩
  have heval {m m' : LogicMap} (hm : m.lookups = m'.lookups
      ∧ ∀ c, m.evalIn (.object c) = m'.evalIn (.object c)) : m.lookups = m'.lookups
        ∧ ∀ context, m.eval (given context) = m'.eval (given context) := by
    refine ⟨hm.1, fun context => ?_⟩
    rw [eval_given, eval_given, hm.2]
  cases h with
  | same =>
    refine (build_steady (Logic.build_steady around base) (.list xs)).mono fun m m' hm => ?_
    subst hm
    exact ⟨rfl, fun context => rfl⟩
  | list hlength h =>
    have hentries := fun e he => rephrased_alike around base (h e he)
    exact (list_alike around base hlength hentries).mono fun m m' hm => heval hm

end Expressions

/-- With a marker that is not allowed, the empty mapping still makes a logic
map, but the object operation on it does not compile. -/
theorem empty_map_asks_for_no_settings :
    Settings.ofVariables [(Settings.markerVariable, "$")] = .error .reservedMarker
      ∧ (∃ m, outcome (build (Logic.build ⟨.error (.setting .reservedMarker), .log⟩ [] .null)
          (.object [])) ⟨0, [], false⟩ = .ok m)
      ∧ outcome (Logic.build ⟨.error (.setting .reservedMarker), .log⟩ [] .null
          (Compile.objectForm [])) ⟨0, [], false⟩ = .error (.setting .reservedMarker) := by
  exact ⟨rfl, ⟨.keyed [], rfl⟩, rfl⟩

/-- A layer under a condition, and the empty mapping, in other words. -/
theorem conditional_layer_in_other_words :
    (∃ m, outcome (build (Logic.build Logic.ordinary [] .null)
          (.list [.object [(Blueprint.logicKey, Compile.conditionally (.int 1)
            (Compile.objectForm [(.text "x", .int 2)]))]])) ⟨0, [], false⟩ = .ok m
        ∧ outcome (m.eval .null) Journal.empty = .ok (.object [(.text "x", .int 2)]))
      ∧ ∃ l, outcome (Logic.build Logic.ordinary [] .null (Compile.objectForm [])) ⟨0, [], false⟩
          = .ok l
        ∧ outcome (l.eval .null) Journal.empty = .ok (.object []) := by
  obtain ⟨hfields, -, -, hlists⟩ := maps_are_expressions Logic.ordinary .null
  refine ⟨?_, ?_⟩
  · have hrephrased : Rephrased (.list [.object [(.text "x", .int 2), (conditionKey, .int 1)]])
        (.list [.object [(Blueprint.logicKey, Compile.conditionally (.int 1)
          (Compile.objectForm [(.text "x", .int 2)]))]]) := by
      refine .list rfl fun e he => ?_
      obtain rfl := List.mem_singleton.mp he
      exact .conditional rfl
    have hbuilt : outcome (build (Logic.build Logic.ordinary [] .null)
        (.list [.object [(.text "x", .int 2), (conditionKey, .int 1)]])) ⟨0, [], false⟩
        = .ok (.layered [(some ⟨.int 1, [], [], .literal (.int 1)⟩,
          .keyed [(.text "x", ⟨.int 2, [], [], .literal (.int 2)⟩)])]) := by
      have hcondition : Mapping.get? conditionKey
          [(Key.text "x", Value.int 2), (conditionKey, Value.int 1)] = some (.int 1) := rfl
      have hrest : Mapping.erase conditionKey
          [(Key.text "x", Value.int 2), (conditionKey, Value.int 1)] = [(.text "x", .int 2)] := rfl
      have hkeyed : Mapping.get? Blueprint.logicKey [(Key.text "x", Value.int 2)] = none := rfl
      simp [build, buildLayers, ofFields, buildEntries, hcondition, hrest, hkeyed, outcome_bind,
        Logic.build_int, Except.map]
    have hrelated := (hlists _ _ hrephrased ⟨0, [], false⟩ ⟨0, [], false⟩ rfl).1
    rw [hbuilt] at hrelated
    cases hm : outcome (build (Logic.build Logic.ordinary [] .null)
        (.list [.object [(Blueprint.logicKey, Compile.conditionally (.int 1)
          (Compile.objectForm [(.text "x", .int 2)]))]])) ⟨0, [], false⟩ with
    | error e => rw [hm] at hrelated; exact hrelated.elim
    | ok m =>
      rw [hm] at hrelated
      refine ⟨m, rfl, ?_⟩
      have heval := hrelated.2 none
      simp only [given] at heval
      rw [← heval]
      rfl
  · have hready : Logic.Ready Logic.ordinary .null := ⟨[], _, rfl, rfl⟩
    have hrelated := (hfields [] rfl (fun _ => hready) ⟨0, [], false⟩ ⟨0, [], false⟩ rfl).1
    have hbuilt : outcome (build (Logic.build Logic.ordinary [] .null) (.object [])) ⟨0, [], false⟩
        = .ok (.keyed []) := rfl
    rw [hbuilt] at hrelated
    cases hl : outcome (Logic.build Logic.ordinary [] .null (Compile.objectForm [])) ⟨0, [], false⟩ with
    | error e => rw [hl] at hrelated; exact hrelated.elim
    | ok l =>
      rw [hl] at hrelated
      refine ⟨l, rfl, ?_⟩
      have heval := hrelated.eval none
      simp only [given] at heval
      rw [← heval]
      rfl

end LogicMap
end Rulebook
