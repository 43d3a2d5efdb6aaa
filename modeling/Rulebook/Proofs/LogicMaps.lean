-- Logic maps as a whole: the logics in them, the layers of a list one by one,
-- and the values they evaluate to.
import Rulebook.Proofs.Building
import Rulebook.Proofs.Valuation

namespace Rulebook

/-! ## Values of logics -/

namespace Logic

/-- The context in which the tree of a logic is evaluated, if it is one. -/
def contextIn? (l : Logic) : Value → Option Fields
  | .null => some l.base
  | .object fs => some (Mapping.overlay l.base fs)
  | _ => none

theorem contextIn?_congr {l l' : Logic} (h : l.base = l'.base) (context : Value) :
    l.contextIn? context = l'.contextIn? context := by
  unfold contextIn?
  rw [h]

theorem contextIn?_object {l : Logic} {fields : Fields} (h : l.base = fields) (fs : Fields) :
    l.contextIn? (.object fs) = some (Mapping.overlay fields fs) := by
  rw [contextIn?, h]

theorem eval_in {l : Logic} {context : Value} {c : Fields} (h : l.contextIn? context = some c) :
    l.eval context = l.root.eval c := by
  cases context with
  | null | object _ => exact congrArg l.root.eval (Option.some.inj h)
  | _ => cases h

/-- The value of a logic in a context, or its fault. -/
def value (p : Policy) (l : Logic) : Value → Except Fault Value
  | .null => l.root.value p l.base
  | .object fs => l.root.value p (Mapping.overlay l.base fs)
  | v => throw (.contextType v.typeName)

theorem eval_yields (p : Policy) (l : Logic) (hl : .count ∉ l.root.sources) (context : Value) :
    Yields (Eval.Under p) (l.eval context) (l.value p context) := by
  cases context with
  | null => exact Node.eval_yields p l.root hl l.base
  | object fs => exact Node.eval_yields p l.root hl _
  | _ => exact Yields.throw _

/-- A logic of standard operations evaluates to the value of its tree. -/
theorem eval_built {around : Surroundings} {base d : Value} {draft : Draft} {l : Logic}
    (hl : outcome (build around [] base d) draft = .ok l) {context : Value} {c : Fields}
    (hc : l.contextIn? context = some c) (j : Journal) :
    outcome (l.eval context) j = l.root.value j.policy c := by
  have hsettled : .count ∉ l.root.sources := build_settled around base d draft l hl
  rw [eval_in hc]
  exact (Node.eval_yields j.policy l.root hsettled c j rfl).1

/-- How a definition ends that is built and evaluated by itself. -/
def alone (around : Surroundings) (base d : Value) (j : Journal) (context : Value) :
    Except Fault Value := do
  let l ← outcome (build around [] base d) ⟨0, [], false⟩
  outcome (l.eval context) j

theorem alone_eq {around : Surroundings} {base d : Value} {fields : Fields} {settings : LogicSettings}
    (hbase : Entries.ofValue base = .ok fields) (hset : around.settings = .ok settings) {l m : Logic}
    (hm : outcome (build around [] base d) ⟨0, [], false⟩ = .ok m) (hl : l.base = fields)
    {context : Value} {c : Fields} (hc : l.contextIn? context = some c) (j : Journal) :
    alone around base d j context = m.root.value j.policy c := by
  have hfields : m.base = fields := (build_parts hbase rfl hset hm).2.1
  have hcontext : m.contextIn? context = some c :=
    (contextIn?_congr (hfields.trans hl.symm) context).trans hc
  rw [alone, hm, ok_bind, eval_built hm hcontext]

theorem value_anonymous (p : Policy) (l : Logic) (context : Value) :
    l.anonymous.value p context = l.value p context := by
  cases context with
  | null => exact Node.value_anonymous p l.root l.base
  | object fs => exact Node.value_anonymous p l.root _
  | _ => rfl

end Logic

namespace LogicMap

/-- Induction over logic maps, with the contents of all layers at hand. -/
@[elab_as_elim, induction_eliminator]
theorem tree_induction {motive : LogicMap → Prop} (keyed : ∀ es, motive (.keyed es))
    (layered : ∀ layers, (∀ e ∈ layers, motive e.2) → motive (.layered layers)) (m : LogicMap) :
    motive m := by
  refine @LogicMap.rec motive (fun layers => ∀ e ∈ layers, motive e.2) (fun e => motive e.2)
    keyed layered ?_ ?_ ?_ m
  · simp
  · intro e es he hes y hy
    rcases List.mem_cons.mp hy with rfl | hy
    · exact he
    · exact hes y hy
  · intro _ _ h
    exact h

/-! ## The logics in a map -/

mutual
/-- The logics in a map, those of a condition before those of its content. -/
def logics : LogicMap → List Logic
  | .keyed es => es.map Prod.snd
  | .layered layers => logicsOfLayers layers
def logicsOfLayers : List (Option Logic × LogicMap) → List Logic
  | [] => []
  | (condition, content) :: rest => condition.toList ++ content.logics ++ logicsOfLayers rest
end

@[simp] theorem logicsOfLayers_eq (layers : List (Option Logic × LogicMap)) :
    logicsOfLayers layers = layers.flatMap fun e => e.1.toList ++ e.2.logics := by
  induction layers with
  | nil => rfl
  | cons e rest ih => simp [logicsOfLayers, ih]

@[simp] theorem lookupsOfLayers_eq (layers : List (Option Logic × LogicMap)) :
    lookupsOfLayers layers
      = layers.flatMap fun e => e.1.toList.flatMap Logic.lookups ++ e.2.lookups := by
  induction layers with
  | nil => rfl
  | cons e rest ih =>
    obtain ⟨_ | l, content⟩ := e
    · simp [lookupsOfLayers, ih]
    · simp [lookupsOfLayers, ih]

/-- The paths of a map are those of its logics, in order. -/
theorem lookups_eq (m : LogicMap) : m.lookups = m.logics.flatMap Logic.lookups := by
  induction m with
  | keyed es => simp [lookups, logics, List.flatMap_map]
  | layered layers ih =>
    simp only [lookups, logics, lookupsOfLayers_eq, logicsOfLayers_eq, List.flatMap_assoc,
      List.flatMap_append]
    exact List.flatMap_congr fun e he => by rw [ih e he]

/-! ## Building layer by layer -/

section Build

variable (compile : Value → Build Logic)

theorem buildEntries_eq (fs : Fields) :
    buildEntries compile fs = fs.mapM fun e => do return (e.1, ← compile e.2) := by
  induction fs with
  | nil => rfl
  | cons e fs ih => simp only [buildEntries, ih, List.mapM_cons, bind_assoc, pure_bind]

/-- Builds the condition of a layer, if it has one. -/
def buildCondition (fs : Fields) : Build (Option Logic) :=
  match Mapping.get? conditionKey fs with
  | some c => some <$> compile c
  | none => pure none

/-- Builds one layer of a list. -/
def buildLayer : Value → Build (Option Logic × LogicMap)
  | .object fs => do
    let condition ← buildCondition compile fs
    return (condition, ← ofFields compile (Mapping.erase conditionKey fs))
  | x => do return (none, ← build compile x)

theorem buildLayers_eq (xs : List Value) : buildLayers compile xs = xs.mapM (buildLayer compile) := by
  induction xs with
  | nil => rfl
  | cons x xs ih =>
    rw [List.mapM_cons, ← ih]
    cases x with
    | object fs =>
      simp only [buildLayers, buildLayer, buildCondition, bind_assoc, pure_bind]
      cases Mapping.get? conditionKey fs <;> simp only [pure_bind]
    | _ => simp only [buildLayers, buildLayer, bind_assoc, pure_bind]

variable {compile}

theorem ofFields_logics {P : Logic → Prop} (h : ∀ d, Ensures P (compile d)) (fs : Fields) :
    Ensures (fun m => ∀ l ∈ m.logics, P l) (ofFields compile fs) := by
  unfold ofFields
  split
  · refine (h _).bind fun l hl => Ensures.pure ?_
    simpa [logics] using hl
  · rw [buildEntries_eq]
    have hentry (e : Key × Value) : Ensures (fun e' : Key × Logic => P e'.2)
        (do return (e.1, ← compile e.2) : Build (Key × Logic)) :=
      (h e.2).bind fun l hl => Ensures.pure hl
    refine (Ensures.mapM fun e _ => hentry e).bind fun es hes => Ensures.pure fun l hl => ?_
    obtain ⟨e, he, rfl⟩ := List.mem_map.mp hl
    exact hes e he

theorem buildLayer_logics {P : Logic → Prop} (h : ∀ d, Ensures P (compile d)) {x : Value}
    (hx : Ensures (fun m => ∀ l ∈ m.logics, P l) (build compile x)) :
    Ensures (fun e => ∀ l ∈ e.1.toList ++ e.2.logics, P l) (buildLayer compile x) := by
  unfold buildLayer
  split
  · rename_i fs
    have hcondition : Ensures (fun c => ∀ l ∈ c.toList, P l) (buildCondition compile fs) := by
      unfold buildCondition
      split
      · simp only [map_eq_pure_bind]
        exact (h _).bind fun l hl => Ensures.pure (by simpa using hl)
      · exact Ensures.pure (by simp)
    refine hcondition.bind fun c hc => ?_
    refine (ofFields_logics h _).bind fun m hm => Ensures.pure fun l hl => ?_
    rcases List.mem_append.mp hl with hl | hl
    · exact hc l hl
    · exact hm l hl
  · exact hx.bind fun m hm => Ensures.pure (by simpa using hm)

/-- All logics in a map are compiled ones. -/
theorem build_logics {P : Logic → Prop} (h : ∀ d, Ensures P (compile d)) (d : Value) :
    Ensures (fun m => ∀ l ∈ m.logics, P l) (build compile d) := by
  induction d with
  | null => exact Ensures.pure (by simp [logics])
  | text s => exact (h (.text s)).bind fun l hl => Ensures.pure (by simpa [logics] using hl)
  | list xs ih =>
    simp only [build, buildLayers_eq]
    refine (Ensures.mapM fun x hx => buildLayer_logics h (ih x hx)).bind fun ls hls => ?_
    refine Ensures.pure fun l hl => ?_
    simp only [logics, logicsOfLayers_eq, List.mem_flatMap] at hl
    obtain ⟨e, he, hl⟩ := hl
    exact hls e he l hl
  | object fs _ => exact ofFields_logics h fs
  | _ => exact Ensures.throw _

end Build

/-! ## Building again -/

mutual
/-- The map with the recorders of all logics told apart by nothing but their
sinks. -/
def anonymous : LogicMap → LogicMap
  | .keyed es => .keyed (es.map fun e => (e.1, e.2.anonymous))
  | .layered layers => .layered (anonymousLayers layers)
def anonymousLayers : List (Option Logic × LogicMap) → List (Option Logic × LogicMap)
  | [] => []
  | (condition, content) :: rest =>
    (condition.map Logic.anonymous, content.anonymous) :: anonymousLayers rest
end

/-- A layer with anonymous recorders. -/
def anonymousLayer (e : Option Logic × LogicMap) : Option Logic × LogicMap :=
  (e.1.map Logic.anonymous, e.2.anonymous)

@[simp] theorem anonymousLayers_eq (layers : List (Option Logic × LogicMap)) :
    anonymousLayers layers = layers.map anonymousLayer := by
  induction layers with
  | nil => rfl
  | cons e rest ih => simp [anonymousLayers, anonymousLayer, ih]

section Again

variable {compile : Value → Build Logic}

/-- Two computations of drafts end alike but for the numbers of recorders. -/
abbrev Again {α β : Type} (anonymous : α → β) (x : Build α) : Prop :=
  InStep (fun _ _ => True) Eq (fun a b => anonymous a = anonymous b) x x

theorem Again.from_any {α β : Type} {anonymous : α → β} {x : Build α} (h : Again anonymous x)
    {s : Draft} {a : α} (ha : outcome x s = .ok a) (t : Draft) :
    ∃ b, outcome x t = .ok b ∧ anonymous b = anonymous a := by
  obtain ⟨b, hb, hab⟩ := (h s t trivial).1.exists_ok ha
  exact ⟨b, hb, Eq.symm hab⟩

theorem ofFields_again (h : ∀ d, Again Logic.anonymous (compile d)) (fs : Fields) :
    Again anonymous (ofFields compile fs) := by
  unfold ofFields
  split
  · refine (h _).bind fun l l' hl => InStep.pure ?_
    simp [anonymous, hl]
  · rw [buildEntries_eq]
    have hentries : List.Forall₂
        (fun e e' : Key × Value => InStep (fun _ _ => True) Eq
          (fun a b : Key × Logic => (a.1, a.2.anonymous) = (b.1, b.2.anonymous))
          (do return (e.1, ← compile e.2) : Build (Key × Logic)) (do return (e'.1, ← compile e'.2)))
        fs fs :=
      List.forall₂_same.mpr fun e _ => (h e.2).bind fun l l' hl => InStep.pure (by simp [hl])
    refine (InStep.mapM hentries).bind fun es es' hes => InStep.pure ?_
    have heq : es.map (fun e => (e.1, e.2.anonymous)) = es'.map (fun e => (e.1, e.2.anonymous)) :=
      map_eq_of_forall₂ hes fun _ _ he => he
    simp [anonymous, heq]

theorem buildLayer_again (h : ∀ d, Again Logic.anonymous (compile d)) {x : Value}
    (hx : Again anonymous (build compile x)) : Again anonymousLayer (buildLayer compile x) := by
  unfold buildLayer
  split
  · rename_i fs
    have hcondition : Again (Option.map Logic.anonymous) (buildCondition compile fs) := by
      unfold buildCondition
      split
      · simp only [map_eq_pure_bind]
        exact (h _).bind fun l l' hl => InStep.pure (by simp [hl])
      · exact InStep.pure rfl
    refine hcondition.bind fun c c' hc => ?_
    refine (ofFields_again h _).bind fun m m' hm => InStep.pure ?_
    simp [anonymousLayer, hc, hm]
  · refine hx.bind fun m m' hm => InStep.pure ?_
    simp [anonymousLayer, hm]

theorem buildLayers_again (h : ∀ d, Again Logic.anonymous (compile d)) {xs : List Value}
    (hxs : ∀ x ∈ xs, Again anonymous (build compile x)) :
    Again (List.map anonymousLayer) (buildLayers compile xs) := by
  rw [buildLayers_eq]
  have hlayers := InStep.mapM (List.forall₂_same.mpr fun x hx => buildLayer_again h (hxs x hx))
  exact hlayers.mono fun ls ls' hls => map_eq_of_forall₂ hls fun _ _ hl => hl

/-- A map built again is the same but for the numbers of recorders. -/
theorem build_again (h : ∀ d, Again Logic.anonymous (compile d)) (d : Value) :
    Again anonymous (build compile d) := by
  induction d with
  | null => exact InStep.pure rfl
  | text s =>
    refine (h (.text s)).bind fun l l' hl => InStep.pure ?_
    simp [anonymous, hl]
  | list xs ih =>
    refine (buildLayers_again h ih).bind fun ls ls' hls => InStep.pure ?_
    simp [anonymous, hls]
  | object fs _ => exact ofFields_again h fs
  | _ => exact InStep.throw rfl

end Again

/-! ## Evaluating layer by layer -/

theorem contextOf_object (c : Fields) : contextOf (.object c) = .object c := by
  cases c <;> rfl

theorem evalEntries_eq (context : Value) (es : List (Key × Logic)) :
    evalEntries context es = es.mapM fun e => do return (e.1, ← e.2.eval context) := by
  induction es with
  | nil => rfl
  | cons e es ih => simp only [evalEntries, ih, List.mapM_cons, bind_assoc, pure_bind]

/-- The mapping that a content gives. -/
def contribution : Value → Except Fault Fields
  | .object fs => return fs
  | v => throw (.mergedValue v)

/-- What a layer adds: the mapping of its content, or nothing if its condition
is false, whatever its content is. -/
def share (context : Value) (e : Option Logic × LogicMap) : Eval Fields := do
  if ← applies context e.1 then liftExcept (contribution (← e.2.evalIn context)) else return []

theorem evalLayers_eq (context : Value) (merged : Fields) (layers : List (Option Logic × LogicMap)) :
    evalLayers context merged layers = (do
      let shares ← layers.mapM (share context)
      return shares.foldl Mapping.overlay merged) := by
  induction layers generalizing merged with
  | nil => rfl
  | cons e rest ih =>
    simp only [evalLayers, List.mapM_cons, share, bind_assoc, pure_bind]
    refine congrArg _ (funext fun applied => ?_)
    cases applied with
    | false => simp [ih, Mapping.overlay]
    | true =>
      simp only [if_true, bind_assoc]
      refine congrArg _ (funext fun v => ?_)
      cases v with
      | object fs => exact ih _
      | _ => rfl

/-! ## Values of maps -/

/-- Whether a layer applies, or the fault of its condition. -/
def applied (p : Policy) (context : Value) : Option Logic → Except Fault Bool
  | none => return true
  | some l => do return (← l.value p context).truthy

/-- What a layer adds, given whether it applies and the value of its content. -/
def added (applied : Except Fault Bool) (content : Except Fault Value) : Except Fault Fields := do
  if ← applied then contribution (← content) else return []

mutual
/-- The value of a map in a context, or its fault. -/
def value (p : Policy) (context : Value) : LogicMap → Except Fault Value
  | .keyed es =>
    match Mapping.get? Blueprint.logicKey es with
    | some l => l.value p context
    | none => do return .object (← es.mapM fun e => do return (e.1, ← e.2.value p context))
  | .layered layers => do return .object ((← sharesOf p context layers).foldl Mapping.overlay [])
/-- What the layers of a list add. -/
def sharesOf (p : Policy) (context : Value) :
    List (Option Logic × LogicMap) → Except Fault (List Fields)
  | [] => return []
  | (condition, content) :: rest => do
    let fs ← added (applied p context condition) (content.value p context)
    return fs :: (← sharesOf p context rest)
end

/-- What a layer adds, or its fault. -/
def shareValue (p : Policy) (context : Value) (e : Option Logic × LogicMap) : Except Fault Fields :=
  added (applied p context e.1) (e.2.value p context)

@[simp] theorem sharesOf_eq (p : Policy) (context : Value) (layers : List (Option Logic × LogicMap)) :
    sharesOf p context layers = layers.mapM (shareValue p context) := by
  induction layers with
  | nil => rfl
  | cons e rest ih => simp only [sharesOf, shareValue, ih, List.mapM_cons]

/-- No logic of a map calculates. -/
def Settled (m : LogicMap) : Prop := ∀ l ∈ m.logics, .count ∉ l.root.sources

theorem applies_yields (p : Policy) (context : Value) {condition : Option Logic}
    (h : ∀ l ∈ condition, .count ∉ l.root.sources) :
    Yields (Eval.Under p) (applies context condition) (applied p context condition) := by
  cases condition with
  | none => exact Yields.pure true
  | some l => exact (l.eval_yields p (h l rfl) context).bind fun v _ => Yields.pure v.truthy

theorem share_yields {p : Policy} {context : Value} {e : Option Logic × LogicMap}
    (hcondition : ∀ l ∈ e.1, .count ∉ l.root.sources)
    (hcontent : Yields (Eval.Under p) (e.2.evalIn context) (e.2.value p context)) :
    Yields (Eval.Under p) (share context e) (shareValue p context e) := by
  refine (applies_yields p context hcondition).bind fun b _ => ?_
  cases b with
  | false => exact Yields.pure []
  | true => exact hcontent.bind fun v _ => Yields.lift (contribution v)

/-- The logics of a layer are among those of the map. -/
theorem settled_layer {layers : List (Option Logic × LogicMap)} (h : (layered layers).Settled)
    {e : Option Logic × LogicMap} (he : e ∈ layers) :
    (∀ l ∈ e.1, .count ∉ l.root.sources) ∧ e.2.Settled := by
  simp only [Settled, logics, logicsOfLayers_eq] at h ⊢
  refine ⟨fun l hl => h l ?_, fun l hl => h l ?_⟩
  · exact List.mem_flatMap.mpr ⟨e, he, by simp [Option.mem_toList.mpr hl]⟩
  · exact List.mem_flatMap.mpr ⟨e, he, by simp [hl]⟩

/-- A map without calculations has one value in a context, whatever has been
recorded before. -/
theorem evalIn_yields (p : Policy) (context : Value) (m : LogicMap) (hm : m.Settled) :
    Yields (Eval.Under p) (m.evalIn context) (m.value p context) := by
  induction m with
  | keyed es =>
    have hes : ∀ e ∈ es, .count ∉ e.2.root.sources :=
      fun e he => hm e.2 (List.mem_map.mpr ⟨e, he, rfl⟩)
    simp only [evalIn, evalKeyed, value]
    cases hget : Mapping.get? Blueprint.logicKey es with
    | some l =>
      obtain ⟨e, he, rfl⟩ := Mapping.mem_of_get? hget
      exact e.2.eval_yields p (hes e he) context
    | none =>
      simp only [evalEntries_eq]
      refine Yields.bind (Yields.mapM fun e he => ?_) fun fs _ => Yields.pure _
      exact (e.2.eval_yields p (hes e he) context).bind fun v _ => Yields.pure _
  | layered layers ih =>
    simp only [evalIn, value, evalLayers_eq, sharesOf_eq, bind_assoc, pure_bind]
    refine Yields.bind (Yields.mapM fun e he => ?_) fun ss _ => Yields.pure _
    obtain ⟨hcondition, hcontent⟩ := settled_layer hm he
    exact share_yields hcondition (ih e he hcontent)

theorem applied_anonymous (p : Policy) (context : Value) (condition : Option Logic) :
    applied p context (condition.map Logic.anonymous) = applied p context condition := by
  cases condition with
  | none => rfl
  | some l => simp only [Option.map_some, applied, Logic.value_anonymous]

theorem get?_anonymous (k : Key) (es : List (Key × Logic)) :
    Mapping.get? k (es.map fun e => (e.1, e.2.anonymous))
      = (Mapping.get? k es).map Logic.anonymous := by
  induction es with
  | nil => rfl
  | cons e es ih =>
    simp only [List.map_cons, Mapping.get?, ih]
    split <;> rfl

/-- The value does not depend on the numbers of recorders. -/
theorem value_anonymous (p : Policy) (context : Value) (m : LogicMap) :
    m.anonymous.value p context = m.value p context := by
  induction m with
  | keyed es =>
    simp only [anonymous, value, get?_anonymous]
    cases Mapping.get? Blueprint.logicKey es with
    | some l => exact l.value_anonymous p context
    | none =>
      simp only [Option.map_none, List.mapM_map]
      refine congrArg (· >>= _) (mapM_congr fun e _ => ?_)
      simp only [Function.comp, Logic.value_anonymous]
  | layered layers ih =>
    simp only [anonymous, value, anonymousLayers_eq, sharesOf_eq, List.mapM_map]
    refine congrArg (· >>= _) (mapM_congr fun e he => ?_)
    simp only [Function.comp, shareValue, anonymousLayer, applied_anonymous, ih e he]

end LogicMap
end Rulebook
