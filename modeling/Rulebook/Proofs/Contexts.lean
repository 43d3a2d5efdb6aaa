-- Contexts that are none. A logic refuses whatever is neither missing nor a
-- mapping. A map asks first whether a context counts as false, and so refuses
-- some of them and takes the others for the empty mapping.
import Rulebook.Proofs.LogicMaps

namespace Rulebook

/-- A context is a mapping, or missing. -/
def Value.IsContext : Value → Prop
  | .null | .object _ => True
  | _ => False

instance : DecidablePred Value.IsContext
  | .null | .object _ => .isTrue trivial
  | .undefined | .bool _ | .int _ | .float _ | .text _ | .list _ | .foreign _ => .isFalse id

variable {x : Value}

theorem Logic.eval_no_context (hx : ¬ x.IsContext) (l : Logic) :
    l.eval x = throw (.contextType x.typeName) := by
  cases x with
  | null | object _ => exact absurd trivial hx
  | _ => rfl

namespace LogicMap

/-! ## Evaluating in no context -/

/-- How a computation goes on in no context: to its end, if there is no logic
in its way. -/
def unrefused {α : Type} (x : Value) (ls : List Logic) (a : α) : Eval α :=
  if ls.isEmpty then pure a else throw (.contextType x.typeName)

section Refusing

variable {α β : Type}

theorem unrefused_nil (a : α) : unrefused x [] a = pure a := rfl

theorem unrefused_cons (l : Logic) (ls : List Logic) (a : α) :
    unrefused x (l :: ls) a = throw (.contextType x.typeName) := rfl

theorem unrefused_bind {ls ls' : List Logic} {a : α} {b : β} {f : α → Eval β}
    (hf : f a = unrefused x ls' b) : unrefused x ls a >>= f = unrefused x (ls ++ ls') b := by
  cases ls with
  | nil => rw [unrefused_nil, pure_bind, hf, List.nil_append]
  | cons l ls => rfl

theorem unrefused_bind_pure {ls : List Logic} {a : α} {b : β} {f : α → Eval β} (hf : f a = pure b) :
    unrefused x ls a >>= f = unrefused x ls b := by
  rw [unrefused_bind (hf.trans (unrefused_nil b).symm), List.append_nil]

theorem unrefused_mapM {f : α → Eval β} {logics : α → List Logic} {g : α → β} {xs : List α}
    (h : ∀ a ∈ xs, f a = unrefused x (logics a) (g a)) :
    xs.mapM f = unrefused x (xs.flatMap logics) (xs.map g) := by
  induction xs with
  | nil => rfl
  | cons a xs ih =>
    have hrest := ih fun a' ha' => h a' (List.mem_cons_of_mem _ ha')
    rw [List.mapM_cons, h a List.mem_cons_self, List.flatMap_cons]
    refine unrefused_bind ?_
    rw [hrest]
    exact unrefused_bind_pure rfl

end Refusing

section NoContext

variable (hx : ¬ x.IsContext)
include hx

/-- The first expression of a map is refused. -/
theorem evalKeyed_no_context (es : List (Key × Logic)) :
    evalKeyed x es = unrefused x (es.map Prod.snd) (.object []) := by
  cases es with
  | nil => rfl
  | cons e es =>
    rw [List.map_cons, unrefused_cons, evalKeyed]
    cases Mapping.get? Blueprint.logicKey (e :: es) with
    | some l => exact l.eval_no_context hx
    | none =>
      simp only [evalEntries, e.2.eval_no_context hx]
      rfl

/-- So is the condition of a layer, or else what it contains. -/
theorem share_no_context {e : Option Logic × LogicMap}
    (hcontent : e.2.evalIn x = unrefused x e.2.logics (.object [])) :
    share x e = unrefused x (e.1.toList ++ e.2.logics) [] := by
  obtain ⟨_ | l, content⟩ := e
  · simp only [share, applies, pure_bind, if_true, hcontent, Option.toList_none, List.nil_append]
    exact unrefused_bind_pure rfl
  · simp only [share, applies, l.eval_no_context hx]
    rfl

/-- A map without any logic is the empty mapping, and every other is refused. -/
theorem evalIn_no_context (m : LogicMap) : m.evalIn x = unrefused x m.logics (.object []) := by
  induction m with
  | keyed es => exact evalKeyed_no_context hx es
  | layered layers ih =>
    have hshares := unrefused_mapM fun e he => share_no_context hx (ih e he)
    have hnothing : (layers.map fun _ => ([] : Fields)).foldl Mapping.overlay [] = [] := by
      clear ih hshares
      induction layers with
      | nil => rfl
      | cons e rest ih => exact ih
    rw [evalIn, evalLayers_eq, hshares, logics, logicsOfLayers_eq, bind_assoc]
    refine unrefused_bind_pure ?_
    rw [pure_bind, hnothing]

end NoContext

/-- A map asks whether its context counts as true before any logic sees it. -/
theorem eval_no_context (hx : ¬ x.IsContext) (m : LogicMap) :
    m.eval x = if x.truthy then unrefused x m.logics (.object []) else m.eval (.object []) := by
  rw [eval, contextOf]
  split
  · exact evalIn_no_context hx m
  · rw [eval, contextOf_object]

/-- In a map with a logic that is all that decides. -/
theorem eval_no_context_of_logics (hx : ¬ x.IsContext) {m : LogicMap} (hm : m.logics ≠ []) :
    m.eval x = if x.truthy then throw (.contextType x.typeName) else m.eval (.object []) := by
  rw [eval_no_context hx]
  cases hlogics : m.logics with
  | nil => exact absurd hlogics hm
  | cons l ls => rfl

/-! ## Maps with a logic -/

section Build

variable {compile : Value → Build Logic}

theorem build_expression {d : Value} {draft : Draft} {l : Logic}
    (hl : outcome (compile d) draft = .ok l) :
    outcome (build compile (.object [(Blueprint.logicKey, d)])) draft
      = .ok (.keyed [(Blueprint.logicKey, l)]) := by
  have hget : Mapping.get? Blueprint.logicKey [(Blueprint.logicKey, d)] = some d := rfl
  simp only [build, ofFields, hget, ← map_eq_pure_bind, outcome_map, hl]
  rfl

theorem ofFields_logics_ne {fs : Fields} (hfs : fs ≠ []) :
    Ensures (fun m => m.logics ≠ []) (ofFields compile fs) := by
  unfold ofFields
  split
  · exact Ensures.bind_any fun l => Ensures.pure (by simp [logics])
  · cases fs with
    | nil => exact absurd rfl hfs
    | cons e fs =>
      simp only [buildEntries, bind_assoc, pure_bind]
      refine Ensures.bind_any fun l => Ensures.bind_any fun es => Ensures.pure ?_
      simp [logics]

theorem build_conditional_logics_ne {fs : Fields} {c : Value}
    (hc : Mapping.get? conditionKey fs = some c) (xs : List Value) :
    Ensures (fun m => m.logics ≠ []) (build compile (.list (.object fs :: xs))) := by
  simp only [build, buildLayers, hc, map_eq_pure_bind, bind_assoc, pure_bind]
  refine Ensures.bind_any fun l => Ensures.bind_any fun content => Ensures.bind_any fun rest => ?_
  exact Ensures.pure (by simp [logics, logicsOfLayers])

end Build

/-! ## What maps refuse -/

/-- What is no context is refused by every logic. A map with a logic in it refuses
it too if it counts as true; if not, it stands for the empty context there. -/
theorem maps_refuse_what_counts_as_true {x : Value} (hx : ¬ x.IsContext) (around : Surroundings)
    (ops : List (String × Entry)) (base : Value) :
    (∀ d draft l, outcome (Logic.build around ops base d) draft = .ok l →
        ∃ m, outcome (build (Logic.build around ops base) (.object [(Blueprint.logicKey, d)])) draft = .ok m
          ∧ l.eval x = throw (.contextType x.typeName)
          ∧ m.eval x = if x.truthy then l.eval x else l.eval (.object []))
      ∧ (∀ fs, fs ≠ [] → ∀ draft m,
        outcome (build (Logic.build around ops base) (.object fs)) draft = .ok m →
          m.eval x = if x.truthy then throw (.contextType x.typeName) else m.eval (.object []))
      ∧ (∀ fs xs c, Mapping.get? conditionKey fs = some c → ∀ draft m,
        outcome (build (Logic.build around ops base) (.list (.object fs :: xs))) draft = .ok m →
          m.eval x = if x.truthy then throw (.contextType x.typeName) else m.eval (.object []))
      ∧ ∀ m : LogicMap, m.eval x = if x.truthy then
          if m.logics.isEmpty then pure (.object []) else throw (.contextType x.typeName)
        else m.eval (.object []) := by
  refine ⟨fun d draft l hl => ?_, fun fs hfs draft m hm => ?_, fun fs xs c hc draft m hm => ?_, fun m => ?_⟩
  · refine ⟨.keyed [(Blueprint.logicKey, l)], build_expression hl, l.eval_no_context hx, ?_⟩
    rw [eval_no_context_of_logics hx (by simp [logics]), l.eval_no_context hx]
    rfl
  · exact eval_no_context_of_logics hx (ofFields_logics_ne hfs draft m hm)
  · exact eval_no_context_of_logics hx (build_conditional_logics_ne hc xs draft m hm)
  · exact eval_no_context hx m

/-- A truth is no context, neither for a logic nor for the map of it. -/
theorem true_is_refused_by_both :
    ∃ l m, outcome (Logic.build Logic.ordinary [] .null (.int 1)) ⟨0, [], false⟩ = .ok l
      ∧ outcome (build (Logic.build Logic.ordinary [] .null) (.object [(Blueprint.logicKey, .int 1)]))
          ⟨0, [], false⟩ = .ok m
      ∧ l.eval (.bool true) = throw (.contextType "bool")
      ∧ m.eval (.bool true) = throw (.contextType "bool") := by
  have htrue : ¬ (Value.bool true).IsContext := by decide
  obtain ⟨m, hm, hl, heval⟩ := (maps_refuse_what_counts_as_true htrue Logic.ordinary [] .null).1
    (.int 1) ⟨0, [], false⟩ _ (Logic.build_int 1 _)
  exact ⟨_, m, Logic.build_int 1 _, hm, hl, heval.trans hl⟩

/-- Falsehood is none either, and yet the map has a value in it. -/
theorem false_is_refused_by_a_logic_alone :
    ∃ l m, outcome (Logic.build Logic.ordinary [] .null (.int 1)) ⟨0, [], false⟩ = .ok l
      ∧ outcome (build (Logic.build Logic.ordinary [] .null) (.object [(Blueprint.logicKey, .int 1)]))
          ⟨0, [], false⟩ = .ok m
      ∧ l.eval (.bool false) = throw (.contextType "bool")
      ∧ m.eval (.bool false) = pure (.int 1) := by
  have hlogic := Logic.build_int 1 ⟨0, [], false⟩
  exact ⟨_, _, hlogic, build_expression hlogic, rfl, rfl⟩

end LogicMap
end Rulebook
