-- The laws of lists of logic maps: a list of maps merges what its parts give,
-- in order; it can be nested wherever it stands; and of each key the last
-- layer that applies and has it decides.
import Rulebook.Proofs.LogicMaps

namespace Rulebook.LogicMap

/-! ## Values of lists of layers -/

/-- The mapping that a list of layers gives, or the fault of the first layer
that fails. -/
def merged (p : Policy) (context : Value) (layers : List (Option Logic × LogicMap)) :
    Except Fault Fields := do
  return Mapping.merge (← layers.mapM (shareValue p context))

theorem value_layered (p : Policy) (context : Value) (layers : List (Option Logic × LogicMap)) :
    (layered layers).value p context = (merged p context layers).map .object := by
  simp only [value, merged, sharesOf_eq]
  cases layers.mapM (shareValue p context) <;> rfl

theorem merged_append (p : Policy) (context : Value) (as bs : List (Option Logic × LogicMap)) :
    merged p context (as ++ bs) = (do
      let a ← merged p context as
      let b ← merged p context bs
      return Mapping.overlay a b) := by
  simp only [merged, List.mapM_append, bind_assoc, pure_bind, Mapping.merge_append]

theorem merged_distinct {p : Policy} {context : Value} {layers : List (Option Logic × LogicMap)}
    {fs : Fields} (h : merged p context layers = .ok fs) : Mapping.Distinct fs := by
  unfold merged at h
  cases hshares : layers.mapM (shareValue p context) with
  | error e => rw [hshares] at h; cases h
  | ok shares =>
    rw [hshares] at h
    obtain rfl := Except.ok.inj h
    exact Mapping.distinct_merge shares

theorem merged_anonymous (p : Policy) (context : Value) (layers : List (Option Logic × LogicMap)) :
    merged p context (layers.map anonymousLayer) = merged p context layers := by
  unfold merged
  rw [List.mapM_map]
  refine congrArg (· >>= _) (mapM_congr fun e _ => ?_)
  simp only [Function.comp, shareValue, anonymousLayer, applied_anonymous, value_anonymous]

/-! ## Nested lists -/

theorem share_nested (context : Value) (layers : List (Option Logic × LogicMap)) :
    share context (none, layered layers) = (do
      let shares ← layers.mapM (share context)
      return Mapping.merge shares) := by
  simp only [share, applies, evalIn, evalLayers_eq, pure_bind, if_true, bind_assoc]
  rfl

/-- Layers in place of a list of them: the same evaluation. -/
theorem evalIn_nested (context : Value) (as bs cs : List (Option Logic × LogicMap)) :
    (layered (as ++ [(none, layered bs)] ++ cs)).evalIn context
      = (layered (as ++ bs ++ cs)).evalIn context := by
  have hfold (ms : List Fields) : ms.foldl Mapping.overlay [] = Mapping.merge ms := rfl
  simp only [evalIn, evalLayers_eq, List.mapM_append, List.mapM_cons, List.mapM_nil, share_nested,
    bind_assoc, pure_bind, hfold, Mapping.merge_nested]

theorem lookups_nested (as bs cs : List (Option Logic × LogicMap)) :
    (layered (as ++ [(none, layered bs)] ++ cs)).lookups = (layered (as ++ bs ++ cs)).lookups := by
  simp [lookups]

/-! ## The laws -/

section Laws

variable {compile : Value → Build Logic}

theorem build_list_ok {xs : List Value} {s : Draft} {m : LogicMap}
    (h : outcome (build compile (.list xs)) s = .ok m) :
    ∃ layers, outcome (buildLayers compile xs) s = .ok layers ∧ m = .layered layers := by
  obtain ⟨layers, hlayers, hm, -⟩ := outcome_bind_ok h
  exact ⟨layers, hlayers, (Except.ok.inj hm).symm⟩

theorem build_append_ok {xs ys : List Value} {s : Draft} {as bs : List (Option Logic × LogicMap)}
    (hx : outcome (buildLayers compile xs) s = .ok as)
    (hy : outcome (buildLayers compile ys) (after (buildLayers compile xs) s) = .ok bs) :
    outcome (build compile (.list (xs ++ ys))) s = .ok (.layered (as ++ bs)) := by
  rw [buildLayers_eq] at hx hy
  rw [buildLayers_eq] at hy
  simp only [build, buildLayers_eq, List.mapM_append, outcome_bind, hx, hy, outcome_pure]

/-- A list and the same one with a part nested build alike, to maps that are
evaluated in the same way and read the same paths. -/
theorem build_nested (compile : Value → Build Logic) (xs ys zs : List Value) :
    InStep Eq Eq (fun m m' => (∀ context, m.eval context = m'.eval context) ∧ m.lookups = m'.lookups)
      (build compile (.list (xs ++ [.list ys] ++ zs))) (build compile (.list (xs ++ ys ++ zs))) := by
  simp only [build, buildLayers_eq, List.mapM_append, List.mapM_cons, List.mapM_nil, buildLayer,
    bind_assoc, pure_bind]
  refine (InStep.refl _).bind fun as as' ha => ?_
  refine (InStep.refl _).bind fun bs bs' hb => ?_
  refine (InStep.refl _).bind fun cs cs' hc => InStep.pure ?_
  subst ha hb hc
  exact ⟨fun context => evalIn_nested (contextOf context) as bs cs, lookups_nested as bs cs⟩

theorem eval_layered (context : Value) (layers : List (Option Logic × LogicMap)) :
    (layered layers).eval context = (do
      let shares ← layers.mapM (share (contextOf context))
      return .object (Mapping.merge shares)) := by
  simp only [eval, evalIn, evalLayers_eq, bind_assoc, pure_bind]
  rfl

/-- A layer adds the mapping of its content, or nothing. -/
theorem share_outcome {context : Value} {e : Option Logic × LogicMap} {j : Journal} {b : Bool}
    (h : outcome (applies context e.1) j = .ok b) :
    outcome (share context e) j
      = if b then outcome (e.2.evalIn context) (after (applies context e.1) j) >>= contribution
        else .ok [] := by
  unfold share
  rw [outcome_bind, h]
  cases b with
  | false => rfl
  | true =>
    simp only [if_true, outcome_bind, outcome_liftExcept]
    cases outcome (e.2.evalIn context) (after (applies context e.1) j) <;> rfl

/-- The content of a layer that does not apply is not evaluated. -/
theorem share_skipped {context : Value} {e : Option Logic × LogicMap} {j : Journal}
    (h : outcome (applies context e.1) j = .ok false) :
    after (share context e) j = after (applies context e.1) j := by
  unfold share
  rw [after_bind, h]
  rfl

/-- A list of maps gives the merge of its parts, or the fault of the first one
that fails, and a part may be nested as it stands. So the last layer that
applies and has a key decides on it, and one that does not apply adds nothing
and is not looked into. -/
theorem lists_of_maps_merge_in_order (around : Surroundings) (base : Value) (xs ys zs : List Value) :
    (∀ s t mx my, outcome (build (Logic.build around [] base) (.list xs)) s = .ok mx →
      outcome (build (Logic.build around [] base) (.list ys)) t = .ok my →
      ∀ r, ∃ m, outcome (build (Logic.build around [] base) (.list (xs ++ ys))) r = .ok m
        ∧ ∀ p context, ∃ ex ey,
          Yields (Eval.Under p) (mx.eval context) (Except.map .object ex)
            ∧ Yields (Eval.Under p) (my.eval context) (Except.map .object ey)
            ∧ Yields (Eval.Under p) (m.eval context)
                (Except.map .object (do return Mapping.overlay (← ex) (← ey)))
            ∧ ∀ a b, ex = .ok a → ey = .ok b →
                Mapping.overlay a b = (a.map fun e => (e.1, (Mapping.get? e.1 b).getD e.2))
                  ++ b.filter fun e => !Mapping.contains e.1 a)
      ∧ InStep Eq Eq
          (fun m m' => (∀ context, m.eval context = m'.eval context) ∧ m.lookups = m'.lookups)
          (build (Logic.build around [] base) (.list (xs ++ [.list ys] ++ zs)))
          (build (Logic.build around [] base) (.list (xs ++ ys ++ zs)))
      ∧ (∀ s m, outcome (build (Logic.build around [] base) (.list xs)) s = .ok m →
          ∃ layers, outcome (xs.mapM (buildLayer (Logic.build around [] base))) s = .ok layers
            ∧ ∀ context, m.eval context = (do
              let shares ← layers.mapM (share (contextOf context))
              return .object (Mapping.merge shares)))
      ∧ (∀ (shares : List Fields) (k : Key), Mapping.get? k (Mapping.merge shares)
          = shares.reverse.findSome? fun fs => Mapping.get? k fs.reverse)
      ∧ (∀ context e j b, outcome (applies context e.1) j = .ok b →
          outcome (share context e) j
            = (if b then outcome (e.2.evalIn context) (after (applies context e.1) j) >>= contribution
              else .ok [])
          ∧ (b = false → after (share context e) j = after (applies context e.1) j)) := by
  have hlogic (d : Value) : Again Logic.anonymous (Logic.build around [] base d) := by
    have hnone : ∀ e ∈ ([] : List (String × Entry)), e.2.Brings (Factory.Regular fun _ => True) := by
      simp
    exact Logic.build_alike hnone base d
  have hlayers (zs : List Value) :
      Again (List.map anonymousLayer) (buildLayers (Logic.build around [] base) zs) :=
    buildLayers_again hlogic fun x _ => build_again hlogic x
  have hsettled := build_logics (Logic.build_settled around base)
  refine ⟨fun s t mx my hx hy r => ?_, build_nested _ xs ys zs, fun s m hm => ?_,
    fun shares k => Mapping.get?_merge k shares, ?_⟩
  · have hmx := hsettled (.list xs) s mx hx
    have hmy := hsettled (.list ys) t my hy
    obtain ⟨as, has, rfl⟩ := build_list_ok hx
    obtain ⟨bs, hbs, rfl⟩ := build_list_ok hy
    obtain ⟨as', has', hasEq⟩ := (hlayers xs).from_any has r
    obtain ⟨bs', hbs', hbsEq⟩ := (hlayers ys).from_any hbs (after (buildLayers _ xs) r)
    have hm := build_append_ok has' hbs'
    refine ⟨_, hm, fun p context => ?_⟩
    refine ⟨merged p (contextOf context) as, merged p (contextOf context) bs, ?_, ?_, ?_,
      fun a b ha hb => Mapping.overlay_eq (merged_distinct ha) (merged_distinct hb)⟩
    · rw [← value_layered]
      exact evalIn_yields p _ _ hmx
    · rw [← value_layered]
      exact evalIn_yields p _ _ hmy
    · have hvalue : (layered (as' ++ bs')).value p (contextOf context)
          = (merged p (contextOf context) (as ++ bs)).map .object := by
        rw [value_layered, ← merged_anonymous, List.map_append, hasEq, hbsEq, ← List.map_append,
          merged_anonymous]
      rw [← merged_append, ← hvalue]
      exact evalIn_yields p _ _ (hsettled _ r _ hm)
  · obtain ⟨layers, hlayers, rfl⟩ := build_list_ok hm
    rw [buildLayers_eq] at hlayers
    exact ⟨layers, hlayers, fun context => eval_layered context layers⟩
  · rintro context e j b h
    refine ⟨share_outcome h, ?_⟩
    rintro rfl
    exact share_skipped h

/-- Two lists of one mapping each, with a key in common. -/
theorem two_lists_of_mappings_merge :
    ∃ m, outcome (build (Logic.build Logic.ordinary [] .null)
        (.list [.object [(.text "a", .int 1)], .object [(.text "b", .int 2), (.text "a", .int 3)]]))
        ⟨0, [], false⟩ = .ok m
      ∧ outcome (m.eval .null) Journal.empty
        = .ok (.object [(.text "a", .int 3), (.text "b", .int 2)]) := by
  have hx (draft : Draft) :
      outcome (build (Logic.build Logic.ordinary [] .null) (.list [.object [(.text "a", .int 1)]])) draft
        = .ok (.layered [(none, .keyed [(.text "a", ⟨.int 1, [], [], .literal (.int 1)⟩)])]) := by
    simp [build, buildLayers_eq, buildLayer, buildCondition, ofFields, buildEntries_eq, conditionKey,
      Blueprint.logicKey, Mapping.get?, Mapping.erase, BEq.beq, Key.identity, Logic.build_int, Except.map]
  have hy (draft : Draft) :
      outcome (build (Logic.build Logic.ordinary [] .null)
          (.list [.object [(.text "b", .int 2), (.text "a", .int 3)]])) draft
        = .ok (.layered [(none, .keyed [(.text "b", ⟨.int 2, [], [], .literal (.int 2)⟩),
            (.text "a", ⟨.int 3, [], [], .literal (.int 3)⟩)])]) := by
    simp [build, buildLayers_eq, buildLayer, buildCondition, ofFields, buildEntries_eq, conditionKey,
      Blueprint.logicKey, Mapping.get?, Mapping.erase, BEq.beq, Key.identity, Logic.build_int,
      outcome_bind, Except.map]
  obtain ⟨m, hm, heval⟩ := (lists_of_maps_merge_in_order Logic.ordinary .null
    [.object [(.text "a", .int 1)]] [.object [(.text "b", .int 2), (.text "a", .int 3)]] []).1
    ⟨0, [], false⟩ ⟨0, [], false⟩ _ _ (hx _) (hy _) ⟨0, [], false⟩
  obtain ⟨ex, ey, hex, hey, hem, -⟩ := heval Journal.empty.policy .null
  have hleft : Except.ok (Value.object [(.text "a", .int 1)]) = Except.map .object ex :=
    (hex Journal.empty rfl).1
  have hright : Except.ok (Value.object [(.text "b", .int 2), (.text "a", .int 3)])
      = Except.map .object ey :=
    (hey Journal.empty rfl).1
  refine ⟨m, hm, ?_⟩
  rw [(hem Journal.empty rfl).1]
  cases ex with
  | error e => cases hleft
  | ok a =>
    cases ey with
    | error e => cases hright
    | ok b =>
      obtain rfl := Value.object.inj (Except.ok.inj hleft)
      obtain rfl := Value.object.inj (Except.ok.inj hright)
      rfl

end Laws

end Rulebook.LogicMap
