-- Paths through scopes. A scope shows its own entries and, where it has none,
-- those of the scope that it holds under the parent key. A path with
-- inheritance is a plain path on which every scope is as flat as it shows.
import Rulebook.Proofs.Grammar
import Rulebook.Proofs.Independence

namespace Rulebook

/-- No two keys agree in any mapping that stands in a value. -/
def Value.Keyed (v : Value) : Prop := ∀ fs, Value.Inside (.object fs) v → Mapping.Distinct fs

namespace Path

/-! ## Flat scopes -/

/-- All that a scope shows: its own entries over those of its parent, if that
is a scope. -/
def flat (parent : Key) (fs : Fields) : Fields :=
  match _h : Mapping.get? parent fs with
  | some (.object gs) => Mapping.overlay (flat parent gs) fs
  | _ => fs
termination_by (Value.object fs).size
decreasing_by
  obtain ⟨e, he, heq⟩ := Mapping.mem_of_get? _h
  rw [← heq]
  exact Value.size_lt_object he

/-- A value as it shows where a path meets it. -/
def flattened (parent : Key) : Value → Value
  | .object fs => .object (flat parent fs)
  | v => v

section Flat

variable {parent : Key} {fs gs : Fields}

theorem flat_child (h : Mapping.get? parent fs = some (.object gs)) :
    flat parent fs = Mapping.overlay (flat parent gs) fs := by
  rw [flat]
  split
  · rename_i gs' hgs
    rw [h] at hgs
    obtain rfl := Value.object.inj (Option.some.inj hgs)
    rfl
  · rename_i hnone
    exact absurd h (hnone gs)

theorem flat_root (h : ∀ gs, Mapping.get? parent fs ≠ some (.object gs)) : flat parent fs = fs := by
  rw [flat]
  split
  · rename_i gs hgs
    exact absurd hgs (h gs)
  · rfl

end Flat

/-- An own entry comes first, then one of a scope above. -/
theorem field?_overlay (segment : Value) (under : Fields) {top : Fields} (h : Mapping.Distinct top) :
    field? segment (Mapping.overlay under top) = (field? segment top).or (field? segment under) := by
  unfold field?
  cases segment.key? with
  | none => rfl
  | some k =>
    simp only [Option.bind_some]
    rw [Mapping.get?_overlay, Mapping.get?_reverse k h]

/-- What is found in a scope or above it is what the flat scope holds. -/
theorem inScope_flat (parent : Key) (segment : Value) {fs : Fields} (h : (Value.object fs).Keyed) :
    inScope parent segment (.object fs) = (field? segment (flat parent fs)).getD .undefined := by
  -- along the chain of ancestors, which `flat` goes up as well
  induction fs using flat.induct parent with
  | case1 fs gs hget ih =>
    have hgs : (Value.object gs).Keyed := by
      intro hs hhs
      obtain ⟨e, he, heq⟩ := Mapping.mem_of_get? hget
      exact h hs (.entry he (heq ▸ hhs))
    rw [flat_child hget, field?_overlay segment _ (h fs .here), inScope]
    cases field? segment fs with
    | some v => rfl
    | none =>
      simp only [aboveScope_eq, hget, Option.none_or]
      exact ih hgs
  | case2 fs hnone =>
    rw [flat_root fun gs hget => hnone gs hget, inScope]
    cases field? segment fs with
    | some v => rfl
    | none =>
      simp only [aboveScope_eq, Option.getD_none]
      cases hget : Mapping.get? parent fs with
      | none => rfl
      | some v =>
        cases v with
        | object gs => exact absurd hget (hnone gs)
        | _ => rfl

theorem stepInherited_flattened (parent : Key) {v : Value} (h : v.Keyed) (segment : Value) :
    stepInherited parent v segment = step (flattened parent v) segment := by
  cases v with
  | object fs =>
    unfold stepInherited step flattened
    simp only
    rw [inScope_flat parent segment h]
  | _ => rfl

/-! ## What a step leads to -/

section Steps

variable {parent : Key} {v w segment : Value} {fs : Fields}

theorem mem_of_field? (h : field? segment fs = some w) : ∃ e ∈ fs, e.2 = w := by
  obtain ⟨k, -, hget⟩ := Option.bind_eq_some_iff.mp h
  exact Mapping.mem_of_get? hget

/-- No mapping stands in what is no part of a value. -/
theorem property_inside (name : String) (h : (Value.object fs).Inside (property v name)) : False := by
  have hint (receiver : Receiver) (n : Boxed Int)
      (h : (Value.object fs).Inside (intProperty receiver n name)) : False := by
    unfold intProperty at h
    split_ifs at h <;> cases h
  have hfloat (x : Boxed Double) (h : (Value.object fs).Inside (floatProperty x name)) : False := by
    unfold floatProperty at h
    split_ifs at h <;> cases h
  cases v with
  | bool b => exact hint _ _ h
  | int n => exact hint _ n h
  | float x => exact hfloat x h
  | _ => cases h

theorem inScope_inside (h : (Value.object fs).Inside (inScope parent segment v)) :
    (Value.object fs).Inside v := by
  induction v with
  | object gs ih =>
    rw [inScope] at h
    cases hfield : field? segment gs with
    | some u =>
      obtain ⟨e, he, rfl⟩ := mem_of_field? hfield
      rw [hfield] at h
      exact .entry he h
    | none =>
      simp only [hfield, aboveScope_eq] at h
      cases hget : Mapping.get? parent gs with
      | none => rw [hget] at h; cases h
      | some u =>
        obtain ⟨e, he, rfl⟩ := Mapping.mem_of_get? hget
        rw [hget] at h
        exact .entry he (ih e he h)
  | _ => cases h

/-- A step stays in a value: all mappings that it leads to stand there. -/
theorem step_inside (hstep : stepInherited parent v segment = .ok w)
    (h : (Value.object fs).Inside w) : (Value.object fs).Inside v := by
  cases v with
  | object gs =>
    unfold stepInherited at hstep
    cases hhash : hashable segment with
    | error e => rw [hhash] at hstep; cases hstep
    | ok _ =>
      rw [hhash] at hstep
      obtain rfl := Except.ok.inj hstep
      exact inScope_inside h
  | list xs =>
    unfold stepInherited step at hstep
    cases hindex : index? segment with
    | error e => rw [hindex] at hstep; cases hstep
    | ok i =>
      rw [hindex] at hstep
      obtain rfl := Except.ok.inj hstep
      cases i with
      | none => cases h
      | some i =>
        simp only [item] at h
        split at h
        · cases h
        · cases hitem : xs[i.toNat]? with
          | none => rw [hitem] at h; cases h
          | some x =>
            rw [hitem] at h
            exact .item (List.mem_of_getElem? hitem) h
  | bool _ | int _ | float _ =>
    obtain rfl := Except.ok.inj hstep
    cases segment with
    | text name => exact (property_inside name h).elim
    | _ => cases h
  | _ =>
    obtain rfl := Except.ok.inj hstep
    cases h

/-- Where there is something, ancestors are not asked. -/
theorem stepInherited_of_step (hstep : step v segment = .ok w) (hw : w ≠ .undefined) :
    stepInherited parent v segment = .ok w := by
  cases v with
  | object gs =>
    unfold step at hstep
    unfold stepInherited
    cases hhash : hashable segment with
    | error e => rw [hhash] at hstep; cases hstep
    | ok _ =>
      rw [hhash] at hstep
      obtain rfl := Except.ok.inj hstep
      rw [inScope]
      cases hfield : field? segment gs with
      | none => simp [hfield] at hw
      | some u => rfl
  | _ => exact hstep

theorem stepInherited_of_orphan (h : ∀ fs, v = .object fs → Mapping.get? parent fs = none) :
    stepInherited parent v segment = step v segment := by
  cases v with
  | object fs =>
    unfold stepInherited step
    simp only [inScope, aboveScope_eq, h fs rfl]
    cases field? segment fs <;> rfl
  | _ => rfl

end Steps

/-! ## Walks -/

/-- Two ways to follow a segment that agree on all values of a kind, which the
first one does not leave. -/
theorem walk_congr {P : Value → Prop} {f g : Value → Value → Except Fault Value}
    (hfg : ∀ v s, P v → f v s = g v s) (hP : ∀ v s w, P v → f v s = .ok w → P w) {v : Value} (hv : P v)
    (path : List Value) : walk f v path = walk g v path := by
  induction path generalizing v with
  | nil => rfl
  | cons s path ih =>
    unfold walk
    rw [← hfg v s hv]
    cases hstep : f v s with
    | error e => rfl
    | ok w =>
      simp only [ok_bind]
      split
      · rfl
      · exact ih (hP v s w hv hstep)

/-- A plain walk that is not lost is the same with ancestors. -/
theorem walk_of_found {parent : Key} {root v : Value} {path : List Value}
    (h : walk step root path = .ok v) (hv : v ≠ .undefined) :
    walk (stepInherited parent) root path = .ok v := by
  induction path generalizing root with
  | nil => exact h
  | cons s path ih =>
    unfold walk at h ⊢
    obtain ⟨w, hstep, h⟩ := bind_ok h
    split at h
    · exact absurd (Except.ok.inj h).symm hv
    · rename_i hw
      have hfound : w ≠ .undefined := by
        rintro rfl
        exact hw rfl
      rw [stepInherited_of_step hstep hfound, ok_bind, if_neg hw]
      exact ih h

end Path

/-- A path with inheritance is a plain path through flat scopes: it ends at the
same value, or at the same fault. So it finds all that the plain path finds,
and is the plain path where no mapping holds the parent key. -/
theorem inherited_paths_go_through_flat_scopes (parent : String) (root : Value) (hroot : root.Keyed)
    (path : List Value) :
    (Resolver.inherited parent).get root path
        = Path.walk (fun v s => Path.step (Path.flattened (.text parent) v) s) root path
      ∧ (∀ v, Resolver.plain.get root path = .ok v → v ≠ .undefined →
          (Resolver.inherited parent).get root path = .ok v)
      ∧ ((∀ fs, Value.Inside (.object fs) root → Mapping.contains (.text parent) fs = false) →
          (Resolver.inherited parent).get root path = Resolver.plain.get root path) := by
  refine ⟨?_, fun v h hv => Path.walk_of_found h hv, fun horphans => ?_⟩
  · refine Path.walk_congr (P := Value.Keyed) ?_ ?_ hroot path
    · intro v s hv
      exact Path.stepInherited_flattened (.text parent) hv s
    · intro v s w hv hstep fs hfs
      exact hv fs (Path.step_inside hstep hfs)
  · refine Path.walk_congr
      (P := fun v => ∀ fs, Value.Inside (.object fs) v → Mapping.contains (.text parent) fs = false)
      ?_ ?_ horphans path
    · intro v s hv
      apply Path.stepInherited_of_orphan
      rintro fs rfl
      exact Mapping.get?_of_not_contains (hv fs .here)
    · intro v s w hv hstep fs hfs
      exact hv fs (Path.step_inside hstep hfs)

/-- A child shows what its parent has, down to the parts of it. -/
theorem child_shows_an_entry_of_its_parent :
    ∃ root : Value, root.Keyed
      ∧ Path.walk (fun v s => Path.step (Path.flattened (.text "up") v) s) root
          [.text "sub", .text "deep"] = .ok (.int 3)
      ∧ Resolver.plain.get root [.text "sub", .text "deep"] = .ok .undefined
      ∧ (Resolver.inherited "up").get root [.text "name"] = .ok (.text "child")
      ∧ (Resolver.inherited "down").get root [.text "sub"] = Resolver.plain.get root [.text "sub"] := by
  let sub : Fields := [(.text "deep", .int 3)]
  let parent : Fields := [(.text "name", .text "parent"), (.text "sub", .object sub)]
  let child : Fields := [(.text "name", .text "child"), (.text "up", .object parent)]
  have hinside (fs : Fields) (h : Value.Inside (.object fs) (.object child)) :
      fs = child ∨ fs = parent ∨ fs = sub := by
    cases h with
    | here => exact Or.inl rfl
    | entry he h =>
      rcases List.mem_cons.mp he with rfl | he
      · cases h
      · obtain rfl := List.mem_singleton.mp he
        cases h with
        | here => exact Or.inr (Or.inl rfl)
        | entry he h =>
          rcases List.mem_cons.mp he with rfl | he
          · cases h
          · obtain rfl := List.mem_singleton.mp he
            cases h with
            | here => exact Or.inr (Or.inr rfl)
            | entry he h =>
              obtain rfl := List.mem_singleton.mp he
              cases h
  have hkeyed : (Value.object child).Keyed := by
    intro fs hfs
    rcases hinside fs hfs with rfl | rfl | rfl <;> decide
  have hdown : ∀ fs, Value.Inside (.object fs) (.object child) →
      Mapping.contains (.text "down") fs = false := by
    intro fs hfs
    rcases hinside fs hfs with rfl | rfl | rfl <;> decide
  refine ⟨.object child, hkeyed, ?_, rfl, ?_, ?_⟩
  · rw [← (inherited_paths_go_through_flat_scopes "up" (.object child) hkeyed _).1]
    rfl
  · exact (inherited_paths_go_through_flat_scopes "up" (.object child) hkeyed _).2.1 _ rfl (by simp)
  · exact (inherited_paths_go_through_flat_scopes "down" (.object child) hkeyed _).2.2 hdown

end Rulebook
