-- What a failed compilation is blamed on: the first definition that something
-- is wrong with, by the class of its fault. Two operations take their operand
-- for a text without looking, and fail on any other one as if by accident.
import Rulebook.Proofs.Acceptance
import Rulebook.Proofs.Building

namespace Rulebook

/-! ## What stands in a writable definition -/

namespace Value

theorem writableItems_eq (xs : List Value) : writableItems xs = xs.all writable := by
  induction xs with
  | nil => rfl
  | cons x xs ih => simp [writableItems, ih]

theorem writableFields_eq (fs : Fields) :
    writableFields fs = fs.all fun e => e.1.writable && e.2.writable := by
  induction fs with
  | nil => rfl
  | cons e fs ih => simp [writableFields, ih]

theorem writable_item {xs : List Value} (h : (Value.list xs).writable = true) {x : Value}
    (hx : x ∈ xs) : x.writable = true := by
  rw [writable, writableItems_eq, List.all_eq_true] at h
  exact h x hx

theorem writable_entry {fs : Fields} (h : (Value.object fs).writable = true) {e : Key × Value}
    (he : e ∈ fs) : e.1.writable = true ∧ e.2.writable = true := by
  rw [writable, writableFields_eq, List.all_eq_true] at h
  exact Bool.and_eq_true_iff.mp (h e he)

theorem writable_key {k : Key} (h : k.writable = true) : k.toValue.writable = true := by
  cases k with
  | int n => exact h
  | _ => rfl

end Value

theorem Blueprint.writable_payload {v c : Value} (hv : v.writable = true) (h : c ∈ payloads v) :
    c.writable = true :=
  mem_payloads (P := fun v => v.writable = true) (fun _ hxs _ hx => Value.writable_item hxs hx)
    (fun _ hfs _ he => (Value.writable_entry hfs he).2) hv h

namespace Shape

theorem writable_part {operation : String} {shape : Shape} {v c : Value} {ps : List Value}
    (hv : v.writable = true) (h : shape.parts operation v = .ok ps) (hc : c ∈ ps) :
    c.writable = true := by
  unfold parts at h
  split at h
  case h_2 | h_4 | h_8 | h_10 | h_12 => cases h
  case h_1 =>
    obtain rfl := Except.ok.inj h
    cases hc
  case h_3 s =>
    obtain rfl := Except.ok.inj h
    obtain ⟨name, -, rfl⟩ := List.mem_map.mp hc
    rfl
  case h_5 =>
    obtain rfl := Except.ok.inj h
    exact Blueprint.writable_payload hv hc
  case h_6 =>
    obtain rfl := Except.ok.inj h
    obtain rfl := List.mem_singleton.mp hc
    exact hv
  case h_7 count xs =>
    split at h
    · obtain rfl := Except.ok.inj h
      exact Value.writable_item hv hc
    · cases h
  case h_9 xs =>
    obtain rfl := Except.ok.inj h
    exact Value.writable_item hv hc
  case h_11 fs =>
    obtain rfl := Except.ok.inj h
    obtain ⟨e, he, rfl⟩ := List.mem_map.mp hc
    exact (Value.writable_entry hv he).2

end Shape

theorem writable_child {marker : String} {d c : Value} (hd : d.writable = true)
    (h : c ∈ children marker d) : c.writable = true := by
  unfold children at h
  split at h
  · split at h
    · obtain ⟨name, -, rfl⟩ := List.mem_map.mp h
      rfl
    · cases h
  · exact Value.writable_item hd h
  · rename_i name operand rest
    have hoperand := (Value.writable_entry hd (List.mem_cons_self (a := (name, operand)))).2
    cases hshape : shapeOf name with
    | none => rw [hshape] at h; cases h
    | some shape =>
      rw [hshape] at h
      cases hparts : shape.parts name.plain operand with
      | error e => simp [hparts, Except.toOption] at h
      | ok ps => exact Shape.writable_part hoperand hparts (by simpa [hparts, Except.toOption] using h)
  · cases h

/-- Whatever stands in a writable definition is writable. -/
theorem writable_outline {marker : String} {d : Value} (hd : d.writable = true) :
    ∀ q ∈ outline marker d, q.writable = true := by
  induction hsize : d.size using Nat.strongRecOn generalizing d with
  | _ size ih =>
    intro q hq
    rw [outline_eq] at hq
    rcases List.mem_cons.mp hq with rfl | hq
    · exact hd
    · obtain ⟨c, hc, hq⟩ := List.mem_flatMap.mp hq
      exact ih c.size (hsize ▸ size_lt_of_child hc) (writable_child hd hc) rfl q hq

/-! ## Classes of complaints -/

/-- The class of the fault of an operand that does not have a shape. -/
def Shape.faultClass : Shape → Fault.Class
  | .path => .attribute
  | .template => .type
  | _ => .invalidDefinition

/-- The class of the fault of a definition that something is wrong with. -/
def faultClass : Value → Fault.Class
  | .text _ => .openTemplate
  | .object ((name, _) :: _) => ((shapeOf name).map Shape.faultClass).getD .unknownOperation
  | _ => .invalidDefinition

/-- Whether the operation of a definition takes its operand for a text without
looking. -/
def takesText : Value → Bool
  | .object ((name, _) :: _) => shapeOf name == some .path || shapeOf name == some .template
  | _ => false

/-- A fault shows if the values in its message can be shown. -/
theorem classOf_shown {f : Fault} (h : ∀ v ∈ f.shown, v.writable = true) : f.classOf = f.kind := by
  have hall : f.shown.all Value.writable = true := List.all_eq_true.mpr h
  simp only [Fault.classOf, Fault.settled, hall, if_true]

theorem Shape.parts_class {operation : String} {shape : Shape} {v : Value} {e : Fault}
    (hv : v.writable = true) (h : shape.parts operation v = .error e) :
    e.classOf = shape.faultClass := by
  have hclass (f : Fault) (hshown : f.shown = [v]) : f.classOf = f.kind := by
    apply classOf_shown
    rw [hshown]
    simpa using hv
  unfold Shape.parts at h
  split at h
  case h_1 | h_3 | h_5 | h_6 | h_9 | h_11 => cases h
  case h_2 | h_4 =>
    obtain rfl := Except.error.inj h
    exact classOf_shown (by simp [Fault.shown])
  case h_7 count xs =>
    split at h
    · cases h
    · obtain rfl := Except.error.inj h
      exact hclass _ rfl
  case h_8 | h_10 | h_12 =>
    obtain rfl := Except.error.inj h
    exact hclass _ rfl

/-- What is wrong with a writable definition has the class for it. -/
theorem complaint_class {marker : String} {q : Value} {e : Fault} (hq : q.writable = true)
    (h : complaint marker q = some e) : e.classOf = faultClass q := by
  unfold complaint at h
  split at h
  case h_1 s =>
    split at h
    · obtain rfl := Option.some.inj h
      exact classOf_shown (by simpa [Fault.shown] using hq)
    · cases h
  case h_2 =>
    obtain rfl := Option.some.inj h
    exact classOf_shown (by simpa [Fault.shown] using hq)
  case h_3 name operand rest =>
    obtain ⟨hname, hoperand⟩ := Value.writable_entry hq (List.mem_cons_self (a := (name, operand)))
    cases hshape : shapeOf name with
    | some shape =>
      rw [hshape] at h
      simp only at h
      split at h
      · cases h
      · rename_i f hparts
        obtain rfl := Option.some.inj h
        simp only [faultClass, hshape, Option.map_some, Option.getD_some]
        exact Shape.parts_class hoperand hparts
    | none =>
      rw [hshape] at h
      obtain rfl := Option.some.inj h
      simp only [faultClass, hshape, Option.map_none, Option.getD_none]
      refine classOf_shown fun v hv => ?_
      simp only [Fault.shown, List.mem_cons, List.not_mem_nil, or_false] at hv
      rcases hv with rfl | rfl
      · exact Value.writable_key hname
      · exact hq
  case h_4 => cases h

/-- A definition is blamed by name unless its operation takes its operand for
a text. -/
theorem isDefinitionFault_eq {q : Value} {e : Fault} (h : e.classOf = faultClass q) :
    e.isDefinitionFault = !takesText q := by
  unfold Fault.isDefinitionFault
  rw [h]
  cases q with
  | object fs =>
    cases fs with
    | nil => rfl
    | cons entry rest =>
      simp only [faultClass, takesText]
      cases shapeOf entry.1 with
      | none => rfl
      | some shape => cases shape <;> rfl
  | _ => rfl

/-- A fault of a compilation is blamed on the first definition that something
is wrong with, by the class for it. -/
def Blames (marker : String) (d : Value) (e : Fault) : Prop :=
  ∃ before q rest, outline marker d = before ++ q :: rest
    ∧ (∀ p ∈ before, complaint marker p = none) ∧ complaint marker q = some e
    ∧ e.classOf = faultClass q ∧ e.isDefinitionFault = !takesText q

theorem Blames.isDefinitionFault {marker : String} {d : Value} {e : Fault} (h : Blames marker d e)
    (hd : ∀ q ∈ outline marker d, takesText q = true → complaint marker q = none) :
    e.isDefinitionFault = true := by
  obtain ⟨before, q, rest, hsplit, -, hq, -, hfault⟩ := h
  have hmem : q ∈ outline marker d := by
    rw [hsplit]
    simp
  rw [hfault, Bool.not_eq_true']
  by_contra htext
  rw [hd q hmem (by simpa using htext)] at hq
  cases hq

namespace Compile

theorem survey_blames {setup : Setup} {parent : String} (hreg : setup.registry = Registry.standard)
    (hparent : setup.parentKey = .ok parent) {d : Value} (hd : d.writable = true) {e : Fault}
    (h : outcome (survey setup d) [] = .error e) : Blames setup.marker d e := by
  have hscans : Scans setup.marker (outline setup.marker d) (survey setup d) :=
    survey_scans hreg hparent d
  have hscanned := hscans []
  rw [h] at hscanned
  generalize after (survey setup d) [] = paths at hscanned
  cases hscanned with
  | @stopped before rest q _ hsplit hbefore hq =>
    have hmem : q ∈ outline setup.marker d := by
      rw [hsplit]
      simp
    have hclass := complaint_class (writable_outline hd q hmem) hq
    exact ⟨before, q, rest, hsplit, hbefore, hq, hclass, isDefinitionFault_eq hclass⟩

end Compile

namespace Logic

/-- A definition that does not compile is blamed on what stands first in it and
is wrong. So the fault is one of definitions, unless an operation for texts was
given something else: that shows as a missing attribute or a wrong type. Only
definitions with an integer that is too long to be read have no text. -/
theorem compile_faults_name_the_definition (around : Surroundings) (settings : LogicSettings)
    (hset : around.settings = .ok settings) (base : Value) (fields : Fields)
    (hbase : Entries.ofValue base = .ok fields) (d : Value) (hd : d.writable = true) (draft : Draft) :
    (∀ e, outcome (Compile.compile (setup around Registry.standard settings) .plain d) draft
          = .error e → Blames settings.marker d e)
      ∧ (∀ e, outcome (build around [] base d) draft = .error e → Blames settings.marker d e)
      ∧ ((∀ q ∈ outline settings.marker d, takesText q = true → complaint settings.marker q = none) →
          ∀ e, outcome (Compile.compile (setup around Registry.standard settings) .plain d) draft
              = .error e ∨ outcome (build around [] base d) draft = .error e →
            e.isDefinitionFault = true) := by
  have hreg : Registry.standard.All (Factory.Regular fun _ => True) := Registry.standard_all _
  have hsurvey (e : Fault)
      (h : outcome (Compile.survey (setup around Registry.standard settings) d) [] = .error e) :
      Blames settings.marker d e := Compile.survey_blames rfl rfl hd h
  have hcompile (e : Fault)
      (h : outcome (Compile.compile (setup around Registry.standard settings) .plain d) draft
        = .error e) : Blames settings.marker d e := by
    have hsurveyed : Compile.SurveyedBy draft.notices
        (Compile.compile (setup around Registry.standard settings) .plain d)
        (Compile.survey (setup around Registry.standard settings) d) :=
      Compile.compile_surveyed hreg (by simp) d
    have hends := (hsurveyed draft [] ⟨[], rfl, rfl⟩).1
    rw [h] at hends
    cases hs : outcome (Compile.survey (setup around Registry.standard settings) d) [] with
    | ok n => rw [hs] at hends; exact hends.elim
    | error e' =>
      rw [hs] at hends
      obtain rfl : e = e' := hends
      exact hsurvey e hs
  have hbuild (e : Fault) (h : outcome (build around [] base d) draft = .error e) :
      Blames settings.marker d e := by
    have hops : Registry.standard.merged [] = .ok Registry.standard := rfl
    have hends := (build_surveyed (d := d) hbase hops hset hreg draft).1
    rw [h] at hends
    cases hs : outcome (Compile.survey (setup around Registry.standard settings) d) [] with
    | ok n => rw [hs] at hends; exact hends.elim
    | error e' =>
      rw [hs] at hends
      obtain rfl : e = e' := hends
      exact hsurvey e hs
  refine ⟨hcompile, hbuild, fun htexts e h => ?_⟩
  rcases h with h | h
  · exact (hcompile e h).isDefinitionFault htexts
  · exact (hbuild e h).isDefinitionFault htexts

/-- A value template of anything but a text fails at the text it looks for. -/
theorem build_path_of {v : Value} (h : ∀ s, v ≠ .text s) (draft : Draft) :
    outcome (build ordinary [] .null (.object [(.text "valueTemplate", v)])) draft
      = .error (.noMethod v.typeName "split") := by
  have hbase : Entries.ofValue .null = .ok [] := rfl
  have hpath : Registry.standard.factory? (.text "valueTemplate") = some .configuredPath := rfl
  have hrefused (r : Resolver) : Blueprint.path r v = .error (.noMethod v.typeName "split") := by
    cases v with
    | text s => exact absurd rfl (h s)
    | _ => rfl
  rw [build_eq hbase rfl rfl, Compile.compile]
  simp [setup, Compile.select, hpath, Compile.ofFactory, hrefused, outcome_bind]

/-- Null for the path of a value template is blamed on that template, but not
by name. -/
theorem null_for_a_path_is_blamed :
    Blames Settings.defaultMarker (.object [(.text "valueTemplate", .null)])
        (.noMethod "NoneType" "split")
      ∧ takesText (.object [(.text "valueTemplate", .null)]) = true :=
  ⟨(compile_faults_name_the_definition ordinary _ rfl .null [] rfl _ rfl ⟨0, [], false⟩).2.1 _
    (build_path_of (by simp) ⟨0, [], false⟩), rfl⟩

/-- A number there lets compilation fail with a fault that is none of
definitions. -/
theorem number_for_a_path_escapes :
    ∃ e, outcome (build ordinary [] .null (.object [(.text "valueTemplate", .int 5)])) ⟨0, [], false⟩
        = .error e ∧ e.classOf = .attribute ∧ e.isDefinitionFault = false :=
  ⟨_, build_path_of (by simp) ⟨0, [], false⟩, rfl, rfl⟩

end Logic
end Rulebook
