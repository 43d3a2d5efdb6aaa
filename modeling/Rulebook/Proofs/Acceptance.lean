-- The compiler accepts its grammar and nothing else. It goes through a
-- definition in document order, reports the paths it meets, and stops at the
-- first definition that something is wrong with.
import Rulebook.Proofs.Grammar
import Rulebook.Proofs.Survey

namespace Rulebook

/-! ## Operations and their shapes -/

/-- A factory makes its blueprints from operands of a shape. -/
def Shape.MadeBy (operation : String) (f : Factory) : Shape → Prop
  | .path => f = .configuredPath
  | .template => f = .form Blueprint.template
  | .quoted => f = .form Blueprint.literal
  | .one => ∃ assemble, ∀ setup v, f.blueprint setup v = .ok ⟨[], [v], assemble⟩
  | .operands count => ∃ assemble, ∀ setup v, f.blueprint setup v = (do
      let xs ← Blueprint.operands operation count v
      return ⟨[], xs, assemble⟩)
  | .items => f = .form Blueprint.array
  | .fields => f = .form Blueprint.object

theorem standard_shapes :
    List.Forall₂ (fun o s => o.name = s.1 ∧ s.2.MadeBy s.1 o.factory) Operation.standard shapes := by
  unfold Operation.standard shapes
  refine .cons ⟨rfl, rfl⟩ <| .cons ⟨rfl, rfl⟩ <| .cons ⟨rfl, rfl⟩ <| .cons ⟨rfl, ?branch⟩ <|
    .cons ⟨rfl, ?typeof⟩ <| .cons ⟨rfl, ?not⟩ <| .cons ⟨rfl, ?and⟩ <| .cons ⟨rfl, ?or⟩ <|
    .cons ⟨rfl, ?eq⟩ <| .cons ⟨rfl, ?gt⟩ <| .cons ⟨rfl, ?gte⟩ <| .cons ⟨rfl, ?lt⟩ <|
    .cons ⟨rfl, ?lte⟩ <| .cons ⟨rfl, rfl⟩ <| .cons ⟨rfl, rfl⟩ <| .cons ⟨rfl, ?property⟩ <|
    .cons ⟨rfl, ?map⟩ <| .cons ⟨rfl, ?debug⟩ <| .cons ⟨rfl, ?capitalize⟩ <|
    .cons ⟨rfl, ?concat⟩ <| .cons ⟨rfl, ?split⟩ <| .cons ⟨rfl, ?join⟩ .nil
  all_goals exact ⟨_, fun _ _ => rfl⟩

/-- The path that an operand of a shape is. -/
def Shape.own : Shape → Value → List (List String)
  | .path, .text s => [Text.dotted s]
  | _, _ => []

/-- The blueprint of an operand has its parts, or the operand is refused. -/
theorem Shape.MadeBy.blueprint {operation : String} {f : Factory} {shape : Shape}
    (h : shape.MadeBy operation f) {setup : Compile.Setup} {parent : String}
    (hparent : setup.parentKey = .ok parent) (v : Value) :
    Related Eq (fun b ps => b.parts = ps ∧ b.lookups = shape.own v) (f.blueprint setup v)
      (shape.parts operation v) := by
  cases shape with
  | path =>
    obtain rfl : f = .configuredPath := h
    simp only [Factory.blueprint, hparent, ok_bind]
    cases v <;> first | exact ⟨rfl, rfl⟩ | exact rfl
  | template =>
    obtain rfl : f = .form Blueprint.template := h
    cases v <;> first | exact ⟨rfl, rfl⟩ | exact rfl
  | quoted =>
    obtain rfl : f = .form Blueprint.literal := h
    exact ⟨rfl, rfl⟩
  | one =>
    obtain ⟨assemble, hf⟩ := h
    rw [hf]
    exact ⟨rfl, rfl⟩
  | operands count =>
    obtain ⟨assemble, hf⟩ := h
    rw [hf]
    cases v with
    | list xs =>
      simp only [Blueprint.operands, Shape.parts]
      split
      · exact ⟨rfl, rfl⟩
      · exact rfl
    | _ => exact rfl
  | items =>
    obtain rfl : f = .form Blueprint.array := h
    cases v <;> first | exact ⟨rfl, rfl⟩ | exact rfl
  | fields =>
    obtain rfl : f = .form Blueprint.object := h
    cases v <;> first | exact ⟨rfl, rfl⟩ | exact rfl

/-- A key names an operation of its shape, or none at all. -/
theorem shapeOf_spec (key : Key) :
    match shapeOf key with
    | some shape => ∃ f, Registry.standard.factory? key = some f ∧ shape.MadeBy key.plain f
    | none => Registry.standard.factory? key = none := by
  cases key with
  | text name =>
    simp only [shapeOf, Registry.factory?, Registry.find?, Registry.standard]
    have hshapes := standard_shapes
    generalize Operation.standard = os at hshapes
    generalize shapes = ss at hshapes
    induction hshapes with
    | nil => rfl
    | @cons o s os ss hs _ ih =>
      obtain ⟨hname, hmade⟩ := hs
      obtain ⟨operation, shape⟩ := s
      simp only at hname
      simp only [List.map_cons, Mapping.get?, hname]
      cases heq : operation == name with
      | true =>
        obtain rfl := eq_of_beq heq
        exact ⟨o.factory, rfl, hmade⟩
      | false => exact ih
  | _ => rfl

theorem shapeOf_literal : shapeOf (.text Operation.literalName) = some .quoted := by decide

theorem shapeOf_path : shapeOf (.text Operation.pathName) = some .path := by decide

theorem shapeOf_template : shapeOf (.text Operation.templateName) = some .template := by decide

theorem shapeOf_array : shapeOf (.text Operation.arrayName) = some .items := by decide

/-! ## One definition -/

namespace Compile

/-- The definitions right beneath a definition that nothing is wrong with. -/
def inspect (marker : String) (d : Value) : Except Fault (List Value) :=
  match complaint marker d with
  | some e => .error e
  | none => .ok (children marker d)

section Texts

variable {marker s : String}

theorem toList_of_path {path : String} (h : pathOf? s = some path) :
    s.toList = '$' :: path.toList := by
  unfold pathOf? at h
  split at h
  · rename_i hs
    obtain rfl := Option.some.inj h
    rw [hs, String.toList_ofList]
  · cases h

theorem selectText_path {path : String} (h : pathOf? s = some path) :
    selectText marker s = .ok (.text Operation.pathName, .text path) := by
  unfold selectText
  rw [toList_of_path h]
  simp only [String.ofList_toList]

theorem selectText_other (h : pathOf? s = none) :
    selectText marker s =
      if marker.toList <+: s.toList then
        if s.length < 2 ∨ ¬ marker.toList <:+ s.toList then .error (.openTemplate (.text s) marker)
        else .ok (.text Operation.templateName, .text (String.ofList s.toList.tail.dropLast))
      else .ok (.text Operation.literalName, .text s) := by
  unfold selectText
  split
  · rename_i hs
    simp [pathOf?, hs] at h
  · simp only [List.isPrefixOf_iff_prefix, String.length_toList, Bool.or_eq_true, decide_eq_true_eq,
      Bool.not_eq_true', Bool.eq_false_iff, ne_eq, List.isSuffixOf_iff_suffix]

end Texts

section Standard

variable {setup : Setup} {parent : String}

theorem blueprint_of_select (hreg : setup.registry = Registry.standard)
    (hparent : setup.parentKey = .ok parent) {d operand : Value} {name : Key} {shape : Shape}
    (hselect : select setup.marker d = .ok (name, operand)) (hshape : shapeOf name = some shape)
    (hparts : inspect setup.marker d = shape.parts name.plain operand)
    (hown : (ownPath? d).toList = shape.own operand) :
    Related Eq (fun b ps => b.parts = ps ∧ b.lookups = (ownPath? d).toList) (blueprint setup d)
      (inspect setup.marker d) := by
  have hspec := shapeOf_spec name
  rw [hshape] at hspec
  obtain ⟨f, hf, hmade⟩ := hspec
  simp only [blueprint, hselect, ok_bind, hreg, hf, hparts, hown]
  exact hmade.blueprint hparent operand

theorem blueprint_inspect_text (hreg : setup.registry = Registry.standard)
    (hparent : setup.parentKey = .ok parent) (s : String) :
    Related Eq (fun b ps => b.parts = ps ∧ b.lookups = (ownPath? (.text s)).toList)
      (blueprint setup (.text s)) (inspect setup.marker (.text s)) := by
  cases hpath : pathOf? s with
  | some path =>
    refine blueprint_of_select hreg hparent (selectText_path hpath) shapeOf_path ?_ ?_
    · simp [inspect, complaint, children, OpenText, LedText, hpath, Shape.parts]
    · simp [ownPath?, hpath, Shape.own]
  | none =>
    have hselect : selectText setup.marker s = _ := selectText_other hpath
    have hown : (ownPath? (.text s)).toList = [] := by simp [ownPath?, hpath]
    by_cases hled : setup.marker.toList <+: s.toList
    · rw [if_pos hled] at hselect
      by_cases hopen : s.length < 2 ∨ ¬ setup.marker.toList <:+ s.toList
      · rw [if_pos hopen] at hselect
        have hcomplaint : OpenText setup.marker s := ⟨⟨hpath, hled⟩, hopen⟩
        simp only [blueprint, select, hselect, inspect, complaint, if_pos hcomplaint]
        exact rfl
      · rw [if_neg hopen] at hselect
        have hclosed : ¬ OpenText setup.marker s := fun h => hopen h.2
        have hmarked : LedText setup.marker s := ⟨hpath, hled⟩
        refine blueprint_of_select hreg hparent hselect shapeOf_template ?_ hown
        simp only [inspect, complaint, children, if_neg hclosed, if_pos hmarked, Shape.parts]
    · rw [if_neg hled] at hselect
      refine blueprint_of_select hreg hparent hselect shapeOf_literal ?_ hown
      simp [inspect, complaint, children, OpenText, LedText, hled, Shape.parts, Blueprint.payloads]

/-- The compiler sees in a definition what its grammar says. -/
theorem blueprint_inspect (hreg : setup.registry = Registry.standard)
    (hparent : setup.parentKey = .ok parent) (d : Value) :
    Related Eq (fun b ps => b.parts = ps ∧ b.lookups = (ownPath? d).toList) (blueprint setup d)
      (inspect setup.marker d) := by
  cases d with
  | text s => exact blueprint_inspect_text hreg hparent s
  | list xs => exact blueprint_of_select hreg hparent rfl shapeOf_array rfl rfl
  | object fs =>
    rcases fs with _ | ⟨⟨name, operand⟩, rest⟩
    · exact rfl
    · cases hshape : shapeOf name with
      | none =>
        have hspec := shapeOf_spec name
        rw [hshape] at hspec
        simp only at hspec
        simp only [blueprint, select, ok_bind, hreg, hspec, inspect, complaint, hshape]
        exact rfl
      | some shape =>
        refine blueprint_of_select hreg hparent rfl hshape ?_ ?_
        · simp only [inspect, complaint, children, hshape]
          cases shape.parts name.plain operand <;> rfl
        · cases shape <;> cases operand <;> simp [ownPath?, hshape, Shape.own]
  | _ => exact blueprint_of_select hreg hparent rfl shapeOf_literal rfl rfl

/-- The definitions beneath a standard operation are smaller, so a survey of
them never gives up. -/
theorem survey_eq (hreg : setup.registry = Registry.standard) (hparent : setup.parentKey = .ok parent)
    (d : Value) : survey setup d = (do
      Survey.ofBlueprint (survey setup) (← liftExcept (blueprint setup d))) := by
  rw [survey]
  have hrelated := blueprint_inspect hreg hparent d
  cases hb : blueprint setup d with
  | error e => rfl
  | ok b =>
    have hparts : b.parts = children setup.marker d := by
      unfold inspect at hrelated
      rw [hb] at hrelated
      split at hrelated
      · exact hrelated.elim
      · exact hrelated.1
    simp only [liftExcept_ok, pure_bind, Survey.ofBlueprint]
    refine congrArg _ (funext fun _ => congrArg (· >>= _) (mapM_congr fun c hc => ?_))
    rw [dif_pos (size_lt_of_child (hparts ▸ hc))]

end Standard

end Compile

/-! ## A whole definition -/

/-- How a survey of some definitions ends, and the paths it leaves: it goes
through all of them, or the first one that something is wrong with stops it. -/
inductive Scanned (marker : String) (qs : List Value) (paths : List (List String)) {α : Type} :
    Except Fault α → List (List String) → Prop
  | through (a : α) (h : ∀ q ∈ qs, complaint marker q = none) :
      Scanned marker qs paths (.ok a) (paths ++ qs.filterMap ownPath?)
  | stopped {before rest : List Value} {q : Value} {e : Fault} (hqs : qs = before ++ q :: rest)
      (h : ∀ p ∈ before, complaint marker p = none) (hq : complaint marker q = some e) :
      Scanned marker qs paths (.error e) (paths ++ before.filterMap ownPath?)

/-- A survey takes some definitions in their order. -/
def Scans {α : Type} (marker : String) (qs : List Value) (x : Survey α) : Prop :=
  ∀ paths, Scanned marker qs paths (outcome x paths) (after x paths)

namespace Scans

variable {α β : Type} {marker : String} {qs rs : List Value}

theorem pure (a : α) : Scans marker [] (Pure.pure a : Survey α) := by
  intro paths
  have hthrough : Scanned marker [] paths (.ok a) (paths ++ [].filterMap ownPath?) :=
    .through a (by simp)
  simpa using hthrough

/-- A definition that something is wrong with stops a survey. -/
theorem stop {q : Value} {e : Fault} (h : complaint marker q = some e) :
    Scans marker (q :: rs) (throw e : Survey α) := by
  intro paths
  have hstopped : Scanned (α := α) marker (q :: rs) paths (.error e) (paths ++ [].filterMap ownPath?) :=
    .stopped rfl (by simp) h
  simpa using hstopped

/-- A definition that nothing is wrong with has its path reported. -/
theorem report {q : Value} (h : complaint marker q = none) :
    Scans marker [q] (modify (· ++ (ownPath? q).toList) : Survey Unit) := by
  intro paths
  have hthrough : Scanned marker [q] paths (.ok ()) (paths ++ [q].filterMap ownPath?) :=
    .through () (by simpa using h)
  have hown : [q].filterMap ownPath? = (ownPath? q).toList := by
    cases hq : ownPath? q <;> simp [hq]
  rwa [hown] at hthrough

theorem bind {x : Survey α} {f : α → Survey β} (hx : Scans marker qs x)
    (hf : ∀ a, Scans marker rs (f a)) : Scans marker (qs ++ rs) (x >>= f) := by
  intro paths
  rw [outcome_bind, after_bind]
  have hfirst := hx paths
  generalize outcome x paths = r at hfirst
  generalize after x paths = left at hfirst
  cases hfirst with
  | through a hqs =>
    have hsecond := hf a (paths ++ qs.filterMap ownPath?)
    simp only
    generalize outcome (f a) (paths ++ qs.filterMap ownPath?) = r' at hsecond
    generalize after (f a) (paths ++ qs.filterMap ownPath?) = left' at hsecond
    cases hsecond with
    | through b hrs =>
      rw [List.append_assoc, ← List.filterMap_append]
      exact .through b (List.forall_mem_append.mpr ⟨hqs, hrs⟩)
    | @stopped before rest q e hsplit hbefore hq =>
      rw [List.append_assoc, ← List.filterMap_append]
      exact .stopped (by rw [hsplit, List.append_assoc]) (List.forall_mem_append.mpr ⟨hqs, hbefore⟩) hq
  | stopped hsplit hbefore hq =>
    exact .stopped (by rw [hsplit, List.append_assoc, List.cons_append]) hbefore hq

theorem mapM {f : α → Survey β} {g : α → List Value} {xs : List α}
    (h : ∀ x ∈ xs, Scans marker (g x) (f x)) : Scans marker (xs.flatMap g) (xs.mapM f) := by
  induction xs with
  | nil => exact Scans.pure []
  | cons x xs ih =>
    rw [List.mapM_cons, List.flatMap_cons]
    refine (h x (by simp)).bind fun y => ?_
    have hrest := (ih fun x' hx' => h x' (List.mem_cons_of_mem _ hx')).bind fun ys => Scans.pure (y :: ys)
    rwa [List.append_nil] at hrest

end Scans

namespace Compile

variable {setup : Setup} {parent : String}

/-- A survey takes a definition and all definitions beneath it in document
order. -/
theorem survey_scans (hreg : setup.registry = Registry.standard)
    (hparent : setup.parentKey = .ok parent) (d : Value) :
    Scans setup.marker (outline setup.marker d) (survey setup d) := by
  induction hd : d.size using Nat.strongRecOn generalizing d with
  | _ size ih =>
    have hrelated := blueprint_inspect hreg hparent d
    rw [outline_eq, survey_eq hreg hparent]
    unfold inspect at hrelated
    cases hcomplaint : complaint setup.marker d with
    | some e =>
      rw [hcomplaint] at hrelated
      cases hb : blueprint setup d with
      | ok b => rw [hb] at hrelated; exact hrelated.elim
      | error e' =>
        rw [hb] at hrelated
        obtain rfl : e' = e := hrelated
        exact Scans.stop hcomplaint
    | none =>
      rw [hcomplaint] at hrelated
      cases hb : blueprint setup d with
      | error e => rw [hb] at hrelated; exact hrelated.elim
      | ok b =>
        rw [hb] at hrelated
        obtain ⟨hparts, hlookups⟩ : b.parts = _ ∧ b.lookups = _ := hrelated
        simp only [liftExcept_ok, pure_bind, Survey.ofBlueprint, hparts, hlookups]
        refine (Scans.report hcomplaint).bind fun _ => ?_
        have hbeneath : Scans setup.marker ((children setup.marker d).flatMap (outline setup.marker))
            ((children setup.marker d).mapM (survey setup)) :=
          Scans.mapM fun c hc => ih c.size (hd ▸ size_lt_of_child hc) c rfl
        have hassembled := hbeneath.bind fun ns => Scans.pure (b.assemble ns)
        rwa [List.append_nil] at hassembled

/-- Compilation succeeds exactly for the well-formed definitions, and reports
all paths of such a definition in document order. Else it fails at the first
definition that something is wrong with, after the paths that stand before it. -/
theorem compiler_accepts_its_grammar (marker parent : String) (sink : Sink) (d : Value)
    (draft : Draft) :
    let compiled := compile ⟨Registry.standard, marker, .ok parent, sink⟩ .plain d
    ((∃ n, outcome compiled draft = .ok n) ↔ WellFormed marker d)
      ∧ (WellFormed marker d →
          Tells draft.notices (after compiled draft) ((outline marker d).filterMap ownPath?))
      ∧ (¬ WellFormed marker d → ∃ before q rest e, outline marker d = before ++ q :: rest
          ∧ (∀ p ∈ before, complaint marker p = none) ∧ complaint marker q = some e
          ∧ outcome compiled draft = .error e
          ∧ Tells draft.notices (after compiled draft) (before.filterMap ownPath?)) := by
  intro compiled
  let setup : Setup := ⟨Registry.standard, marker, .ok parent, sink⟩
  have hsurveyed : SurveyedBy draft.notices compiled (survey setup d) :=
    compile_surveyed (Registry.standard_all fun _ => True) (show Mode.plain ≠ .replaced by nofun) d
  have hscans : Scans setup.marker (outline setup.marker d) (survey setup d) := survey_scans rfl rfl d
  obtain ⟨hend, htells⟩ := hsurveyed draft [] ⟨[], rfl, rfl⟩
  have hscanned := hscans []
  generalize outcome (survey setup d) [] = r at hend hscanned
  generalize after (survey setup d) [] = paths at htells hscanned
  cases hscanned with
  | through m h =>
    have hwell : WellFormed marker d := (wellFormed_iff marker d).mpr h
    cases hn : outcome compiled draft with
    | error e => rw [hn] at hend; exact hend.elim
    | ok n => exact ⟨iff_of_true ⟨n, rfl⟩ hwell, fun _ => htells, fun hill => absurd hwell hill⟩
  | @stopped before rest q e hsplit hbefore hq =>
    have hmem : q ∈ before ++ q :: rest := by simp
    rw [← hsplit] at hmem
    have hill : ¬ WellFormed marker d := fun hwell => by
      have hnone := (wellFormed_iff marker d).mp hwell q hmem
      rw [hq] at hnone
      cases hnone
    cases hn : outcome compiled draft with
    | ok n => rw [hn] at hend; exact hend.elim
    | error e' =>
      rw [hn] at hend
      obtain rfl : e' = e := hend
      refine ⟨iff_of_false (fun ⟨n, h⟩ => by cases h) hill, fun hwell => absurd hwell hill, fun _ => ?_⟩
      exact ⟨before, q, rest, e', hsplit, hbefore, hq, rfl, htells⟩

end Compile
end Rulebook
