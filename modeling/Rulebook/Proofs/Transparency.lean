-- Debug operations change nothing but what is recorded. Any definitions
-- inside another one may stand in debug operations; it then compiles to the
-- same tree without recorders, and evaluates to the same values.
import Rulebook.Proofs.Acceptance
import Rulebook.Proofs.Building
import Rulebook.Proofs.Valuation

namespace Rulebook

/-! ## Other expressions in a literal -/

namespace Blueprint

mutual
/-- A literal with other expressions in the places of its own, and the
expressions that are left. -/
def requote : Value → List Value → Value × List Value
  | .list xs, cs => (.list (requoteItems xs cs).1, (requoteItems xs cs).2)
  | .object fs, cs =>
    match Mapping.get? logicKey fs with
    | some d => (.object (Mapping.put logicKey (cs.headD d) fs), cs.tail)
    | none => (.object (requoteFields fs cs).1, (requoteFields fs cs).2)
  | v, cs => (v, cs)
def requoteItems : List Value → List Value → List Value × List Value
  | [], cs => ([], cs)
  | x :: xs, cs =>
    let first := requote x cs
    let rest := requoteItems xs first.2
    (first.1 :: rest.1, rest.2)
def requoteFields : List (Key × Value) → List Value → List (Key × Value) × List Value
  | [], cs => ([], cs)
  | (k, v) :: fs, cs =>
    let first := requote v cs
    let rest := requoteFields fs first.2
    ((k, first.1) :: rest.1, rest.2)
end

section Fields

variable {fs : Fields} {d : Value}

theorem requote_logic (h : Mapping.get? logicKey fs = some d) (cs : List Value) :
    requote (.object fs) cs = (.object (Mapping.put logicKey (cs.headD d) fs), cs.tail) := by
  simp [requote, h]

theorem requote_fields (h : Mapping.get? logicKey fs = none) (cs : List Value) :
    requote (.object fs) cs = (.object (requoteFields fs cs).1, (requoteFields fs cs).2) := by
  simp [requote, h]

end Fields

/-- Other expressions are under no other keys. -/
theorem get?_requoteFields (key : Key) (fs : Fields) (cs : List Value) :
    Mapping.get? key (requoteFields fs cs).1 = none ↔ Mapping.get? key fs = none := by
  induction fs generalizing cs with
  | nil => rfl
  | cons e fs ih =>
    obtain ⟨k, v⟩ := e
    simp only [requoteFields, Mapping.get?]
    split
    · simp
    · exact ih _

/-- Other expressions are taken one for each. -/
theorem requote_rest (v : Value) (cs : List Value) :
    (requote v cs).2 = cs.drop (payloads v).length := by
  induction v generalizing cs with
  | list xs ih =>
    unfold requote payloads
    induction xs generalizing cs with
    | nil => rfl
    | cons x xs ihxs =>
      simp only [requoteItems, payloadsOfItems, List.length_append]
      rw [ihxs (fun y hy => ih y (List.mem_cons_of_mem _ hy)), ih x (by simp), List.drop_drop]
  | object fs ih =>
    cases hget : Mapping.get? logicKey fs with
    | some d => simp [requote_logic hget, payloads_logic hget]
    | none =>
      simp only [requote_fields hget, payloads_fields hget]
      clear hget
      induction fs generalizing cs with
      | nil => rfl
      | cons e fs ihfs =>
        simp only [requoteFields, payloadsOfFields, List.length_append]
        rw [ihfs (fun y hy => ih y (List.mem_cons_of_mem _ hy)), ih e (by simp), List.drop_drop]
  | _ => rfl

/-- The other expressions are those of the new literal. -/
theorem payloads_requote (v : Value) (cs : List Value) (h : (payloads v).length ≤ cs.length) :
    payloads (requote v cs).1 = cs.take (payloads v).length := by
  induction v generalizing cs with
  | list xs ih =>
    simp only [requote, payloads] at h ⊢
    induction xs generalizing cs with
    | nil => rfl
    | cons x xs ihxs =>
      simp only [payloadsOfItems, List.length_append] at h
      have hrest : (payloadsOfItems xs).length ≤ (cs.drop (payloads x).length).length := by
        rw [List.length_drop]
        omega
      simp only [requoteItems, payloadsOfItems, List.length_append, List.take_add, requote_rest]
      rw [ih x (by simp) cs (by omega), ihxs (fun y hy => ih y (List.mem_cons_of_mem _ hy)) _ hrest]
  | object fs ih =>
    cases hget : Mapping.get? logicKey fs with
    | some d =>
      rw [payloads_logic hget] at h ⊢
      rw [requote_logic hget]
      cases cs with
      | nil => simp at h
      | cons c cs =>
        have hput : Mapping.get? logicKey (Mapping.put logicKey c fs) = some c := by
          simp [Mapping.get?_put]
        simp [payloads_logic hput]
    | none =>
      rw [payloads_fields hget] at h ⊢
      rw [requote_fields hget, payloads_fields ((get?_requoteFields logicKey fs cs).mpr hget)]
      clear hget
      induction fs generalizing cs with
      | nil => rfl
      | cons e fs ihfs =>
        simp only [payloadsOfFields, List.length_append] at h
        have hrest : (payloadsOfFields fs).length ≤ (cs.drop (payloads e.2).length).length := by
          rw [List.length_drop]
          omega
        simp only [requoteFields, payloadsOfFields, List.length_append, List.take_add, requote_rest]
        rw [ih e (by simp) cs (by omega),
          ihfs (fun y hy => ih y (List.mem_cons_of_mem _ hy)) _ hrest]
  | _ => simp [requote, payloads]

/-- Nodes are put into the new literal as into the old one. -/
theorem quote_requote (v : Value) (cs : List Value) (ns : List Node) :
    quote (requote v cs).1 ns = quote v ns := by
  induction v generalizing cs ns with
  | list xs ih =>
    simp only [requote, quote]
    suffices hitems : quoteItems (requoteItems xs cs).1 ns = quoteItems xs ns by rw [hitems]
    induction xs generalizing cs ns with
    | nil => rfl
    | cons x xs ihxs =>
      simp only [requoteItems, quoteItems]
      rw [ih x (by simp), ihxs fun y hy => ih y (List.mem_cons_of_mem _ hy)]
  | object fs ih =>
    cases hget : Mapping.get? logicKey fs with
    | some d =>
      have hput : Mapping.get? logicKey (Mapping.put logicKey (cs.headD d) fs)
          = some (cs.headD d) := by
        simp [Mapping.get?_put]
      rw [requote_logic hget, quote_logic hput, quote_logic hget]
    | none =>
      rw [requote_fields hget, quote_fields ((get?_requoteFields logicKey fs cs).mpr hget),
        quote_fields hget]
      suffices hfields : quoteFields (requoteFields fs cs).1 ns = quoteFields fs ns by rw [hfields]
      clear hget
      induction fs generalizing cs ns with
      | nil => rfl
      | cons e fs ihfs =>
        simp only [requoteFields, quoteFields]
        rw [ih e (by simp), ihfs fun y hy => ih y (List.mem_cons_of_mem _ hy)]
  | _ => rfl

end Blueprint

/-! ## Other definitions in an operand -/

namespace Shape

/-- An operand with other definitions in the places of its parts. Texts have
none of their own. -/
def withParts : Shape → Value → List Value → Value
  | .quoted, v, cs => (Blueprint.requote v cs).1
  | .one, v, cs => cs.headD v
  | .operands _, _, cs => .list cs
  | .items, _, cs => .list cs
  | .fields, .object fs, cs => .object ((fs.map Prod.fst).zip cs)
  | _, v, _ => v

/-- Other definitions make the same node in their places. -/
theorem MadeBy.blueprint_withParts {operation : String} {f : Factory} {shape : Shape}
    (h : shape.MadeBy operation f) (htext : shape ≠ .template) {setup : Compile.Setup}
    {parent : String} (hparent : setup.parentKey = .ok parent) {v : Value} {ps cs : List Value}
    (hparts : shape.parts operation v = .ok ps) (hlength : cs.length = ps.length) :
    ∃ b, f.blueprint setup v = .ok b ∧ b.parts = ps
      ∧ f.blueprint setup (shape.withParts v cs) = .ok { b with parts := cs } := by
  cases shape with
  | path =>
    obtain rfl : f = .configuredPath := h
    simp only [Factory.blueprint, hparent, ok_bind]
    cases v with
    | text s =>
      obtain rfl := Except.ok.inj hparts
      obtain rfl := List.length_eq_zero_iff.mp hlength
      exact ⟨_, rfl, rfl, rfl⟩
    | _ => cases hparts
  | template => exact absurd rfl htext
  | quoted =>
    obtain rfl : f = .form Blueprint.literal := h
    obtain rfl := Except.ok.inj hparts
    refine ⟨_, rfl, rfl, ?_⟩
    have hpayloads : Blueprint.payloads (Blueprint.requote v cs).1 = cs := by
      rw [Blueprint.payloads_requote v cs (by omega), List.take_of_length_le (by omega)]
    simp only [Factory.blueprint, Blueprint.literal, withParts, hpayloads, Blueprint.quote_requote]
  | one =>
    obtain ⟨assemble, hf⟩ := h
    obtain rfl := Except.ok.inj hparts
    obtain ⟨c, rfl⟩ := List.length_eq_one_iff.mp hlength
    exact ⟨_, hf setup v, rfl, hf setup c⟩
  | operands count =>
    obtain ⟨assemble, hf⟩ := h
    cases v with
    | list xs =>
      simp only [parts] at hparts
      split at hparts
      · rename_i hcount
        obtain rfl := Except.ok.inj hparts
        have hcount' : count.admits cs.length = true := by rw [hlength]; exact hcount
        refine ⟨⟨[], xs, assemble⟩, ?_, rfl, ?_⟩
        · rw [hf, Blueprint.operands_list operation hcount]
          rfl
        · rw [hf, withParts, Blueprint.operands_list operation hcount']
          rfl
      · cases hparts
    | _ => cases hparts
  | items =>
    obtain rfl : f = .form Blueprint.array := h
    cases v with
    | list xs =>
      obtain rfl := Except.ok.inj hparts
      exact ⟨_, rfl, rfl, rfl⟩
    | _ => cases hparts
  | fields =>
    obtain rfl : f = .form Blueprint.object := h
    cases v with
    | object fs =>
      obtain rfl := Except.ok.inj hparts
      rw [List.length_map] at hlength
      have hkeys : ((fs.map Prod.fst).zip cs).map Prod.fst = fs.map Prod.fst :=
        List.map_fst_zip (by simp [hlength])
      have hvalues : ((fs.map Prod.fst).zip cs).map Prod.snd = cs :=
        List.map_snd_zip (by simp [hlength])
      refine ⟨_, rfl, rfl, ?_⟩
      simp only [Factory.blueprint, Blueprint.object, withParts, hkeys, hvalues]
    | _ => cases hparts

end Shape

/-! ## Definitions in debug operations -/

/-- A definition in a debug operation. -/
def debugged (d : Value) : Value := .object [(.text "debug", d)]

/-- The second definition is the first one with any of the definitions that
are compiled for it in debug operations, the first one itself included. -/
inductive Wraps : Value → Value → Prop
  | same (d : Value) : Wraps d d
  | debug {d d' : Value} (h : Wraps d d') : Wraps d (debugged d')
  | list {xs ys : List Value} (hlength : ys.length = xs.length)
      (h : ∀ e ∈ xs.zip ys, Wraps e.1 e.2) : Wraps (.list xs) (.list ys)
  | operation {name : String} {operand : Value} {rest : Fields} {shape : Shape} {ps cs : List Value}
      (hshape : Mapping.get? name shapes = some shape) (htext : shape ≠ .template)
      (hparts : shape.parts name operand = .ok ps) (hlength : cs.length = ps.length)
      (h : ∀ e ∈ ps.zip cs, Wraps e.1 e.2) :
      Wraps (.object ((.text name, operand) :: rest))
        (.object ((.text name, shape.withParts operand cs) :: rest))

namespace Compile

theorem compile_debugged {setup : Setup} {sink : Option Sink}
    (hdebug : setup.registry.factory? (.text "debug") = some (.debug sink)) (mode : Mode) (d : Value) :
    compile setup mode (debugged d) = (do
      Build.note (.compiling "debug" d)
      ofDebug (compile setup) mode (sink.getD setup.sink) d) := by
  have hsize : d.size < (Value.object [(.text "debug", d)]).size := by
    simp [Value.size, Value.sizeFields]
  rw [debugged, compile]
  simp only [select, liftExcept_ok, pure_bind, hdebug, Key.plain, ofFactory, ofDebug]
  cases mode <;> simp [beneath, hsize]

section Standard

variable {setup : Setup} {parent : String}

theorem survey_debugged (hreg : setup.registry = Registry.standard)
    (hparent : setup.parentKey = .ok parent) (d : Value) :
    survey setup (debugged d) = survey setup d := by
  have hdebug : Registry.standard.factory? (.text "debug") = some (.debug none) := rfl
  have hblueprint : blueprint setup (debugged d) = .ok (Blueprint.bare d) := by
    simp only [blueprint, debugged, select, ok_bind, hreg, hdebug]
    rfl
  rw [survey_eq hreg hparent, hblueprint]
  simp only [liftExcept_ok, pure_bind, Survey.ofBlueprint_bare]

theorem mapM_survey_congr {xs ys : List Value} (hlength : ys.length = xs.length)
    (h : ∀ e ∈ xs.zip ys, survey setup e.1 = survey setup e.2) :
    xs.mapM (survey setup) = ys.mapM (survey setup) := by
  induction xs generalizing ys with
  | nil =>
    obtain rfl := List.length_eq_zero_iff.mp hlength
    rfl
  | cons x xs ih =>
    cases ys with
    | nil => cases hlength
    | cons y ys =>
      have hhead : survey setup x = survey setup y := h (x, y) (by simp)
      rw [List.mapM_cons, List.mapM_cons, hhead,
        ih (Nat.succ.inj hlength) fun e he => h e (List.mem_cons_of_mem _ he)]

/-- Definitions with the same blueprint but for their parts are surveyed
alike if their parts are. -/
theorem survey_congr (hreg : setup.registry = Registry.standard)
    (hparent : setup.parentKey = .ok parent) {d d' : Value} {b : Blueprint} {cs : List Value}
    (hd : blueprint setup d = .ok b) (hd' : blueprint setup d' = .ok { b with parts := cs })
    (hlength : cs.length = b.parts.length)
    (h : ∀ e ∈ b.parts.zip cs, survey setup e.1 = survey setup e.2) :
    survey setup d = survey setup d' := by
  rw [survey_eq hreg hparent d, survey_eq hreg hparent d', hd, hd']
  simp only [liftExcept_ok, pure_bind, Survey.ofBlueprint, mapM_survey_congr hlength h]

/-- Debug operations do not show in a survey. -/
theorem survey_wraps (hreg : setup.registry = Registry.standard)
    (hparent : setup.parentKey = .ok parent) {d d' : Value} (h : Wraps d d') :
    survey setup d = survey setup d' := by
  induction h with
  | same d => rfl
  | debug _ ih => rw [survey_debugged hreg hparent, ih]
  | @list xs ys hlength _ ih =>
    have hblueprint (zs : List Value) :
        blueprint setup (.list zs) = .ok ⟨[], zs, fun ns => .array ns⟩ := by
      have harray : Registry.standard.factory? (.text Operation.arrayName)
          = some (.form Blueprint.array) := rfl
      simp only [blueprint, select, ok_bind, hreg, harray]
      rfl
    exact survey_congr hreg hparent (hblueprint xs) (hblueprint ys) hlength ih
  | @operation name operand rest shape ps cs hshape htext hparts hlength _ ih =>
    have hspec := shapeOf_spec (.text name)
    rw [show shapeOf (.text name) = some shape from hshape] at hspec
    obtain ⟨f, hf, hmade⟩ := hspec
    obtain ⟨b, hb, rfl, hb'⟩ := hmade.blueprint_withParts htext hparent hparts hlength
    have hblueprint (v : Value) :
        blueprint setup (.object ((.text name, v) :: rest)) = f.blueprint setup v := by
      simp only [blueprint, select, ok_bind, hreg, hf]
    exact survey_congr hreg hparent ((hblueprint _).trans hb) ((hblueprint _).trans hb') hlength ih

end Standard

end Compile

/-! ## Logics -/

namespace Logic

section Quiet

variable {l l' : Logic} {j j' : Journal}

/-- Where nothing is refused, logics with the same tree but for recorders
evaluate alike. -/
theorem eval_of_erase (hbase : l.base = l'.base) (hroot : l.root.erase = l'.root.erase)
    (hl : .count ∉ l.root.sources) (hl' : .count ∉ l'.root.sources) (hj : j.policy.Quiet)
    (hj' : j'.policy.Quiet) (context : Value) :
    outcome (l.eval context) j = outcome (l'.eval context) j' := by
  have hpolicy : j.policy = j'.policy := hj.unique hj'
  have hnode (fields : Fields) : outcome (l.root.eval fields) j = outcome (l'.root.eval fields) j' := by
    calc outcome (l.root.eval fields) j
        = l.root.value j.policy fields := (l.root.eval_yields _ hl fields j rfl).1
      _ = l.root.erase.value j.policy fields := (Node.value_erase hj l.root fields).symm
      _ = l'.root.erase.value j.policy fields := by rw [hroot]
      _ = l'.root.value j.policy fields := Node.value_erase hj l'.root fields
      _ = outcome (l'.root.eval fields) j' := by
        rw [hpolicy]
        exact (l'.root.eval_yields _ hl' fields j' rfl).1.symm
  cases context with
  | null =>
    simp only [eval, hbase]
    exact hnode l'.base
  | object fs =>
    simp only [eval, hbase]
    exact hnode (Mapping.overlay l'.base fs)
  | _ => rfl

end Quiet

/-- Definitions in debug operations change nothing where sinks take every
record: with and without them a definition builds, or fails with the same
fault, and the logics have the same lookups and evaluate alike, whatever has
been evaluated and recorded before. -/
theorem debug_operations_are_transparent (around : Surroundings) (base : Value) {d d' : Value}
    (h : Wraps d d') (draft draft' : Draft) :
    Related Eq
      (fun l l' => l'.lookups = l.lookups ∧ ∀ context (j j' : Journal), j.policy.Quiet →
        j'.policy.Quiet → outcome (l'.eval context) j' = outcome (l.eval context) j)
      (outcome (build around [] base d) draft) (outcome (build around [] base d') draft') := by
  have hnone : ∀ e ∈ ([] : List (String × Entry)), e.2.Brings (Factory.Regular fun _ => True) := by
    simp
  have hsurvey (registry : Registry) (settings : LogicSettings)
      (hops : Registry.standard.merged [] = .ok registry) :
      Compile.survey (setup around registry settings) d
        = Compile.survey (setup around registry settings) d' :=
    Compile.survey_wraps (Except.ok.inj hops).symm rfl h
  have hbuilt : Related Eq _ (outcome (build around [] base d) draft)
      (outcome (build around [] base d') draft') :=
    build_congr hnone base hsurvey draft draft'
  refine hbuilt.imp fun l l' hl hl' h => ?_
  obtain ⟨hbase, hlookups, hroot⟩ := h
  refine ⟨hlookups.symm, fun context j j' hj hj' => ?_⟩
  exact eval_of_erase hbase.symm hroot.symm (build_settled around base d' draft' l' hl')
    (build_settled around base d draft l hl) hj' hj context

/-- Debug operations around a list and in it, on a journal that has counted
records before. -/
theorem debug_operations_keep_a_list :
    ∃ l, outcome (build ordinary [] .null (debugged (.list [debugged (.int 3)]))) ⟨0, [], false⟩ = .ok l
      ∧ l.lookups = []
      ∧ outcome (l.eval (.object [])) ⟨fun _ => 7, [], none, false, false, 0⟩ = .ok (.list [.int 3]) := by
  have hwraps : Wraps (.list [.int 3]) (debugged (.list [debugged (.int 3)])) :=
    .debug (.list rfl (by simpa using .debug (.same _)))
  have hlist : outcome (build ordinary [] .null (.list [.int 3])) ⟨0, [], false⟩
      = .ok ⟨.list [.int 3], [], [], .array [.literal (.int 3)]⟩ := by
    have hbase : Entries.ofValue .null = .ok [] := rfl
    have harray : Registry.standard.factory? (.text Operation.arrayName)
        = some (.form Blueprint.array) := rfl
    rw [build_eq hbase rfl rfl, Compile.compile]
    simp [setup, Compile.select, harray, Compile.ofFactory, Compile.ofBlueprint, Compile.beneath,
      compile_int, Blueprint.array, outcome_bind, Value.size, Value.sizeItems, lookupsOf, Except.map]
  have hrelated := debug_operations_are_transparent ordinary .null hwraps ⟨0, [], false⟩ ⟨0, [], false⟩
  rw [hlist] at hrelated
  cases hl : outcome (build ordinary [] .null (debugged (.list [debugged (.int 3)]))) ⟨0, [], false⟩ with
  | error e => rw [hl] at hrelated; exact hrelated.elim
  | ok l =>
    rw [hl] at hrelated
    obtain ⟨hlookups, heval⟩ := hrelated
    refine ⟨l, rfl, hlookups, ?_⟩
    rw [heval (.object []) ⟨fun _ => 7, [], none, false, false, 0⟩ _ ⟨rfl, rfl, rfl⟩ ⟨rfl, rfl, rfl⟩]
    rfl

end Logic
end Rulebook
