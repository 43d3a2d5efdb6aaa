-- Registries with other operations. A definition compiles as it did before
-- if no operation that it selects has been replaced, whatever else was added.
import Rulebook.Proofs.Acceptance
import Rulebook.Proofs.LogicMaps

namespace Rulebook

/-! ## Entries stored into a registry -/

/-- What a host offers is an operation. -/
def Entry.Valid : Entry → Prop
  | .factory .. | .operation _ => True
  | .other _ => False

namespace Registry

/-- An entry that is accepted is found under its name. -/
theorem find?_ofEntries {entries : List (String × Entry)} {r : Registry}
    (h : ofEntries entries = .ok r) (name : String) :
    r.find? name = (Mapping.get? name entries).bind fun e => (accept name e).toOption := by
  unfold ofEntries at h
  obtain ⟨ops, hops, hr⟩ := bind_ok h
  obtain rfl := Except.ok.inj hr
  have hall := mapM_ok hops
  unfold find?
  clear h hr hops
  induction hall with
  | nil => rfl
  | @cons e o entries ops heo _ ih =>
    obtain ⟨key, entry⟩ := e
    obtain ⟨operation, haccept, ho⟩ := bind_ok heo
    obtain rfl := Except.ok.inj ho
    unfold Mapping.get?
    by_cases hkey : key = name
    · subst hkey
      simp [haccept, Except.toOption]
    · have hne : (key == name) = false := beq_false_of_ne hkey
      simp only [hne, Bool.false_eq_true, if_false]
      exact ih

theorem ofEntries_valid {entries : List (String × Entry)} (h : ∀ e ∈ entries, e.2.Valid) :
    ∃ r, ofEntries entries = .ok r := by
  have haccept : ∀ e ∈ entries, ∃ o, accept e.1 e.2 = .ok o := by
    rintro ⟨name, entry⟩ he
    cases entry with
    | factory f description => exact ⟨_, rfl⟩
    | operation o => exact ⟨o, rfl⟩
    | other t => exact absurd (h _ he) id
  suffices hops : ∃ ops : List (String × Operation),
      entries.mapM (fun e => do return (e.1, ← accept e.1 e.2)) = .ok ops by
    obtain ⟨ops, hops⟩ := hops
    refine ⟨⟨ops⟩, ?_⟩
    unfold ofEntries
    rw [hops]
    rfl
  clear h
  induction entries with
  | nil => exact ⟨[], rfl⟩
  | cons e entries ih =>
    obtain ⟨o, ho⟩ := haccept e (by simp)
    obtain ⟨ops, hops⟩ := ih fun e' he' => haccept e' (List.mem_cons_of_mem _ he')
    refine ⟨(e.1, o) :: ops, ?_⟩
    rw [List.mapM_cons, ho, hops]
    rfl

theorem get?_entries (r : Registry) (name : String) :
    Mapping.get? name r.entries = (r.find? name).map Entry.operation := by
  unfold entries find?
  induction r.operations with
  | nil => rfl
  | cons e rest ih =>
    simp only [List.map_cons, Mapping.get?]
    split
    · rfl
    · exact ih

/-- Valid entries can be stored into every registry. -/
theorem merged_valid (r : Registry) {changes : List (String × Entry)}
    (h : ∀ e ∈ changes, e.2.Valid) : ∃ r', r.merged changes = .ok r' := by
  unfold merged
  split
  · exact ⟨r, rfl⟩
  · apply ofEntries_valid
    intro e he
    obtain ⟨u, hu, heq⟩ := Mapping.mem_overlay he
    rw [← heq]
    rcases List.mem_append.mp hu with hu | hu
    · obtain ⟨o, -, rfl⟩ := List.mem_map.mp hu
      trivial
    · exact h u hu

/-- Storing entries changes nothing under other names. -/
theorem factory?_merged {r r' : Registry} {changes : List (String × Entry)}
    (h : r.merged changes = .ok r') {key : Key} (hother : ∀ e ∈ changes, Key.text e.1 ≠ key) :
    r'.factory? key = r.factory? key := by
  cases key with
  | text name =>
    unfold merged at h
    split at h
    · obtain rfl := Except.ok.inj h
      rfl
    · have hnone : Mapping.get? name changes.reverse = none := by
        apply Mapping.get?_eq_none
        intro e he
        apply beq_false_of_ne
        intro heq
        exact hother e (List.mem_reverse.mp he) (congrArg Key.text heq)
      have hfind : r'.find? name = r.find? name := by
        rw [find?_ofEntries h, Mapping.get?_overlay, hnone, get?_entries]
        cases r.find? name <;> rfl
      simp only [factory?, hfind]
  | _ => rfl

end Registry

namespace Compile

/-! ## Selected operations -/

/-- The operations that a definition and those beneath it select, in document
order: by their first key, or by their shape. -/
def selected (marker : String) (d : Value) : List Key :=
  (outline marker d).filterMap fun q => (select marker q).toOption.map Prod.fst

theorem selected_eq (marker : String) (d : Value) : selected marker d
    = (select marker d).toOption.toList.map Prod.fst ++ (children marker d).flatMap (selected marker) := by
  unfold selected
  rw [outline_eq, List.filterMap_cons, List.filterMap_flatMap]
  cases select marker d <;> rfl

theorem selected_self {marker : String} {d operand : Value} {name : Key}
    (h : select marker d = .ok (name, operand)) : name ∈ selected marker d := by
  rw [selected_eq, h]
  exact List.mem_cons_self

theorem selected_child {marker : String} {c d : Value} (hc : c ∈ children marker d) {name : Key}
    (h : name ∈ selected marker c) : name ∈ selected marker d := by
  rw [selected_eq]
  exact List.mem_append_right _ (List.mem_flatMap.mpr ⟨c, hc, h⟩)

/-- The operations that some notices, the latest first, tell of, in their order. -/
def operationsOf (notices : List Notice) : List String :=
  notices.reverse.filterMap fun
    | .compiling name _ => some name
    | _ => none

theorem operationsOf_note (n : Notice) (draft : Draft) :
    operationsOf (after (Build.note n) draft).notices
      = operationsOf draft.notices ++ operationsOf [n] := by
  unfold operationsOf
  rw [Build.after_note, List.reverse_cons, List.filterMap_append, List.reverse_singleton]

theorem operationsOf_lookups (ps : List (List String)) (draft : Draft) :
    operationsOf (after (ps.forM fun p => Build.note (.lookup p)) draft).notices
      = operationsOf draft.notices := by
  induction ps generalizing draft with
  | nil => rfl
  | cons p ps ih =>
    have hfirst := operationsOf_note (.lookup p) draft
    have hrest := ih (after (Build.note (.lookup p)) draft)
    rw [List.forM_eq_forM, List.forM_cons, after_bind]
    exact hrest.trans (hfirst.trans (List.append_nil _))

/-- Wherever it ends well, a compilation has reported certain operations. -/
def Meets {α : Type} (names : List String) (x : Build α) : Prop :=
  ∀ draft a, outcome x draft = .ok a →
    operationsOf (after x draft).notices = operationsOf draft.notices ++ names

namespace Meets

variable {α β : Type} {names names' : List String}

theorem pure (a : α) : Meets [] (Pure.pure a : Build α) := by
  intro draft _ _
  exact (List.append_nil _).symm

theorem throw (e : Fault) : Meets names (throw e : Build α) := by
  intro draft a h
  cases h

theorem bind {x : Build α} {f : α → Build β} (hx : Meets names x) (hf : ∀ a, Meets names' (f a)) :
    Meets (names ++ names') (x >>= f) := by
  intro draft b h
  obtain ⟨a, ha, hb, hafter⟩ := outcome_bind_ok h
  rw [hafter, hf a _ b hb, hx draft a ha, List.append_assoc]

theorem map {x : Build α} (hx : Meets names x) (g : α → β) : Meets names (do return g (← x)) := by
  have hbind : Meets (names ++ []) (x >>= fun a => Pure.pure (g a)) := hx.bind fun a => pure (g a)
  rwa [List.append_nil] at hbind

theorem mapM {f : α → Build β} {g : α → List String} {xs : List α} (h : ∀ x ∈ xs, Meets (g x) (f x)) :
    Meets (xs.flatMap g) (xs.mapM f) := by
  induction xs with
  | nil => exact pure []
  | cons x xs ih =>
    rw [List.mapM_cons, List.flatMap_cons]
    apply (h x (by simp)).bind
    intro y
    exact (ih fun x' hx' => h x' (List.mem_cons_of_mem _ hx')).map (y :: ·)

theorem note (n : Notice) : Meets (operationsOf [n]) (Build.note n) :=
  fun draft _ _ => operationsOf_note n draft

end Meets

section Operations

variable {setup : Setup} {compile : Mode → Value → Build Node} {mode : Mode}

theorem beneath_meets (hmode : mode ≠ .replaced) {c : Value} {names : List String}
    (h : ∀ mode, mode ≠ .replaced → Meets names (compile mode c)) :
    Meets names (beneath compile mode c) := by
  cases mode with
  | plain => exact h .plain hmode
  | recorded r => exact (h (.recorded r) hmode).map _
  | replaced => exact absurd rfl hmode

theorem ofBlueprint_meets (hmode : mode ≠ .replaced) {b : Blueprint} {names : Value → List String}
    (h : ∀ c ∈ b.parts, ∀ mode, mode ≠ .replaced → Meets (names c) (compile mode c)) :
    Meets (b.parts.flatMap names) (ofBlueprint compile mode b) := by
  have hlookups : Meets [] (b.lookups.forM fun p => Build.note (.lookup p)) := by
    intro draft _ _
    rw [operationsOf_lookups, List.append_nil]
  exact hlookups.bind fun _ =>
    (Meets.mapM fun c hc => beneath_meets hmode (h c hc)).map b.assemble

theorem ofFactory_meets (hmode : mode ≠ .replaced) {operand : Value} {f : Factory}
    {names : Value → List String} {found : List String}
    (hfound : ∀ b, f.blueprint setup operand = .ok b → b.parts.flatMap names = found)
    (h : ∀ b, f.blueprint setup operand = .ok b → ∀ c ∈ b.parts, ∀ mode, mode ≠ .replaced →
      Meets (names c) (compile mode c)) :
    Meets found (ofFactory compile setup mode operand f) := by
  rcases ofFactory_cases f with ⟨sink, rfl⟩ | ⟨-, hplan⟩
  · have hoperand (mode : Mode) (hmode : mode ≠ .replaced) : Meets found (compile mode operand) := by
      have hbare : names operand = found := (List.append_nil _).symm.trans (hfound _ rfl)
      rw [← hbare]
      exact h _ rfl operand List.mem_cons_self mode hmode
    have hnumber (sink : Sink) : Meets [] (Build.newRecorder sink) :=
      fun _ _ _ => (List.append_nil _).symm
    simp only [ofFactory, ofDebug]
    refine (hnumber _).bind fun r => ?_
    cases mode with
    | plain => exact beneath_meets (by simp) hoperand
    | recorded r' => exact (beneath_meets hmode hoperand).map _
    | replaced => exact absurd rfl hmode
  · rw [hplan]
    cases hb : f.blueprint setup operand with
    | error e => exact Meets.throw e
    | ok b =>
      rw [← hfound b hb]
      exact ofBlueprint_meets hmode (h b hb)

/-- The operations that a compilation reports are those that are selected. -/
theorem compile_meets (hreg : setup.registry = Registry.standard) {parent : String}
    (hparent : setup.parentKey = .ok parent) (hmode : mode ≠ .replaced) (d : Value) :
    Meets ((selected setup.marker d).map Key.plain) (Compile.compile setup mode d) := by
  induction hd : d.size using Nat.strongRecOn generalizing d mode with
  | _ size ih =>
    rw [Compile.compile, selected_eq]
    have hinspect := blueprint_inspect hreg hparent d
    unfold blueprint inspect at hinspect
    cases hselect : select setup.marker d with
    | error e => exact Meets.throw e
    | ok selection =>
      obtain ⟨name, operand⟩ := selection
      simp only [hselect, ok_bind, liftExcept_ok, pure_bind] at hinspect ⊢
      cases hf : setup.registry.factory? name with
      | none => exact Meets.throw _
      | some f =>
        simp only [hf] at hinspect
        refine (Meets.note (.compiling name.plain operand)).bind fun _ => ?_
        have hparts (b : Blueprint) (hb : f.blueprint setup operand = .ok b) :
            b.parts = children setup.marker d := by
          rw [hb] at hinspect
          split at hinspect
          · exact hinspect.elim
          · exact hinspect.1
        have hfound (b : Blueprint) (hb : f.blueprint setup operand = .ok b) :
            b.parts.flatMap (fun c => (selected setup.marker c).map Key.plain)
              = ((children setup.marker d).flatMap (selected setup.marker)).map Key.plain := by
          rw [hparts b hb]
          exact List.map_flatMap.symm
        refine ofFactory_meets hmode hfound fun b hb c hc mode hmode => ?_
        rw [hparts b hb] at hc
        rw [dif_pos (size_lt_of_child hc)]
        exact ih c.size (hd ▸ size_lt_of_child hc) hmode c rfl

end Operations

/-! ## Compilation under another registry -/

section Registries

variable {setup setup' : Setup} {compile compile' : Mode → Value → Build Node}

/-- A node depends on how the definitions beneath are compiled, and on nothing
else that a registry says. -/
theorem ofFactory_congr (hparent : setup'.parentKey = setup.parentKey)
    (hsink : setup'.sink = setup.sink) {operand : Value} {f : Factory}
    (h : ∀ b, f.blueprint setup operand = .ok b → ∀ c ∈ b.parts, ∀ mode, compile' mode c = compile mode c)
    (mode : Mode) : ofFactory compile' setup' mode operand f = ofFactory compile setup mode operand f := by
  have hbeneath {mode : Mode} {c : Value} (hc : ∀ mode, compile' mode c = compile mode c) :
      beneath compile' mode c = beneath compile mode c := by
    cases mode with
    | plain => exact hc .plain
    | recorded r => simp only [beneath, hc]
    | replaced => rfl
  rcases ofFactory_cases f with ⟨sink, rfl⟩ | ⟨-, hplan⟩
  · have hoperand : ∀ mode, compile' mode operand = compile mode operand :=
      h (Blueprint.bare operand) rfl operand List.mem_cons_self
    simp only [ofFactory, ofDebug, hsink]
    cases mode with
    | plain => simp only [hbeneath hoperand]
    | _ => simp only [hbeneath hoperand]
  · rw [hplan, hplan, Factory.blueprint_congr hparent]
    cases hb : f.blueprint setup operand with
    | error e => rfl
    | ok b =>
      have hparts : b.parts.mapM (beneath compile' mode) = b.parts.mapM (beneath compile mode) :=
        mapM_congr fun c hc => hbeneath (h b hb c hc)
      simp only [liftExcept_ok, pure_bind, ofBlueprint, hparts]

/-- Nothing is wrong in a definition that compiles. -/
theorem complaint_of_compiled (hreg : setup.registry = Registry.standard) {parent : String}
    (hparent : setup.parentKey = .ok parent) {mode : Mode} (hmode : mode ≠ .replaced) {d : Value}
    {draft : Draft} {n : Node} (h : outcome (Compile.compile setup mode d) draft = .ok n) :
    ∀ q ∈ outline setup.marker d, complaint setup.marker q = none := by
  have hsurveyed : SurveyedBy draft.notices (Compile.compile setup mode d) (survey setup d) :=
    compile_surveyed (hreg ▸ Registry.standard_all fun _ => True) hmode d
  have hends := (hsurveyed draft [] ⟨[], rfl, rfl⟩).1
  have hscanned := survey_scans hreg hparent d []
  rw [h] at hends
  cases hs : outcome (survey setup d) [] with
  | error e =>
    rw [hs] at hends
    exact hends.elim
  | ok m =>
    rw [hs] at hscanned
    generalize after (survey setup d) [] = paths at hscanned
    cases hscanned with
    | through _ hall => exact hall

/-- A definition that nothing is wrong with compiles in the same way wherever
the operations that it selects are the standard ones. -/
theorem compile_extended (hreg : setup.registry = Registry.standard) {parent : String}
    (hparent : setup.parentKey = .ok parent) {r : Registry} {d : Value} (mode : Mode)
    (hwell : ∀ q ∈ outline setup.marker d, complaint setup.marker q = none)
    (hsame : ∀ name ∈ selected setup.marker d, r.factory? name = setup.registry.factory? name) :
    Compile.compile { setup with registry := r } mode d = Compile.compile setup mode d := by
  induction hd : d.size using Nat.strongRecOn generalizing d mode with
  | _ size ih =>
    obtain ⟨hself, hbeneath⟩ := (outline_forall setup.marker d).mp hwell
    have hinspect := blueprint_inspect hreg hparent d
    unfold inspect at hinspect
    rw [hself] at hinspect
    cases hb : blueprint setup d with
    | error e =>
      rw [hb] at hinspect
      exact hinspect.elim
    | ok b =>
      rw [hb] at hinspect
      obtain ⟨hparts, -⟩ : b.parts = children setup.marker d ∧ _ := hinspect
      unfold blueprint at hb
      obtain ⟨⟨name, operand⟩, hselect, hb⟩ := bind_ok hb
      have hfactory := hsame name (selected_self hselect)
      rw [Compile.compile, Compile.compile]
      simp only [hselect, liftExcept_ok, pure_bind, hfactory]
      cases hf : setup.registry.factory? name with
      | none =>
        simp only [hf] at hb
        cases hb
      | some f =>
        simp only [hf] at hb
        refine bind_congr fun _ => ofFactory_congr rfl rfl (fun b' hb' c hc mode => ?_) mode
        obtain rfl : b = b' := Except.ok.inj (hb.symm.trans hb')
        rw [hparts] at hc
        rw [dif_pos (size_lt_of_child hc), dif_pos (size_lt_of_child hc)]
        exact ih c.size (hd ▸ size_lt_of_child hc) mode (hbeneath c hc)
          (fun name hname => hsame name (selected_child hc hname)) rfl

end Registries

end Compile

/-! ## Logics -/

namespace Logic

variable {around : Surroundings} {base d : Value}

/-- A definition that builds is built in the same way with operations that it
does not select. -/
theorem build_extended {settings : LogicSettings} (hset : around.settings = .ok settings)
    {extra : List (String × Entry)} (hvalid : ∀ e ∈ extra, e.2.Valid)
    (hunused : ∀ e ∈ extra, Key.text e.1 ∉ Compile.selected settings.marker d) {draft : Draft}
    {l : Logic} (hl : outcome (build around [] base d) draft = .ok l) :
    build around extra base d = build around [] base d := by
  obtain ⟨fields, _, _, hbase, hops, -⟩ := build_ok hl
  obtain rfl := Except.ok.inj hops
  obtain ⟨registry, hextra⟩ := Registry.standard.merged_valid hvalid
  have hcompiled := (build_parts hbase hops hset hl).2.2
  have hcompile : Compile.compile (setup around registry settings) .plain d
      = Compile.compile (setup around Registry.standard settings) .plain d := by
    have hwell := Compile.complaint_of_compiled rfl rfl (by simp) hcompiled
    have hsame (name : Key) (hname : name ∈ Compile.selected settings.marker d) :
        registry.factory? name = Registry.standard.factory? name := by
      apply Registry.factory?_merged hextra
      rintro e he rfl
      exact hunused e he hname
    exact Compile.compile_extended rfl rfl .plain hwell hsame
  rw [build_eq hbase hextra hset, build_eq hbase hops hset, hcompile]

/-- Logics that are the same but for their recorders evaluate alike, whatever
was recorded before. -/
theorem eval_anonymous {l l' : Logic} (h : l'.anonymous = l.anonymous) (hl : .count ∉ l.root.sources)
    (hl' : .count ∉ l'.root.sources) (context : Value) {j j' : Journal} (hj : j'.policy = j.policy) :
    outcome (l'.eval context) j' = outcome (l.eval context) j := by
  have hvalue : outcome (l.eval context) j = l.value j.policy context :=
    (eval_yields _ l hl context j rfl).1
  have hvalue' : outcome (l'.eval context) j' = l'.value j'.policy context :=
    (eval_yields _ l' hl' context j' rfl).1
  rw [hvalue, hvalue', hj, ← value_anonymous _ l', ← value_anonymous _ l, h]

/-- Operations that a definition does not select, new ones or others in the
place of standard ones, change nothing: it builds from every draft as without
them, to the same tree with the same lookups, and evaluates alike, whenever it
was built and whatever was recorded. -/
theorem unused_operations_do_not_matter (around : Surroundings) (settings : LogicSettings)
    (hset : around.settings = .ok settings) (extra : List (String × Entry))
    (hvalid : ∀ e ∈ extra, e.2.Valid) (base d : Value)
    (hunused : ∀ e ∈ extra, Key.text e.1 ∉ Compile.selected settings.marker d) (draft : Draft)
    (l : Logic) (hl : outcome (build around [] base d) draft = .ok l) :
    outcome (build around extra base d) draft = .ok l
      ∧ after (build around extra base d) draft = after (build around [] base d) draft
      ∧ ∀ draft', ∃ l', outcome (build around extra base d) draft' = .ok l'
        ∧ l'.anonymous = l.anonymous ∧ l'.lookups = l.lookups
        ∧ ∀ context (j j' : Journal), j'.policy = j.policy →
            outcome (l'.eval context) j' = outcome (l.eval context) j := by
  rw [build_extended hset hvalid hunused hl]
  refine ⟨hl, rfl, fun draft' => ?_⟩
  have hnone : ∀ e ∈ ([] : List (String × Entry)), e.2.Brings (Factory.Regular fun _ => True) := by simp
  have hagain : Related Eq (fun l m => l.anonymous = m.anonymous) (outcome (build around [] base d) draft')
      (outcome (build around [] base d) draft) := (build_alike hnone base d draft' draft trivial).1
  rw [hl] at hagain
  cases hl' : outcome (build around [] base d) draft' with
  | error e =>
    rw [hl'] at hagain
    exact hagain.elim
  | ok l' =>
    rw [hl'] at hagain
    have hanonymous : l'.anonymous = l.anonymous := hagain
    have hlookups : l'.anonymous.lookups = l.anonymous.lookups := by rw [hanonymous]
    refine ⟨l', rfl, hanonymous, hlookups, fun context j j' hj => ?_⟩
    have hsettled : .count ∉ l.root.sources := build_settled around base d draft l hl
    have hsettled' : .count ∉ l'.root.sources := build_settled around base d draft' l' hl'
    exact eval_anonymous hanonymous hsettled hsettled' context hj

/-- A negation does not notice that `and` is another operation. -/
theorem replaced_conjunction_leaves_a_negation :
    ∃ l, outcome (build ordinary [] .null (.object [(.text "not", .text "$a")])) ⟨0, [], false⟩ = .ok l
      ∧ outcome (build ordinary [("and", .factory Extension.upperFactory ""),
            ("upper", .factory Extension.upperFactory "")] .null (.object [(.text "not", .text "$a")]))
          ⟨0, [], false⟩ = .ok l := by
  have hnot : Registry.standard.factory? (.text "not") = some (.unary "not" Function.not) := rfl
  have hoperand := compile_reading (s := "$a") "a" rfl Settings.defaultMarker
    Settings.defaultParentKey .log .plain
  have hbuilt : outcome (build ordinary [] .null (.object [(.text "not", .text "$a")])) ⟨0, [], false⟩
      = .ok ⟨.object [(.text "not", .text "$a")], [], [Text.dotted "a"],
          .unary "not" Function.not (.path (Text.dotted "a") (.inherited Settings.defaultParentKey))⟩ := by
    have hbase : Entries.ofValue .null = .ok [] := rfl
    rw [build_eq hbase rfl rfl, Compile.compile]
    simp [setup, ordinary, Compile.select, hnot, Factory.unary, Compile.ofFactory, Blueprint.unary,
      Compile.ofBlueprint, Compile.beneath, hoperand, Value.size, Value.sizeFields, outcome_bind,
      lookupsOf, Except.map]
  have hselected : Compile.selected Settings.defaultMarker (.object [(.text "not", .text "$a")])
      = [.text "not", .text Operation.pathName] := by
    have hchildren : children Settings.defaultMarker (.object [(.text "not", .text "$a")])
        = [placeholder "a"] := rfl
    rw [Compile.selected_eq, hchildren, List.flatMap_singleton, Compile.selected, outline_placeholder]
    rfl
  refine ⟨_, hbuilt, (unused_operations_do_not_matter ordinary _ rfl _ ?_ .null _ ?_ _ _ hbuilt).1⟩
  · simp [Entry.Valid]
  · show ∀ e ∈ _, _ ∉ Compile.selected Settings.defaultMarker _
    rw [hselected]
    simp [Operation.pathName]

end Logic
end Rulebook
