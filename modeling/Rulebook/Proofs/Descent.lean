-- Compilation comes to an end. What an operation hands back to the compiler is
-- together smaller than the definition it stands in, so calls of the compiler
-- nest no deeper than a definition is large, and there are no more of them.
import Mathlib.Logic.Function.Iterate
import Rulebook.Proofs.Extending

namespace Rulebook

/-! ## Operations that find no more than their operand -/

/-- What an operation finds in an operand is together no larger than it, and
only the settings can be a reason to refuse one for want of an end. -/
structure Factory.Frugal (f : Factory) : Prop where
  parts : ∀ setup v b, f.blueprint setup v = .ok b → Value.sizeItems b.parts ≤ v.size
  fault : ∀ setup v, f.blueprint setup v = .error .endless → setup.parentKey = .error .endless

theorem Shape.parts_ne_endless (operation : String) (shape : Shape) (v : Value) :
    shape.parts operation v ≠ .error .endless := by
  unfold Shape.parts
  split
  case h_7 => split <;> simp
  all_goals simp

namespace Factory

theorem frugal_of_shape {f : Factory} {operation : String} {shape : Shape}
    (h : ∀ setup v, Related Eq (fun b ps => b.parts = ps) (f.blueprint setup v)
      (shape.parts operation v)) : f.Frugal where
  parts setup v b hb := by
    obtain ⟨ps, hps, rfl⟩ := (h setup v).exists_ok hb
    exact Shape.sizeItems_parts_le hps
  fault setup v hb := by
    have hparts := ((h setup v).error_iff .endless).mp hb
    exact absurd hparts (Shape.parts_ne_endless operation shape v)

theorem path_frugal (resolver : Resolver) : (Factory.form (Blueprint.path resolver)).Frugal := by
  have hparts (setup : Compile.Setup) (v : Value) : Related Eq (fun b ps => b.parts = ps)
      ((Factory.form (Blueprint.path resolver)).blueprint setup v)
      (Shape.path.parts Operation.pathName v) := by
    cases v with
    | text s => exact rfl
    | _ => exact rfl
  exact frugal_of_shape hparts

theorem configuredPath_frugal : Factory.configuredPath.Frugal where
  parts setup v b hb := by
    obtain ⟨parent, -, hpath⟩ := bind_ok hb
    exact (path_frugal (.inherited parent)).parts setup v b hpath
  fault setup v hb := by
    simp only [blueprint] at hb
    cases hparent : setup.parentKey with
    | error e =>
      rw [hparent] at hb
      obtain rfl := Except.error.inj hb
      rfl
    | ok parent =>
      simp only [hparent, ok_bind] at hb
      have hnever := (path_frugal (.inherited parent)).fault setup v hb
      rw [hparent] at hnever
      cases hnever

end Factory

/-- A factory of some shape finds what stands in an operand of that shape. -/
theorem Shape.MadeBy.frugal {operation : String} {f : Factory} {shape : Shape}
    (h : shape.MadeBy operation f) : f.Frugal := by
  -- only a configured path looks at the settings
  have hknown (setup : Compile.Setup) (v : Value) :
      Related Eq (fun b ps => b.parts = ps) (f.blueprint { setup with parentKey := .ok "" } v)
        (shape.parts operation v) :=
    (h.blueprint rfl v).imp fun _ _ _ _ hparts => hparts.1
  cases f with
  | configuredPath => exact Factory.configuredPath_frugal
  | form plan => exact Factory.frugal_of_shape hknown
  | debug sink => exact Factory.frugal_of_shape hknown

namespace Factory

theorem Functional.frugal {f : Factory} (h : f.Functional) : f.Frugal := by
  induction h with
  | unary name f =>
    have hshape : Shape.one.MadeBy name (.unary name f) := ⟨_, fun _ _ => rfl⟩
    exact hshape.frugal
  | binary name f =>
    have hshape : (Shape.operands (.atLeast 2)).MadeBy name (.binary name f) := ⟨_, fun _ _ => rfl⟩
    exact hshape.frugal
  | complex name arity f =>
    cases arity with
    | none =>
      have hshape : (Shape.operands (.atLeast 0)).MadeBy name (.complex name none f) :=
        ⟨_, fun _ _ => rfl⟩
      exact hshape.frugal
    | some n =>
      have hshape : (Shape.operands (.exactly n)).MadeBy name (.complex name (some n) f) :=
        ⟨_, fun _ _ => rfl⟩
      exact hshape.frugal
  | @calculation plan _ ih =>
    refine ⟨fun setup v b hb => ?_, fun setup v hb => ?_⟩
    · cases hplan : plan v with
      | error e => simp [blueprint, Extension.calculation, hplan, Except.map] at hb
      | ok b' =>
        obtain rfl : Blueprint.calculated b' = b := by
          simpa [blueprint, Extension.calculation, hplan, Except.map] using hb
        exact ih.parts setup v b' hplan
    · cases hplan : plan v with
      | error e =>
        obtain rfl : e = .endless := by
          simpa [blueprint, Extension.calculation, hplan, Except.map] using hb
        exact ih.fault setup v hplan
      | ok b' => simp [blueprint, Extension.calculation, hplan, Except.map] at hb

/-- What a host finds ready to be stored: operations from functions, one that
reports what it sees, paths with any resolver, recorders, and the standard
operations. -/
inductive ReadyMade : Factory → Prop
  | functional {f : Factory} (h : f.Functional) : ReadyMade f
  | witness (name : String) : ReadyMade (.form (Blueprint.witness name))
  | path (resolver : Resolver) : ReadyMade (.form (Blueprint.path resolver))
  | debug (sink : Option Sink) : ReadyMade (.debug sink)
  | standard {o : Operation} (h : o ∈ Operation.standard) : ReadyMade o.factory

theorem standard_frugal : ∀ o ∈ Operation.standard, o.factory.Frugal := by
  have hshapes := standard_shapes
  generalize Operation.standard = os at hshapes
  generalize shapes = ss at hshapes
  induction hshapes with
  | nil => simp
  | cons hs _ ih => exact List.forall_mem_cons.mpr ⟨hs.2.frugal, ih⟩

theorem ReadyMade.frugal {f : Factory} (h : f.ReadyMade) : f.Frugal := by
  cases h with
  | functional h => exact h.frugal
  | witness name =>
    have hshape : Shape.one.MadeBy name (.form (Blueprint.witness name)) := ⟨_, fun _ _ => rfl⟩
    exact hshape.frugal
  | path resolver => exact path_frugal resolver
  | debug sink =>
    have hshape : Shape.one.MadeBy "debug" (.debug sink) := ⟨_, fun _ _ => rfl⟩
    exact hshape.frugal
  | standard h => exact standard_frugal _ h

end Factory

/-! ## Registries in which literals and lists are left as they are -/

namespace Registry

/-- Registries that come of the standard one by storing ready-made operations,
once or again, under any names but those of literals and lists. -/
inductive Extended : Registry → Prop
  | standard : Extended Registry.standard
  | merged {r r' : Registry} {changes : List (String × Entry)} (h : Extended r)
      (hnames : ∀ e ∈ changes, e.1 ≠ Operation.literalName ∧ e.1 ≠ Operation.arrayName)
      (hbring : ∀ e ∈ changes, e.2.Brings Factory.ReadyMade) (hmerged : r.merged changes = .ok r') :
      Extended r'

/-- Literals and lists are the standard ones, and no operation finds more than
its operand. -/
structure Grounded (r : Registry) : Prop where
  frugal : r.All Factory.Frugal
  literal : r.factory? (.text Operation.literalName) = some (.form Blueprint.literal)
  array : r.factory? (.text Operation.arrayName) = some (.form Blueprint.array)

theorem Extended.grounded {r : Registry} (h : r.Extended) : r.Grounded := by
  induction h with
  | standard =>
    refine ⟨fun e he => ?_, rfl, rfl⟩
    obtain ⟨o, ho, rfl⟩ := List.mem_map.mp he
    exact Factory.standard_frugal o ho
  | @merged r r' changes _ hnames hbring hmerged ih =>
    have hother {name : String} (hname : ∀ e ∈ changes, e.1 ≠ name) :
        r'.factory? (.text name) = r.factory? (.text name) :=
      factory?_merged hmerged fun e he heq => hname e he (Key.text.inj heq)
    have hfrugal : ∀ e ∈ changes, e.2.Brings Factory.Frugal :=
      fun e he => (hbring e he).mono fun _ hf => hf.frugal
    exact ⟨merged_all hmerged ih.frugal hfrugal, (hother fun e he => (hnames e he).1).trans ih.literal,
      (hother fun e he => (hnames e he).2).trans ih.array⟩

end Registry

namespace Compile

/-! ## What a selection takes off -/

/-- An operand is smaller than its definition, but for a literal with nothing
to compile in it and for a list. -/
theorem select_smaller {marker : String} {d operand : Value} {name : Key}
    (h : select marker d = .ok (name, operand)) :
    operand.size < d.size
      ∨ operand = d ∧ (name = .text Operation.literalName ∧ Blueprint.payloads d = []
        ∨ name = .text Operation.arrayName ∧ ∃ xs, d = .list xs) := by
  cases d with
  | text s =>
    simp only [select] at h
    cases hpath : pathOf? s with
    | some path =>
      rw [selectText_path hpath] at h
      obtain ⟨rfl, rfl⟩ := Prod.mk.inj (Except.ok.inj h)
      have hlength := congrArg List.length (toList_of_path hpath)
      simp only [List.length_cons, String.length_toList] at hlength
      refine Or.inl ?_
      simp only [Value.size]
      omega
    | none =>
      rw [selectText_other hpath] at h
      split at h
      · split at h
        · cases h
        · rename_i hclosed
          obtain ⟨rfl, rfl⟩ := Prod.mk.inj (Except.ok.inj h)
          simp only [not_or, Nat.not_lt] at hclosed
          refine Or.inl ?_
          simp only [Value.size, String.length_ofList, List.length_dropLast, List.length_tail,
            String.length_toList]
          omega
      · obtain ⟨rfl, rfl⟩ := Prod.mk.inj (Except.ok.inj h)
        exact Or.inr ⟨rfl, Or.inl ⟨rfl, rfl⟩⟩
  | list xs =>
    obtain ⟨rfl, rfl⟩ := Prod.mk.inj (Except.ok.inj h)
    exact Or.inr ⟨rfl, Or.inr ⟨rfl, xs, rfl⟩⟩
  | object fs =>
    rcases fs with _ | ⟨⟨key, v⟩, rest⟩
    · cases h
    · obtain ⟨rfl, rfl⟩ := Prod.mk.inj (Except.ok.inj h)
      exact Or.inl (Value.size_lt_object (List.mem_cons_self (a := (key, v))))
  | _ =>
    obtain ⟨rfl, rfl⟩ := Prod.mk.inj (Except.ok.inj h)
    exact Or.inr ⟨rfl, Or.inl ⟨rfl, rfl⟩⟩

theorem select_ne_endless (marker : String) (d : Value) : select marker d ≠ .error .endless := by
  cases d with
  | text s =>
    simp only [select]
    cases hpath : pathOf? s with
    | some path => simp [selectText_path hpath]
    | none =>
      rw [selectText_other hpath]
      split
      · split <;> simp
      · simp
  | object fs => cases fs <;> simp [select]
  | _ => simp [select]

section Grounded

variable {setup : Setup}

/-- What is beneath a definition is together smaller than it. -/
theorem parts_smaller (hreg : setup.registry.Grounded) {d operand : Value} {name : Key} {f : Factory}
    {b : Blueprint} (hselect : select setup.marker d = .ok (name, operand))
    (hf : setup.registry.factory? name = some f) (hb : f.blueprint setup operand = .ok b) :
    Value.sizeItems b.parts < d.size := by
  rcases select_smaller hselect with hless | ⟨rfl, ⟨rfl, hnone⟩ | ⟨rfl, xs, rfl⟩⟩
  · have hparts := (Registry.factory?_of_all hreg.frugal hf).parts setup operand b hb
    omega
  · obtain rfl := Option.some.inj (hreg.literal.symm.trans hf)
    obtain rfl := Except.ok.inj hb
    rw [hnone]
    exact Value.size_pos operand
  · obtain rfl := Option.some.inj (hreg.array.symm.trans hf)
    obtain rfl := Except.ok.inj hb
    simp only [Value.size]
    omega

/-! ## Calls -/

/-- One call of the compiler, given what is called for the definitions beneath. -/
def once (setup : Setup) (inner : Mode → Value → Build Node) (mode : Mode) (d : Value) :
    Build Node := do
  let (name, operand) ← liftExcept (select setup.marker d)
  match setup.registry.factory? name with
  | none => throw (.unknownOperation name d setup.registry.sortedNames)
  | some factory =>
    Build.note (.compiling name.plain operand)
    ofFactory inner setup mode operand factory

section Cases

variable {inner : Mode → Value → Build Node} {d operand : Value} {name : Key}

theorem once_refused {e : Fault} (hselect : select setup.marker d = .error e) (mode : Mode) :
    once setup inner mode d = throw e := by
  simp only [once, hselect]
  rfl

theorem once_unknown (hselect : select setup.marker d = .ok (name, operand))
    (hf : setup.registry.factory? name = none) (mode : Mode) :
    once setup inner mode d = throw (.unknownOperation name d setup.registry.sortedNames) := by
  simp only [once, hselect, liftExcept_ok, pure_bind, hf]

theorem once_selected {f : Factory} (hselect : select setup.marker d = .ok (name, operand))
    (hf : setup.registry.factory? name = some f) (mode : Mode) :
    once setup inner mode d = (do
      Build.note (.compiling name.plain operand)
      ofFactory inner setup mode operand f) := by
  simp only [once, hselect, liftExcept_ok, pure_bind, hf]

end Cases

/-- A call depends on what is called for smaller definitions, and on no others. -/
theorem once_congr (hreg : setup.registry.Grounded) {inner inner' : Mode → Value → Build Node}
    {d : Value} (h : ∀ c : Value, c.size < d.size → ∀ mode, inner' mode c = inner mode c) (mode : Mode) :
    once setup inner' mode d = once setup inner mode d := by
  cases hselect : select setup.marker d with
  | error e => rw [once_refused hselect, once_refused hselect]
  | ok selection =>
    obtain ⟨name, operand⟩ := selection
    cases hf : setup.registry.factory? name with
    | none => rw [once_unknown hselect hf, once_unknown hselect hf]
    | some f =>
      rw [once_selected hselect hf, once_selected hselect hf]
      refine bind_congr fun _ => ofFactory_congr rfl rfl (fun b hb c hc mode => h c ?_ mode) mode
      have hparts := parts_smaller hreg hselect hf hb
      have hpart := Value.size_le_sizeItems hc
      omega

/-- No definition is met that is not smaller than the one it was found in. -/
theorem compile_once (hreg : setup.registry.Grounded) (mode : Mode) (d : Value) :
    compile setup mode d = once setup (compile setup) mode d := by
  let smaller : Mode → Value → Build Node := fun m c =>
    if _h : c.size < d.size then compile setup m c else throw .endless
  have hguarded : compile setup mode d = once setup smaller mode d := by
    rw [compile]
    rfl
  have hsmaller (c : Value) (hc : c.size < d.size) (m : Mode) : smaller m c = compile setup m c :=
    dif_pos hc
  exact hguarded.trans (once_congr hreg hsmaller mode)

/-- Calls nest no deeper than a definition is large: whatever would be called
beyond that depth is never called. -/
theorem iterate_once (hreg : setup.registry.Grounded) (beyond : Mode → Value → Build Node) {n : Nat}
    {d : Value} (h : d.size ≤ n) (mode : Mode) :
    (once setup)^[n] beyond mode d = compile setup mode d := by
  induction n generalizing d mode with
  | zero =>
    have hpos := Value.size_pos d
    omega
  | succ n ih =>
    have hstep : (once setup)^[n + 1] beyond = once setup ((once setup)^[n] beyond) :=
      Function.iterate_succ_apply' (once setup) n beyond
    calc (once setup)^[n + 1] beyond mode d
        = once setup ((once setup)^[n] beyond) mode d := congrFun (congrFun hstep mode) d
      _ = once setup (compile setup) mode d :=
        once_congr hreg (fun c hc mode => ih (by omega) mode) mode
      _ = compile setup mode d := (compile_once hreg mode d).symm

/-- Literals and lists are their own operands. With a unary operation in their
place they are called for again and again, to whatever depth. -/
theorem iterate_once_own_operand {d : Value} {name : Key} (hselect : select setup.marker d = .ok (name, d))
    {label : String} {f : Value → Except Fault Value}
    (hf : setup.registry.factory? name = some (.unary label f)) (n : Nat) (draft : Draft) :
    outcome ((once setup)^[n] (fun _ _ => throw .endless) .plain d) draft = .error .endless := by
  induction n generalizing draft with
  | zero => rfl
  | succ n ih =>
    have hstep : (once setup)^[n + 1] (fun _ _ => throw .endless)
        = once setup ((once setup)^[n] fun _ _ => throw .endless) :=
      Function.iterate_succ_apply' (once setup) n _
    rw [hstep, once_selected hselect hf]
    simp [ofFactory, Factory.unary, Blueprint.unary, ofBlueprint, beneath, outcome_bind, ih, Except.map]

end Grounded

/-! ## The number of calls -/

/-- However it ends, a computation meets at most so many operations, and it does
not give up for want of an end unless the settings do. -/
def Ends {α : Type} (parentKey : Except Fault String) (count : Nat) (x : Build α) : Prop :=
  ∀ draft, (operationsOf (after x draft).notices).length
      ≤ (operationsOf draft.notices).length + count
    ∧ (outcome x draft = .error .endless → parentKey = .error .endless)

namespace Ends

variable {α β : Type} {parentKey : Except Fault String} {m n : Nat}

theorem pure (a : α) : Ends parentKey 0 (Pure.pure a : Build α) := by
  intro draft
  exact ⟨Nat.le_refl _, fun h => by cases h⟩

theorem throw {e : Fault} (h : e = .endless → parentKey = .error .endless) :
    Ends parentKey 0 (throw e : Build α) := by
  intro draft
  exact ⟨Nat.le_refl _, fun he => h (Except.error.inj he)⟩

theorem mono {x : Build α} (h : Ends parentKey m x) (hle : m ≤ n) : Ends parentKey n x := by
  intro draft
  obtain ⟨hcount, hfault⟩ := h draft
  exact ⟨by omega, hfault⟩

theorem bind {x : Build α} {f : α → Build β} (hx : Ends parentKey m x)
    (hf : ∀ a, Ends parentKey n (f a)) : Ends parentKey (m + n) (x >>= f) := by
  intro draft
  obtain ⟨hcount, hfault⟩ := hx draft
  rw [outcome_bind, after_bind]
  cases ho : outcome x draft with
  | error e =>
    refine ⟨?_, fun he => hfault ?_⟩
    · simp only
      omega
    · obtain rfl := Except.error.inj he
      exact ho
  | ok a =>
    obtain ⟨hcount', hfault'⟩ := hf a (after x draft)
    refine ⟨?_, hfault'⟩
    simp only
    omega

theorem map {x : Build α} (hx : Ends parentKey n x) (g : α → β) :
    Ends parentKey n (do return g (← x)) :=
  hx.bind fun a => pure (g a)

theorem mapM {f : Value → Build α} {cs : List Value} (h : ∀ c ∈ cs, Ends parentKey c.size (f c)) :
    Ends parentKey (Value.sizeItems cs) (cs.mapM f) := by
  induction cs with
  | nil => exact pure []
  | cons c cs ih =>
    rw [List.mapM_cons]
    apply (h c List.mem_cons_self).bind
    intro a
    exact (ih fun c' hc' => h c' (List.mem_cons_of_mem _ hc')).map (a :: ·)

theorem note (k : Notice) : Ends parentKey (operationsOf [k]).length (Build.note k) := by
  intro draft
  have hlength := congrArg List.length (operationsOf_note k draft)
  rw [List.length_append] at hlength
  exact ⟨Nat.le_of_eq hlength, fun h => by cases h⟩

theorem lookups (ps : List (List String)) :
    Ends parentKey 0 (ps.forM fun p => Build.note (.lookup p)) := by
  intro draft
  have hlength := congrArg List.length (operationsOf_lookups ps draft)
  refine ⟨Nat.le_of_eq hlength, fun h => ?_⟩
  rw [outcome_notes] at h
  cases h

end Ends

section Operations

variable {setup : Setup} {inner : Mode → Value → Build Node} {mode : Mode}

theorem beneath_ends {parentKey : Except Fault String} {n : Nat} {c : Value}
    (h : ∀ mode, Ends parentKey n (inner mode c)) : Ends parentKey n (beneath inner mode c) := by
  cases mode with
  | plain => exact h .plain
  | recorded r => exact (h (.recorded r)).map _
  | replaced => exact ((Ends.note (.child c)).map _).mono (Nat.zero_le n)

theorem ofBlueprint_ends {parentKey : Except Fault String} {b : Blueprint}
    (h : ∀ c ∈ b.parts, ∀ mode, Ends parentKey c.size (inner mode c)) :
    Ends parentKey (Value.sizeItems b.parts) (ofBlueprint inner mode b) := by
  have hparts : Ends parentKey (Value.sizeItems b.parts) (b.parts.mapM (beneath inner mode)) :=
    Ends.mapM fun c hc => beneath_ends (h c hc)
  exact ((Ends.lookups b.lookups).bind fun _ => hparts.map b.assemble).mono (by omega)

theorem ofFactory_ends {operand : Value} {f : Factory} (hf : f.Frugal) {n : Nat}
    (hparts : ∀ b, f.blueprint setup operand = .ok b → Value.sizeItems b.parts ≤ n)
    (h : ∀ b, f.blueprint setup operand = .ok b → ∀ c ∈ b.parts, ∀ mode,
      Ends setup.parentKey c.size (inner mode c)) :
    Ends setup.parentKey n (ofFactory inner setup mode operand f) := by
  rcases ofFactory_cases f with ⟨sink, rfl⟩ | ⟨-, hplan⟩
  · have hoperand (mode : Mode) : Ends setup.parentKey operand.size (beneath inner mode operand) :=
      beneath_ends (h (Blueprint.bare operand) rfl operand List.mem_cons_self)
    have hle : operand.size ≤ n := hparts (Blueprint.bare operand) rfl
    have hnumber (sink : Sink) : Ends setup.parentKey 0 (Build.newRecorder sink) :=
      fun _ => ⟨Nat.le_refl _, fun he => by cases he⟩
    simp only [ofFactory, ofDebug]
    have hsum : 0 + operand.size ≤ n := by omega
    refine ((hnumber _).bind fun r => ?_).mono hsum
    cases mode with
    | plain => exact hoperand (.recorded r)
    | recorded r' => exact (hoperand (.recorded r')).map _
    | replaced => exact (hoperand .replaced).map _
  · rw [hplan]
    cases hb : f.blueprint setup operand with
    | error e =>
      refine (Ends.throw ?_).mono (Nat.zero_le n)
      rintro rfl
      exact hf.fault setup operand hb
    | ok b => exact (ofBlueprint_ends (h b hb)).mono (hparts b hb)

/-- A compilation meets no more operations than its definition is large. -/
theorem compile_ends (hreg : setup.registry.Grounded) (mode : Mode) (d : Value) :
    Ends setup.parentKey d.size (compile setup mode d) := by
  induction hd : d.size using Nat.strongRecOn generalizing d mode with
  | _ size ih =>
    subst hd
    rw [compile_once hreg]
    cases hselect : select setup.marker d with
    | error e =>
      rw [once_refused hselect]
      refine (Ends.throw ?_).mono (Nat.zero_le _)
      rintro rfl
      exact absurd hselect (select_ne_endless setup.marker d)
    | ok selection =>
      obtain ⟨name, operand⟩ := selection
      cases hf : setup.registry.factory? name with
      | none =>
        rw [once_unknown hselect hf]
        exact (Ends.throw fun he => by cases he).mono (Nat.zero_le _)
      | some f =>
        rw [once_selected hselect hf]
        have hbelow (b : Blueprint) (hb : f.blueprint setup operand = .ok b) :
            Value.sizeItems b.parts ≤ d.size - 1 := by
          have hparts := parts_smaller hreg hselect hf hb
          omega
        have hfactory : Ends setup.parentKey (d.size - 1)
            (ofFactory (compile setup) setup mode operand f) := by
          refine ofFactory_ends (Registry.factory?_of_all hreg.frugal hf) hbelow ?_
          intro b hb c hc mode
          have hpart := Value.size_le_sizeItems hc
          have hparts := parts_smaller hreg hselect hf hb
          exact ih c.size (by omega) mode c rfl
        have hpos := Value.size_pos d
        refine ((Ends.note (.compiling name.plain operand)).bind fun _ => hfactory).mono ?_
        simp only [operationsOf, List.reverse_singleton, List.filterMap_cons, List.filterMap_nil,
          List.length_singleton]
        omega

end Operations

/-! ## The end -/

/-- Whatever marker opens a template, and whatever is stored under names other
than those of literals and lists: calls of the compiler nest no deeper than the
definition is large, and the calls that meet an operation are no more than that,
where one that meets none is the last. None of them comes to a definition that
has not become smaller, so a node or another fault is what they end with. -/
theorem compilation_ends {registry : Registry} (hreg : registry.Extended) (marker : String)
    (parentKey : Except Fault String) (sink : Sink) (mode : Mode) (d : Value) :
    let setup : Setup := ⟨registry, marker, parentKey, sink⟩
    compile setup mode d = once setup (compile setup) mode d
      ∧ (∀ beyond n, d.size ≤ n → (once setup)^[n] beyond mode d = compile setup mode d)
      ∧ ∀ draft,
        (operationsOf (after (compile setup mode d) draft).notices).length
            ≤ (operationsOf draft.notices).length + d.size
          ∧ (outcome (compile setup mode d) draft = .error .endless → parentKey = .error .endless) := by
  intro setup
  have hgrounded : setup.registry.Grounded := hreg.grounded
  exact ⟨compile_once hgrounded mode d, fun beyond n hn => iterate_once hgrounded beyond hn mode,
    compile_ends hgrounded mode d⟩

/-- A template behind a dollar sign, where paths negate what they are given and
templates record it. -/
theorem template_in_a_path_ends :
    ∃ registry, Registry.standard.merged
          [(Operation.pathName, .factory (.unary "not" Function.not) ""),
            (Operation.templateName, .factory (.debug none) "")] = .ok registry
      ∧ outcome (compile ⟨registry, "``", .ok "parent", .log⟩ .plain (.text "$``a``")) ⟨0, [], false⟩
        = .ok (.unary "not" Function.not (.recorded ⟨0, .log⟩ (.text "`a`") (.literal (.text "`a`")))) := by
  obtain ⟨registry, hmerged, hpath, htemplate, hliteral⟩ : ∃ registry, Registry.standard.merged
          [(Operation.pathName, .factory (.unary "not" Function.not) ""),
            (Operation.templateName, .factory (.debug none) "")] = .ok registry
      ∧ registry.factory? (.text Operation.pathName) = some (.unary "not" Function.not)
      ∧ registry.factory? (.text Operation.templateName) = some (.debug none)
      ∧ registry.factory? (.text Operation.literalName) = some (.form Blueprint.literal) :=
    ⟨_, rfl, rfl, rfl, rfl⟩
  have hextended : registry.Extended := by
    refine .merged .standard (by decide) ?_ hmerged
    simp only [List.forall_mem_cons]
    exact ⟨.functional (.unary _ _), .debug none, by simp⟩
  have hcall (mode : Mode) (d : Value) :=
    (compilation_ends hextended "``" (.ok "parent") .log mode d).1
  have hfirst : select "``" (.text "$``a``") = .ok (.text Operation.pathName, .text "``a``") := rfl
  have hsecond : select "``" (.text "``a``") = .ok (.text Operation.templateName, .text "`a`") := rfl
  have hthird : select "``" (.text "`a`") = .ok (.text Operation.literalName, .text "`a`") := rfl
  have hquoted (mode : Mode) :=
    (hcall mode (.text "`a`")).trans (once_selected hthird hliteral mode)
  refine ⟨registry, hmerged, ?_⟩
  rw [hcall, once_selected hfirst hpath]
  simp only [ofFactory, Factory.unary, Blueprint.unary, ofBlueprint, liftExcept_ok, pure_bind,
    List.mapM_cons, List.mapM_nil, beneath]
  rw [hcall, once_selected hsecond htemplate]
  simp only [ofFactory, ofDebug, beneath, hquoted]
  rfl

end Compile
end Rulebook
