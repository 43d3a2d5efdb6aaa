-- Operations that put a function to the values of their operands. They are built
-- if the operands can be built, read what these read, and are evaluated once the
-- values of all of them are there.
import Rulebook.Proofs.Quoting

namespace Rulebook

namespace Blueprint

/-- The node puts a function to the values of the parts. -/
structure Applies (b : Blueprint) (f : List Value → Except Fault Value) : Prop where
  regular : b.Regular []
  value : ∀ ns p c, ns.length = b.parts.length →
    (b.assemble ns).value p c = ns.mapM (Node.value p c) >>= f

theorem unary_applies (name : String) (f : Value → Except Fault Value) (v : Value) :
    Applies ⟨[], [v], fun ns => .unary name f (ns.headD (.literal .undefined))⟩
      fun vs => f (vs.headD .undefined) where
  regular := unary_regular name f v
  value ns p c h := by
    obtain ⟨n, rfl⟩ := List.length_eq_one_iff.mp h
    simp [Node.value]

theorem binary_ok {name : String} {f : Value → Value → Except Fault Value} {ds : List Value}
    (h : 2 ≤ ds.length) : binary name f (.list ds) = .ok ⟨[], ds, fun ns => .binary name f ns⟩ := by
  simp [binary, operands, OperandCount.admits, h]

theorem binary_applies (name : String) (f : Value → Value → Except Fault Value) {ds : List Value}
    (h : 2 ≤ ds.length) : Applies ⟨[], ds, fun ns => .binary name f ns⟩ (Node.reduce f) where
  regular := binary_regular (binary_ok h)
  value ns p c _ := by rw [Node.value, Node.valueOfItems_eq]

theorem complex_ok {name : String} {n : Nat} {f : List Value → Except Fault Value} {ds : List Value}
    (h : ds.length = n) : complex name (some n) f (.list ds) = .ok ⟨[], ds, fun ns => .complex name f ns⟩ := by
  simp [complex, operands, OperandCount.admits, h]

theorem complex_applies (name : String) (f : List Value → Except Fault Value) (ds : List Value) :
    Applies ⟨[], ds, fun ns => .complex name f ns⟩ f where
  regular := complex_regular (complex_ok rfl)
  value ns p c _ := by rw [Node.value, Node.valueOfItems_eq]

theorem Applies.paths {b : Blueprint} {f : List Value → Except Fault Value} (h : b.Applies f) {ns : List Node}
    (hns : ns.length = b.parts.length) : (b.assemble ns).paths = ns.flatMap Node.paths := by
  unfold Node.paths
  rw [h.regular.sources ns hns, List.nil_append, List.filterMap_flatMap]

end Blueprint

namespace Logic

theorem eval_outside {l : Logic} {context : Value} (h : l.contextIn? context = none) (j : Journal) :
    outcome (l.eval context) j = .error (.contextType context.typeName) := by
  cases context with
  | null | object _ => cases h
  | _ => rfl

theorem alone_outside {around : Surroundings} {base d : Value} {fields : Fields} {settings : LogicSettings}
    (hbase : Entries.ofValue base = .ok fields) (hset : around.settings = .ok settings) {l m : Logic}
    (hm : outcome (build around [] base d) ⟨0, [], false⟩ = .ok m) (hl : l.base = fields)
    {context : Value} (hc : l.contextIn? context = none) (j : Journal) :
    alone around base d j context = .error (.contextType context.typeName) := by
  have hfields : m.base = fields := (build_parts hbase rfl hset hm).2.1
  have hcontext : m.contextIn? context = none :=
    (contextIn?_congr (hfields.trans hl.symm) context).trans hc
  rw [alone, hm, ok_bind, eval_outside hcontext]

section Applied

variable {around : Surroundings} {base operand : Value} {name : String}
  {plan : Value → Except Fault Blueprint} {b : Blueprint} {f : List Value → Except Fault Value}

theorem form_builds (hready : Ready around base)
    (hf : Registry.standard.factory? (.text name) = some (.form plan)) (hplan : plan operand = .ok b)
    (hlookups : b.lookups = []) (hsize : ∀ d ∈ b.parts, d.size ≤ operand.size)
    (hparts : ∀ d ∈ b.parts, ∃ l, outcome (build around [] base d) ⟨0, [], false⟩ = .ok l) (draft : Draft) :
    ∃ l, outcome (build around [] base (Compile.longForm name operand)) draft = .ok l := by
  obtain ⟨fields, settings, hbase, hset⟩ := hready
  exact (build_selected hbase hset rfl hf hplan hlookups
    (fun d hd => Compile.size_lt_longForm (hsize d hd)) draft).ok_of_mapM hparts

theorem applied_builds (hready : Ready around base)
    (hf : Registry.standard.factory? (.text name) = some (.form plan)) (hplan : plan operand = .ok b)
    (hb : b.Applies f) (hsize : ∀ d ∈ b.parts, d.size ≤ operand.size)
    (hparts : ∀ d ∈ b.parts, ∃ l, outcome (build around [] base d) ⟨0, [], false⟩ = .ok l) (draft : Draft) :
    ∃ l, outcome (build around [] base (Compile.longForm name operand)) draft = .ok l :=
  form_builds hready hf hplan hb.regular.lookups hsize hparts draft

/-- Operands evaluate by themselves as their nodes do. -/
theorem alone_parts {fields : Fields} {settings : LogicSettings} (hbase : Entries.ofValue base = .ok fields)
    (hset : around.settings = .ok settings) {ds : List Value} {ns : List Node} {l : Logic} {ls : List Logic}
    (hls : List.Forall₂ (fun d m => outcome (build around [] base d) ⟨0, [], false⟩ = .ok m) ds ls)
    (hns : List.Forall₂ (StandsFor fields) ns ls) (hl : l.base = fields) {context : Value} {c : Fields}
    (hc : l.contextIn? context = some c) (j : Journal) :
    List.Forall₂ (fun d n => alone around base d j context = n.value j.policy c) ds ns := by
  induction hls generalizing ns with
  | nil =>
    cases hns
    exact .nil
  | cons hm _ ih =>
    cases hns with
    | cons hn hns => exact .cons ((alone_eq hbase hset hm hl hc j).trans (hn.value j.policy c)) (ih hns)

/-- A function of operands reads what they read. Once the values of all of them
are there it is put to these. -/
theorem applied_means (hf : Registry.standard.factory? (.text name) = some (.form plan))
    (hplan : plan operand = .ok b) (hb : b.Applies f) (hne : b.parts ≠ [])
    (hsize : ∀ d ∈ b.parts, d.size ≤ operand.size) {draft : Draft} {l : Logic}
    (hl : outcome (build around [] base (Compile.longForm name operand)) draft = .ok l) :
    ∃ ls, (b.parts.mapM fun d => outcome (build around [] base d) ⟨0, [], false⟩) = .ok ls
      ∧ l.lookups = ls.flatMap lookups
      ∧ ∀ context j, outcome (l.eval context) j
          = (b.parts.mapM fun d => alone around base d j context) >>= f := by
  obtain ⟨fields, _, settings, hbase, -, hset⟩ := build_ok hl
  have hbuilt := build_selected hbase hset rfl hf hplan hb.regular.lookups
    (fun d hd => Compile.size_lt_longForm (hsize d hd)) draft
  obtain ⟨ls, hls, ns, hns, hholds⟩ := hbuilt.exists_ok hl
  have hparts := mapM_ok hls
  have hlength : ns.length = b.parts.length := hns.length_eq.trans hparts.length_eq.symm
  refine ⟨ls, hls, ?_, fun context j => ?_⟩
  · have hpaths : ns.map Node.paths = ls.map lookups :=
      map_eq_of_forall₂ hns fun n m hm => hm.lookups.symm
    rw [hholds.lookups, hb.paths hlength, List.flatMap_def, hpaths, List.flatMap_def]
  · cases hc : l.contextIn? context with
    | none =>
      -- the first operand fails like the whole
      obtain ⟨d, rest, hd⟩ := List.exists_cons_of_ne_nil hne
      rw [hd] at hparts ⊢
      cases hparts with
      | cons hfirst _ =>
        rw [List.mapM_cons, alone_outside hbase hset hfirst hholds.base hc, eval_outside hc]
        rfl
    | some c =>
      have hvalues := alone_parts hbase hset hparts hns hholds.base hc j
      rw [eval_built hl hc, hholds.root, hb.value ns j.policy c hlength,
        mapM_eq_of_forall₂ hvalues fun _ _ h => h]

end Applied

section Binary

variable {around : Surroundings} {base : Value} {name : String} {f : Value → Value → Except Fault Value}
  {ds : List Value} (hf : Registry.standard.factory? (.text name) = some (.binary name f))
  (hcount : 2 ≤ ds.length)
include hf hcount

/-- An operation of two operands or more is built if these can be built by
themselves. -/
theorem binary_builds (hds : ∀ d ∈ ds, ∃ l, outcome (build around [] base d) ⟨0, [], false⟩ = .ok l)
    (draft : Draft) :
    ∃ l, outcome (build around [] base (Compile.longForm name (.list ds))) draft = .ok l := by
  -- for then everything around them is in order
  obtain ⟨d, hd⟩ := List.exists_mem_of_length_pos (Nat.lt_of_lt_of_le Nat.two_pos hcount)
  obtain ⟨l, hl⟩ := hds d hd
  obtain ⟨fields, _, settings, hbase, -, hset⟩ := build_ok hl
  have hsize : ∀ d ∈ ds, d.size ≤ (Value.list ds).size := fun d hd => Nat.le_of_lt (Value.size_lt_list hd)
  exact applied_builds ⟨fields, settings, hbase, hset⟩ hf (Blueprint.binary_ok hcount)
    (Blueprint.binary_applies name f hcount) hsize hds draft

/-- It takes the values of its operands two at a time, once all of them are
there. -/
theorem binary_means {draft : Draft} {l : Logic}
    (hl : outcome (build around [] base (Compile.longForm name (.list ds))) draft = .ok l) :
    ∃ ls, (ds.mapM fun d => outcome (build around [] base d) ⟨0, [], false⟩) = .ok ls
      ∧ l.lookups = ls.flatMap lookups
      ∧ ∀ context j, outcome (l.eval context) j
          = (ds.mapM fun d => alone around base d j context) >>= Node.reduce f := by
  have hne : ds ≠ [] := List.ne_nil_of_length_pos (Nat.lt_of_lt_of_le Nat.two_pos hcount)
  have hsize : ∀ d ∈ ds, d.size ≤ (Value.list ds).size := fun d hd => Nat.le_of_lt (Value.size_lt_list hd)
  exact applied_means hf (Blueprint.binary_ok hcount) (Blueprint.binary_applies name f hcount) hne hsize hl

end Binary

section Pair

variable {around : Surroundings} {base : Value} {name : String} {f : Value → Value → Except Fault Value}
  {d e : Value} (hf : Registry.standard.factory? (.text name) = some (.pair name f))
include hf

/-- An operation of two operands is built if both can be built by themselves. -/
theorem pair_builds (hd : ∃ l, outcome (build around [] base d) ⟨0, [], false⟩ = .ok l)
    (he : ∃ l, outcome (build around [] base e) ⟨0, [], false⟩ = .ok l) (draft : Draft) :
    ∃ l, outcome (build around [] base (Compile.longForm name (.list [d, e]))) draft = .ok l := by
  obtain ⟨l, hl⟩ := hd
  obtain ⟨fields, _, settings, hbase, -, hset⟩ := build_ok hl
  have hsize : ∀ c ∈ [d, e], c.size ≤ (Value.list [d, e]).size := fun c hc => Nat.le_of_lt (Value.size_lt_list hc)
  refine applied_builds ⟨fields, settings, hbase, hset⟩ hf (Blueprint.complex_ok rfl)
    (Blueprint.complex_applies name _ [d, e]) hsize ?_ draft
  exact List.forall_mem_cons.mpr ⟨⟨l, hl⟩, List.forall_mem_singleton.mpr he⟩

/-- Its function is put to the two values. -/
theorem pair_means {draft : Draft} {l : Logic}
    (hl : outcome (build around [] base (Compile.longForm name (.list [d, e]))) draft = .ok l)
    (context : Value) (j : Journal) :
    outcome (l.eval context) j
      = (do f (← alone around base d j context) (← alone around base e j context)) := by
  have hsize : ∀ c ∈ [d, e], c.size ≤ (Value.list [d, e]).size := fun c hc => Nat.le_of_lt (Value.size_lt_list hc)
  obtain ⟨ls, -, -, heval⟩ := applied_means hf (Blueprint.complex_ok rfl)
    (Blueprint.complex_applies name _ [d, e]) (by simp) hsize hl
  rw [heval]
  simp only [List.mapM_cons, List.mapM_nil, bind_assoc, pure_bind]
  rfl

/-- So it is for the operation as an operand itself. -/
theorem alone_pair (hd : ∃ l, outcome (build around [] base d) ⟨0, [], false⟩ = .ok l)
    (he : ∃ l, outcome (build around [] base e) ⟨0, [], false⟩ = .ok l) (j : Journal) (context : Value) :
    alone around base (Compile.longForm name (.list [d, e])) j context
      = (do f (← alone around base d j context) (← alone around base e j context)) := by
  obtain ⟨l, hl⟩ := pair_builds hf hd he ⟨0, [], false⟩
  rw [alone, hl, ok_bind, pair_means hf hl]

end Pair

end Logic

end Rulebook
