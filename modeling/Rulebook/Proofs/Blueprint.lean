-- What the blueprints of operations have in common. A regular one reports
-- what its own node reads, puts the nodes of its parts in order, and adds no
-- recorder of its own. All standard operations make regular blueprints, and so does
-- what a host builds from a function.
import Rulebook.Proofs.Computation
import Rulebook.Proofs.Mapping
import Rulebook.Proofs.Tree
import Rulebook.Registry

namespace Rulebook

open Node (Source)

namespace Blueprint

/-- The node of a blueprint reads some sources of its own and then those of
its parts, in order; its own paths are the reported ones. -/
structure Regular (own : List Source) (b : Blueprint) : Prop where
  lookups : b.lookups = own.filterMap Source.path?
  retrace : ∀ f ns, (b.assemble ns).retrace f = b.assemble (ns.map (Node.retrace f))
  sources : ∀ ns, ns.length = b.parts.length →
    (b.assemble ns).sources = own ++ ns.flatMap Node.sources

/-! ## Literals -/

theorem payloadsOfItems_eq (xs : List Value) : payloadsOfItems xs = xs.flatMap payloads := by
  induction xs with
  | nil => rfl
  | cons x xs ih => simp [payloadsOfItems, ih]

theorem payloadsOfFields_eq (fs : Fields) : payloadsOfFields fs = fs.flatMap fun e => payloads e.2 := by
  induction fs with
  | nil => rfl
  | cons e fs ih => simp [payloadsOfFields, ih]

section Fields

variable {fs : Fields} {d : Value}

theorem payloads_logic (h : Mapping.get? logicKey fs = some d) : payloads (.object fs) = [d] := by
  simp [payloads, h]

theorem payloads_fields (h : Mapping.get? logicKey fs = none) :
    payloads (.object fs) = payloadsOfFields fs := by
  simp [payloads, h]

theorem quote_logic (h : Mapping.get? logicKey fs = some d) (ns : List Node) :
    quote (.object fs) ns = (ns.headD (.literal .undefined), ns.tail) := by
  simp [quote, h]

theorem quote_fields (h : Mapping.get? logicKey fs = none) (ns : List Node) :
    quote (.object fs) ns = (.object (quoteFields fs ns).1, (quoteFields fs ns).2) := by
  simp [quote, h]

end Fields

/-- What items and entries have from their collection, expressions have from
their literal. -/
theorem mem_payloads {P : Value → Prop} (hlist : ∀ xs, P (.list xs) → ∀ x ∈ xs, P x)
    (hobject : ∀ fs, P (.object fs) → ∀ e ∈ fs, P e.2) {v c : Value} (hv : P v) (h : c ∈ payloads v) :
    P c := by
  induction v with
  | list xs ih =>
    rw [payloads, payloadsOfItems_eq, List.mem_flatMap] at h
    obtain ⟨x, hx, hc⟩ := h
    exact ih x hx (hlist xs hv x hx) hc
  | object fs ih =>
    cases hget : Mapping.get? logicKey fs with
    | some d =>
      rw [payloads_logic hget, List.mem_singleton] at h
      obtain ⟨e, he, rfl⟩ := Mapping.mem_of_get? hget
      rw [h]
      exact hobject fs hv e he
    | none =>
      rw [payloads_fields hget, payloadsOfFields_eq, List.mem_flatMap] at h
      obtain ⟨e, he, hc⟩ := h
      exact ih e he (hobject fs hv e he) hc
  | _ => cases h

/-- A literal has no recorders but those of its expressions. -/
theorem quote_retrace (f : Recorder → Value → Node → Node) (v : Value) (ns : List Node) :
    quote v (ns.map (Node.retrace f))
      = ((quote v ns).1.retrace f, (quote v ns).2.map (Node.retrace f)) := by
  induction v generalizing ns with
  | list xs ih =>
    have hitems : ∀ ms, quoteItems xs (ms.map (Node.retrace f))
        = ((quoteItems xs ms).1.map (Node.retrace f), (quoteItems xs ms).2.map (Node.retrace f)) := by
      induction xs with
      | nil => intro ms; rfl
      | cons x xs ihxs =>
        intro ms
        simp only [quoteItems, ih x (by simp), ihxs fun y hy => ih y (List.mem_cons_of_mem _ hy)]
        rfl
    simp [quote, hitems, Node.retrace]
  | object fs ih =>
    have hfields : ∀ ms, quoteFields fs (ms.map (Node.retrace f))
        = (Node.retraceEntries f (quoteFields fs ms).1, (quoteFields fs ms).2.map (Node.retrace f)) := by
      clear ns
      induction fs with
      | nil => intro ms; rfl
      | cons e fs ihfs =>
        intro ms
        simp only [quoteFields, ih e (by simp), ihfs fun y hy => ih y (List.mem_cons_of_mem _ hy)]
        rfl
    cases hget : Mapping.get? logicKey fs with
    | none => simp only [quote_fields hget, hfields, Node.retrace]
    | some d => cases ns <;> simp [quote_logic hget, Node.retrace]
  | _ => rfl

/-- A literal takes one node for each of its expressions. -/
theorem quote_rest (v : Value) (ns : List Node) : (quote v ns).2 = ns.drop (payloads v).length := by
  induction v generalizing ns with
  | list xs ih =>
    unfold quote payloads
    induction xs generalizing ns with
    | nil => rfl
    | cons x xs ihxs =>
      simp only [quoteItems, payloadsOfItems, List.length_append]
      rw [ihxs (fun y hy => ih y (List.mem_cons_of_mem _ hy)), ih x (by simp), List.drop_drop]
  | object fs ih =>
    cases hget : Mapping.get? logicKey fs with
    | some d => simp [quote_logic hget, payloads_logic hget]
    | none =>
      simp only [quote_fields hget, payloads_fields hget]
      clear hget
      induction fs generalizing ns with
      | nil => rfl
      | cons e fs ihfs =>
        simp only [quoteFields, payloadsOfFields, List.length_append]
        rw [ihfs (fun y hy => ih y (List.mem_cons_of_mem _ hy)), ih e (by simp), List.drop_drop]
  | _ => rfl

/-- The nodes of a literal are read in order. -/
theorem quote_sources (v : Value) (ns : List Node) (h : (payloads v).length ≤ ns.length) :
    (quote v ns).1.sources = (ns.take (payloads v).length).flatMap Node.sources := by
  induction v generalizing ns with
  | list xs ih =>
    simp only [quote, payloads, Node.sources, Node.sourcesOfItems_eq] at h ⊢
    induction xs generalizing ns with
    | nil => rfl
    | cons x xs ihxs =>
      simp only [payloadsOfItems, List.length_append] at h
      have hrest : (payloadsOfItems xs).length ≤ (ns.drop (payloads x).length).length := by
        rw [List.length_drop]
        omega
      simp only [quoteItems, payloadsOfItems, List.length_append, List.take_add, List.flatMap_cons,
        List.flatMap_append, quote_rest]
      rw [ih x (by simp) ns (by omega), ihxs (fun y hy => ih y (List.mem_cons_of_mem _ hy)) _ hrest]
  | object fs ih =>
    cases hget : Mapping.get? logicKey fs with
    | some d =>
      rw [payloads_logic hget] at h ⊢
      rw [quote_logic hget]
      cases ns with
      | nil => simp at h
      | cons n ns => simp
    | none =>
      rw [payloads_fields hget] at h ⊢
      rw [quote_fields hget]
      simp only [Node.sources, Node.sourcesOfEntries_eq]
      clear hget
      induction fs generalizing ns with
      | nil => rfl
      | cons e fs ihfs =>
        simp only [payloadsOfFields, List.length_append] at h
        have hrest : (payloadsOfFields fs).length ≤ (ns.drop (payloads e.2).length).length := by
          rw [List.length_drop]
          omega
        simp only [quoteFields, payloadsOfFields, List.length_append, List.take_add,
          List.flatMap_cons, List.flatMap_append, quote_rest]
        rw [ih e (by simp) ns (by omega),
          ihfs (fun y hy => ih y (List.mem_cons_of_mem _ hy)) _ hrest]
  | _ => rfl

theorem literal_regular (v : Value) :
    Regular [] ⟨[], payloads v, fun ns => (quote v ns).1⟩ where
  lookups := rfl
  retrace f ns := by simp [quote_retrace]
  sources ns h := by
    rw [quote_sources v ns (by simp [h]), List.nil_append, List.take_of_length_le (by simp [h])]

/-! ## Texts -/

theorem path_regular {resolver : Resolver} {v : Value} {b : Blueprint}
    (h : path resolver v = .ok b) : ∃ names, b.Regular [.path names resolver] := by
  cases v with
  | text s =>
    obtain rfl := Except.ok.inj h
    refine ⟨Text.dotted s, rfl, fun _ _ => rfl, fun ns hns => ?_⟩
    rw [List.length_eq_zero_iff.mp hns]
    rfl
  | _ => cases h

theorem template_regular {v : Value} {b : Blueprint} (h : template v = .ok b) : b.Regular [] := by
  cases v with
  | text s =>
    obtain rfl := Except.ok.inj h
    exact ⟨rfl, fun f ns => by simp [Node.retrace], fun ns _ => by simp [Node.sources]⟩
  | _ => cases h

/-! ## Operands -/

theorem operands_list (name : String) {count : OperandCount} {xs : List Value}
    (h : count.admits xs.length = true) : operands name count (.list xs) = .ok xs := if_pos h

theorem operands_ok {name : String} {count : OperandCount} {v : Value} {xs : List Value}
    (h : operands name count v = .ok xs) : v = .list xs ∧ count.admits xs.length = true := by
  cases v with
  | list ys =>
    simp only [operands] at h
    split at h
    · obtain rfl := Except.ok.inj h
      exact ⟨rfl, ‹_›⟩
    · cases h
  | _ => cases h

/-- What is made of counted operands, if there are as many as it needs. -/
theorem of_operands {name : String} {count : OperandCount} {v : Value} {b : Blueprint}
    {make : List Value → Blueprint}
    (h : (do let xs ← operands name count v; return make xs) = Except.ok b) :
    ∃ xs, v = .list xs ∧ count.admits xs.length = true ∧ make xs = b := by
  cases hxs : operands name count v with
  | error e => rw [hxs] at h; cases h
  | ok xs =>
    rw [hxs] at h
    obtain ⟨hv, hcount⟩ := operands_ok hxs
    exact ⟨xs, hv, hcount, Except.ok.inj h⟩

theorem headD_retrace (f : Recorder → Value → Node → Node) (ns : List Node) :
    (ns.headD (.literal .undefined)).retrace f
      = (ns.map (Node.retrace f)).headD (.literal .undefined) := by
  cases ns <;> rfl

theorem branch_regular {v : Value} {b : Blueprint} (h : branch v = .ok b) : b.Regular [] := by
  obtain ⟨xs, -, hcount, rfl⟩ := of_operands h
  refine ⟨rfl, fun f ns => ?_, fun ns hns => ?_⟩
  · rcases ns with _ | ⟨c, _ | ⟨t, _ | ⟨f, _ | _⟩⟩⟩ <;> rfl
  · simp only [OperandCount.admits, Bool.and_eq_true, decide_eq_true_eq] at hcount
    simp only at hns
    rcases ns with _ | ⟨c, _ | ⟨t, _ | ⟨f, _ | _⟩⟩⟩ <;>
      simp only [List.length_cons, List.length_nil] at hns
    · omega
    · omega
    · simp [Node.sources]
    · simp [Node.sources]
    · omega

theorem unary_regular (name : String) (f : Value → Except Fault Value) (v : Value) :
    Regular [] ⟨[], [v], fun ns => .unary name f (ns.headD (.literal .undefined))⟩ where
  lookups := rfl
  retrace f ns := by simp only [Node.retrace, headD_retrace]
  sources ns h := by
    obtain ⟨n, rfl⟩ := List.length_eq_one_iff.mp h
    simp [Node.sources]

theorem binary_regular {name : String} {f : Value → Value → Except Fault Value} {v : Value}
    {b : Blueprint} (h : binary name f v = .ok b) : b.Regular [] := by
  obtain ⟨xs, -, -, rfl⟩ := of_operands h
  exact ⟨rfl, fun f ns => by simp [Node.retrace], fun ns _ => by simp [Node.sources]⟩

theorem complex_regular {name : String} {arity : Option Nat} {f : List Value → Except Fault Value}
    {v : Value} {b : Blueprint} (h : complex name arity f v = .ok b) : b.Regular [] := by
  obtain ⟨xs, -, -, rfl⟩ := of_operands h
  exact ⟨rfl, fun f ns => by simp [Node.retrace], fun ns _ => by simp [Node.sources]⟩

theorem calculated_regular {own : List Source} {b : Blueprint} (h : b.Regular own) :
    (calculated b).Regular (.count :: own) where
  lookups := h.lookups
  retrace f ns := by simp [calculated, Node.retrace, h.retrace]
  sources ns hns := by simp [calculated, Node.sources, h.sources ns hns]

/-! ## Collections -/

theorem array_regular {v : Value} {b : Blueprint} (h : array v = .ok b) : b.Regular [] := by
  cases v with
  | list xs =>
    obtain rfl := Except.ok.inj h
    exact ⟨rfl, fun f ns => by simp [Node.retrace], fun ns _ => by simp [Node.sources]⟩
  | _ => cases h

theorem object_regular {v : Value} {b : Blueprint} (h : object v = .ok b) : b.Regular [] := by
  cases v with
  | object fs =>
    obtain rfl := Except.ok.inj h
    refine ⟨rfl, fun f ns => ?_, fun ns hns => ?_⟩
    · simp [Node.retrace, List.zip_map_right, Prod.map]
    · have hsnd : (((fs.map Prod.fst).zip ns).map Prod.snd) = ns :=
        List.map_snd_zip (by simp [hns])
      simp only [Node.sources, Node.sourcesOfEntries_eq, List.nil_append]
      rw [← hsnd, List.flatMap_map, hsnd]
  | _ => cases h

theorem property_regular {v : Value} {b : Blueprint} (h : property v = .ok b) : b.Regular [] := by
  obtain ⟨xs, -, hcount, rfl⟩ := of_operands h
  refine ⟨rfl, fun f ns => ?_, fun ns hns => ?_⟩
  · cases ns <;> simp [Node.retrace]
  · cases ns with
    | nil =>
      simp only [OperandCount.admits, decide_eq_true_eq] at hcount
      simp only [List.length_nil] at hns
      omega
    | cons n ns => simp [Node.sources]

theorem map_regular {v : Value} {b : Blueprint} (h : map v = .ok b) : b.Regular [] := by
  obtain ⟨xs, -, hcount, rfl⟩ := of_operands h
  refine ⟨rfl, fun f ns => ?_, fun ns hns => ?_⟩
  · rcases ns with _ | ⟨source, _ | ⟨body, _ | _⟩⟩ <;> rfl
  · simp only [OperandCount.admits, beq_iff_eq] at hcount
    obtain ⟨source, body, rfl⟩ := List.length_eq_two.mp (hns.trans hcount)
    simp [Node.sources]

/-! ## Debug operations -/

/-- The operand alone. -/
def bare (operand : Value) : Blueprint :=
  ⟨[], [operand], fun ns => ns.headD (.literal .undefined)⟩

theorem bare_regular (operand : Value) : (bare operand).Regular [] where
  lookups := rfl
  retrace f ns := headD_retrace f ns
  sources ns h := by
    obtain ⟨n, rfl⟩ := List.length_eq_one_iff.mp h
    simp [bare]

end Blueprint

/-! ## Operations -/

/-- All blueprints of a factory are regular, and what their nodes read
themselves is allowed. -/
def Factory.Regular (allowed : Source → Prop) : Factory → Prop
  | .form plan => ∀ v b, plan v = .ok b → ∃ own, (∀ s ∈ own, allowed s) ∧ b.Regular own
  | _ => True

namespace Factory

theorem Regular.mono {allowed allowed' : Source → Prop} {f : Factory} (h : f.Regular allowed)
    (hmono : ∀ s, allowed s → allowed' s) : f.Regular allowed' := by
  cases f with
  | form plan =>
    intro v b hb
    obtain ⟨own, hown, hreg⟩ := h v b hb
    exact ⟨own, fun s hs => hmono s (hown s hs), hreg⟩
  | _ => trivial

/-- A factory whose nodes read nothing themselves. -/
theorem regular_of_forall {plan : Value → Except Fault Blueprint}
    (h : ∀ v b, plan v = .ok b → b.Regular []) (allowed : Source → Prop) :
    (Factory.form plan).Regular allowed :=
  fun v b hb => ⟨[], by simp, h v b hb⟩

/-- What a host builds from a function of one, two, or any number of values;
calculations included. -/
inductive Functional : Factory → Prop
  | unary (name : String) (f : Value → Except Fault Value) : Functional (.unary name f)
  | binary (name : String) (f : Value → Value → Except Fault Value) : Functional (.binary name f)
  | complex (name : String) (arity : Option Nat) (f : List Value → Except Fault Value) :
      Functional (.complex name arity f)
  | calculation {plan : Value → Except Fault Blueprint} :
      Functional (.form plan) → Functional (Extension.calculation plan)

theorem unary_regular (name : String) (f : Value → Except Fault Value) (allowed : Source → Prop) :
    (Factory.unary name f).Regular allowed := by
  refine regular_of_forall (fun v b h => ?_) allowed
  obtain rfl := Except.ok.inj h
  exact Blueprint.unary_regular name f v

theorem binary_regular (name : String) (f : Value → Value → Except Fault Value)
    (allowed : Source → Prop) : (Factory.binary name f).Regular allowed :=
  regular_of_forall (fun _ _ => Blueprint.binary_regular) allowed

theorem complex_regular (name : String) (arity : Option Nat) (f : List Value → Except Fault Value)
    (allowed : Source → Prop) : (Factory.complex name arity f).Regular allowed :=
  regular_of_forall (fun _ _ => Blueprint.complex_regular) allowed

theorem Functional.regular {f : Factory} (h : f.Functional) :
    f.Regular (· = Source.count) := by
  induction h with
  | unary name f => exact unary_regular name f _
  | binary name f => exact binary_regular name f _
  | complex name arity f => exact complex_regular name arity f _
  | @calculation plan _ ih =>
    intro v b hb
    cases hplan : plan v with
    | error e => simp [hplan, Except.map] at hb
    | ok b' =>
      obtain rfl : Blueprint.calculated b' = b := by simpa [hplan, Except.map] using hb
      obtain ⟨own, hown, hreg⟩ := ih v b' hplan
      exact ⟨.count :: own, by simpa using hown, Blueprint.calculated_regular hreg⟩

end Factory

/-! ## Registries -/

/-- The factory that an entry brings is of a kind, if it brings one. -/
def Entry.Brings (P : Factory → Prop) : Entry → Prop
  | .factory f _ => P f
  | .operation o => P o.factory
  | .other _ => True

theorem Entry.Brings.mono {P Q : Factory → Prop} {e : Entry} (h : e.Brings P)
    (hmono : ∀ f, P f → Q f) : e.Brings Q := by
  cases e with
  | factory f description => exact hmono f h
  | operation o => exact hmono o.factory h
  | other t => trivial

namespace Registry

/-- Every operation has a factory of a kind. -/
def All (P : Factory → Prop) (r : Registry) : Prop := ∀ e ∈ r.operations, P e.2.factory

variable {P : Factory → Prop}

theorem factory?_of_all {r : Registry} (h : r.All P) {key : Key} {f : Factory}
    (hf : r.factory? key = some f) : P f := by
  cases key with
  | text name =>
    simp only [factory?, find?, Option.map_eq_some_iff] at hf
    obtain ⟨o, ho, rfl⟩ := hf
    obtain ⟨e, he, rfl⟩ := Mapping.mem_of_get? ho
    exact h e he
  | _ => cases hf

theorem accept_brings {name : String} {e : Entry} {o : Operation} (h : accept name e = .ok o)
    (he : e.Brings P) : P o.factory := by
  cases e with
  | factory f description =>
    obtain rfl := Except.ok.inj h
    exact he
  | operation o' =>
    obtain rfl := Except.ok.inj h
    exact he
  | other t => cases h

theorem ofEntries_all {entries : List (String × Entry)} {r : Registry}
    (h : ofEntries entries = .ok r) (he : ∀ e ∈ entries, e.2.Brings P) : r.All P := by
  unfold ofEntries at h
  cases hops : entries.mapM (fun e => do return (e.1, ← accept e.1 e.2)) with
  | error f => rw [hops] at h; cases h
  | ok ops =>
    rw [hops] at h
    obtain rfl := Except.ok.inj h
    intro e' he'
    obtain ⟨e, hmem, heq⟩ := mem_of_mapM_ok hops he'
    cases ho : accept e.1 e.2 with
    | error f => rw [ho] at heq; cases heq
    | ok o =>
      rw [ho] at heq
      obtain rfl := Except.ok.inj heq
      exact accept_brings ho (he e hmem)

/-- Merging keeps the kind of all factories. -/
theorem merged_all {r r' : Registry} {changes : List (String × Entry)}
    (h : r.merged changes = .ok r') (hr : r.All P) (hc : ∀ e ∈ changes, e.2.Brings P) :
    r'.All P := by
  unfold merged at h
  split at h
  · obtain rfl := Except.ok.inj h
    exact hr
  · refine ofEntries_all h fun e he => ?_
    obtain ⟨u, hu, heq⟩ := Mapping.mem_overlay he
    rw [← heq]
    rcases List.mem_append.mp hu with hu | hu
    · obtain ⟨o, ho, rfl⟩ := List.mem_map.mp hu
      exact hr o ho
    · exact hc u hu

theorem standard_operations_regular (allowed : Source → Prop) :
    ∀ o ∈ Operation.standard, o.factory.Regular allowed := by
  unfold Operation.standard
  simp only [List.forall_mem_cons, List.not_mem_nil, false_implies, implies_true, and_true]
  refine ⟨?literal, trivial, ?template, ?branch, ?typeof, ?not, ?and, ?or, ?eq, ?gt, ?gte, ?lt,
    ?lte, ?array, ?object, ?property, ?map, trivial, ?capitalize, ?concat, ?split, ?join⟩
  case literal =>
    refine Factory.regular_of_forall (fun v b h => ?_) allowed
    obtain rfl := Except.ok.inj h
    exact Blueprint.literal_regular v
  case template => exact Factory.regular_of_forall (fun _ _ => Blueprint.template_regular) allowed
  case branch => exact Factory.regular_of_forall (fun _ _ => Blueprint.branch_regular) allowed
  case array => exact Factory.regular_of_forall (fun _ _ => Blueprint.array_regular) allowed
  case object => exact Factory.regular_of_forall (fun _ _ => Blueprint.object_regular) allowed
  case property => exact Factory.regular_of_forall (fun _ _ => Blueprint.property_regular) allowed
  case map => exact Factory.regular_of_forall (fun _ _ => Blueprint.map_regular) allowed
  case typeof | not | capitalize => exact Factory.unary_regular _ _ allowed
  case split | join => exact Factory.complex_regular _ _ _ allowed
  all_goals exact Factory.binary_regular _ _ allowed

/-- Standard operations read nothing but configured paths. -/
theorem standard_all (allowed : Source → Prop) : standard.All (Factory.Regular allowed) := by
  intro e he
  obtain ⟨o, ho, rfl⟩ := List.mem_map.mp he
  exact standard_operations_regular allowed o ho

end Registry
end Rulebook
