-- Trees that obey a law: a property of single nodes that the nodes of the
-- standard operations have, given what their definitions are made of. Compilation
-- puts nodes of operations together and adds none of another kind, so that the
-- whole tree obeys the law.
import Rulebook.Proofs.Building
import Rulebook.Proofs.Evaluations

namespace Rulebook

/-- Whether a node is nothing but the nodes beneath it put together. -/
def Node.isPlain : Node → Bool
  | .literal _ | .unary .. | .binary .. | .complex .. | .object _ => false
  | _ => true

/-- What holds of single nodes, given what holds of the definitions they are
compiled from. -/
structure Law where
  /-- What holds of a definition, and of all that stands in it. -/
  data : Value → Prop
  /-- What holds of the keys in a definition. -/
  key : Key → Prop
  /-- What holds of a node, whatever the nodes beneath it. -/
  node : Node → Prop
  text (s : String) : data (.text s)
  item {xs : List Value} (h : data (.list xs)) : ∀ x ∈ xs, data x
  entry {fs : Fields} (h : data (.object fs)) : ∀ e ∈ fs, key e.1 ∧ data e.2
  missing : node (.literal .undefined)
  literal {v : Value} (h : data v) : node (.literal v)
  object {es : List (Key × Node)} (h : ∀ e ∈ es, key e.1) : node (.object es)
  plain {n : Node} (h : n.isPlain = true) : node n

/-- A tree all of whose nodes obey a law. -/
inductive Node.Obeys (law : Law) : Node → Prop
  | of {n : Node} (own : law.node n) (parts : ∀ x ∈ parts n, Obeys law x) : Obeys law n

/-- The nodes of the standard functions obey the law. -/
structure Law.Standard (law : Law) : Prop where
  typeof (x : Node) : law.node (.unary "typeof" Function.typeof x)
  not (x : Node) : law.node (.unary "not" Function.not x)
  capitalize (x : Node) : law.node (.unary "capitalize" Function.capitalize x)
  and (xs : List Node) : law.node (.binary "and" Function.and xs)
  or (xs : List Node) : law.node (.binary "or" Function.or xs)
  eq (xs : List Node) : law.node (.binary "eq" Function.eq xs)
  concat (xs : List Node) : law.node (.binary "concat" Function.concat xs)
  relate (name : String) (r : Relation) (xs : List Node) :
    law.node (.binary name (Function.relate r) xs)
  split (xs : List Node) : law.node (.complex "split" (Function.onPair Function.split) xs)
  join (xs : List Node) : law.node (.complex "join" (Function.onPair Function.join) xs)

/-- A blueprint whose node obeys the law if the nodes of its parts do. -/
structure Blueprint.Obeys (law : Law) (b : Blueprint) : Prop where
  parts : ∀ c ∈ b.parts, law.data c
  assemble : ∀ ns, (∀ n ∈ ns, n.Obeys law) → (b.assemble ns).Obeys law

/-! ## Blueprints -/

namespace Blueprint

variable {law : Law} {v : Value} {b : Blueprint}

theorem literal_obeys (h : law.data v) : (Node.literal v).Obeys law :=
  .of (law.literal h) (by simp [Node.parts])

theorem missing_obeys : (Node.literal .undefined).Obeys law := .of law.missing (by simp [Node.parts])

theorem headD_obeys {ns : List Node} (h : ∀ n ∈ ns, n.Obeys law) :
    (ns.headD (.literal .undefined)).Obeys law := by
  cases ns with
  | nil => exact missing_obeys
  | cons n ns => exact h n List.mem_cons_self

theorem payloads_data (h : law.data v) : ∀ c ∈ payloads v, law.data c := by
  intro c hc
  exact mem_payloads (P := law.data) (fun _ hxs => law.item hxs)
    (fun _ hfs e he => (law.entry hfs e he).2) h hc

theorem quote_obeys (h : law.data v) {ns : List Node} (hns : ∀ n ∈ ns, n.Obeys law) :
    (quote v ns).1.Obeys law ∧ ∀ n ∈ (quote v ns).2, n.Obeys law := by
  induction v generalizing ns with
  | list xs ih =>
    have hitems : (∀ n ∈ (quoteItems xs ns).1, n.Obeys law)
        ∧ ∀ n ∈ (quoteItems xs ns).2, n.Obeys law := by
      replace h := law.item h
      induction xs generalizing ns with
      | nil => exact ⟨by simp [quoteItems], hns⟩
      | cons x xs ihxs =>
        obtain ⟨hfirst, hleft⟩ := ih x (by simp) (h x (by simp)) hns
        obtain ⟨hrest, hleft'⟩ := ihxs (fun y hy => ih y (List.mem_cons_of_mem _ hy)) hleft
          (fun y hy => h y (List.mem_cons_of_mem _ hy))
        exact ⟨List.forall_mem_cons.mpr ⟨hfirst, hrest⟩, hleft'⟩
    exact ⟨.of (law.plain rfl) hitems.1, hitems.2⟩
  | object fs ih =>
    cases hget : Mapping.get? logicKey fs with
    | some d =>
      rw [quote_logic hget]
      exact ⟨headD_obeys hns, fun n hn => hns n (List.mem_of_mem_tail hn)⟩
    | none =>
      have hfields : (∀ e ∈ (quoteFields fs ns).1, law.key e.1 ∧ e.2.Obeys law)
          ∧ ∀ n ∈ (quoteFields fs ns).2, n.Obeys law := by
        replace h := law.entry h
        clear hget
        induction fs generalizing ns with
        | nil => exact ⟨by simp [quoteFields], hns⟩
        | cons e fs ihfs =>
          obtain ⟨hkey, hvalue⟩ := h e (by simp)
          obtain ⟨hfirst, hleft⟩ := ih e (by simp) hvalue hns
          obtain ⟨hrest, hleft'⟩ := ihfs (fun y hy => ih y (List.mem_cons_of_mem _ hy)) hleft
            (fun y hy => h y (List.mem_cons_of_mem _ hy))
          exact ⟨List.forall_mem_cons.mpr ⟨⟨hkey, hfirst⟩, hrest⟩, hleft'⟩
      rw [quote_fields hget]
      refine ⟨.of (law.object fun e he => (hfields.1 e he).1) fun x hx => ?_, hfields.2⟩
      obtain ⟨e, he, rfl⟩ := List.mem_map.mp hx
      exact (hfields.1 e he).2
  | _ => exact ⟨literal_obeys h, hns⟩

theorem path_obeys {r : Resolver} (h : path r v = .ok b) : b.Obeys law := by
  cases v with
  | text s =>
    obtain rfl := Except.ok.inj h
    exact ⟨by simp, fun ns _ => .of (law.plain rfl) (by simp [Node.parts])⟩
  | _ => cases h

theorem template_obeys (h : template v = .ok b) : b.Obeys law := by
  cases v with
  | text s =>
    obtain rfl := Except.ok.inj h
    refine ⟨fun c hc => ?_, fun ns hns => .of (law.plain rfl) hns⟩
    obtain ⟨name, -, rfl⟩ := List.mem_map.mp hc
    exact law.text _
  | _ => cases h

theorem branch_obeys (hv : law.data v) (h : branch v = .ok b) : b.Obeys law := by
  obtain ⟨xs, rfl, -, rfl⟩ := of_operands h
  refine ⟨law.item hv, fun ns hns => ?_⟩
  rcases ns with _ | ⟨c, _ | ⟨t, _ | ⟨f, _ | _⟩⟩⟩
  · exact missing_obeys
  · exact missing_obeys
  · refine .of (law.plain rfl) fun x hx => ?_
    simp only [Node.parts, List.mem_cons, List.not_mem_nil, or_false] at hx
    rcases hx with rfl | rfl | rfl
    · exact hns _ (by simp)
    · exact hns _ (by simp)
    · exact missing_obeys
  · exact .of (law.plain rfl) hns
  · exact missing_obeys

theorem unary_obeys {name : String} {f : Value → Except Fault Value} (hv : law.data v)
    (hf : ∀ x, law.node (.unary name f x)) (h : unary name f v = .ok b) : b.Obeys law := by
  obtain rfl := Except.ok.inj h
  refine ⟨by simpa using hv, fun ns hns => .of (hf _) fun x hx => ?_⟩
  obtain rfl := List.mem_singleton.mp hx
  exact headD_obeys hns

theorem binary_obeys {name : String} {f : Value → Value → Except Fault Value} (hv : law.data v)
    (hf : ∀ xs, law.node (.binary name f xs)) (h : binary name f v = .ok b) : b.Obeys law := by
  obtain ⟨xs, rfl, -, rfl⟩ := of_operands h
  exact ⟨law.item hv, fun ns hns => .of (hf ns) hns⟩

theorem complex_obeys {name : String} {arity : Option Nat} {f : List Value → Except Fault Value}
    (hv : law.data v) (hf : ∀ xs, law.node (.complex name f xs)) (h : complex name arity f v = .ok b) :
    b.Obeys law := by
  obtain ⟨xs, rfl, -, rfl⟩ := of_operands h
  exact ⟨law.item hv, fun ns hns => .of (hf ns) hns⟩

theorem calculated_obeys (h : b.Obeys law) : (calculated b).Obeys law := by
  refine ⟨h.parts, fun ns hns => .of (law.plain rfl) fun x hx => ?_⟩
  obtain rfl := List.mem_singleton.mp hx
  exact h.assemble ns hns

theorem array_obeys (hv : law.data v) (h : array v = .ok b) : b.Obeys law := by
  cases v with
  | list xs =>
    obtain rfl := Except.ok.inj h
    exact ⟨law.item hv, fun ns hns => .of (law.plain rfl) hns⟩
  | _ => cases h

theorem object_obeys (hv : law.data v) (h : object v = .ok b) : b.Obeys law := by
  cases v with
  | object fs =>
    obtain rfl := Except.ok.inj h
    replace hv := law.entry hv
    refine ⟨fun c hc => ?_, fun ns hns => .of (law.object fun e he => ?_) fun x hx => ?_⟩
    · obtain ⟨e, he, rfl⟩ := List.mem_map.mp hc
      exact (hv e he).2
    · obtain ⟨e', he', hk⟩ := List.mem_map.mp (List.of_mem_zip he).1
      exact hk ▸ (hv e' he').1
    · obtain ⟨e, he, rfl⟩ := List.mem_map.mp hx
      exact hns e.2 (List.of_mem_zip he).2
  | _ => cases h

theorem property_obeys (hv : law.data v) (h : property v = .ok b) : b.Obeys law := by
  obtain ⟨xs, rfl, -, rfl⟩ := of_operands h
  refine ⟨law.item hv, fun ns hns => .of (law.plain rfl) fun x hx => ?_⟩
  rcases List.mem_cons.mp hx with rfl | hx
  · exact headD_obeys hns
  · exact hns x (List.mem_of_mem_tail hx)

theorem map_obeys (hv : law.data v) (h : map v = .ok b) : b.Obeys law := by
  obtain ⟨xs, rfl, -, rfl⟩ := of_operands h
  refine ⟨law.item hv, fun ns hns => ?_⟩
  rcases ns with _ | ⟨source, _ | ⟨body, _ | _⟩⟩
  · exact missing_obeys
  · exact missing_obeys
  · exact .of (law.plain rfl) hns
  · exact missing_obeys

end Blueprint

/-! ## Operations -/

/-- An operation whose nodes obey a law. -/
def Factory.Obeys (law : Law) : Factory → Prop
  | .form plan => ∀ v b, law.data v → plan v = .ok b → b.Obeys law
  | _ => True

theorem Factory.Obeys.blueprint {law : Law} {f : Factory} (hf : f.Obeys law)
    (hne : ∀ sink, f ≠ .debug sink) {setup : Compile.Setup} {operand : Value}
    (hoperand : law.data operand) {b : Blueprint} (h : f.blueprint setup operand = .ok b) :
    b.Obeys law := by
  cases f with
  | form plan => exact hf operand b hoperand h
  | configuredPath =>
    obtain ⟨parent, -, hpath⟩ := bind_ok h
    exact Blueprint.path_obeys hpath
  | debug sink => exact absurd rfl (hne sink)

theorem Registry.standard_obeys {law : Law} (hlaw : law.Standard) :
    Registry.standard.All (Factory.Obeys law) := by
  have hall : ∀ o ∈ Operation.standard, o.factory.Obeys law := by
    unfold Operation.standard
    simp only [List.forall_mem_cons, List.not_mem_nil, false_implies, implies_true, and_true]
    refine ⟨?literal, trivial, ?template, ?branch, ?typeof, ?not, ?and, ?or, ?eq, ?gt, ?gte, ?lt,
      ?lte, ?array, ?object, ?property, ?map, trivial, ?capitalize, ?concat, ?split, ?join⟩
    all_goals intro v b hv h
    case literal =>
      obtain rfl := Except.ok.inj h
      exact ⟨Blueprint.payloads_data hv, fun ns hns => (Blueprint.quote_obeys hv hns).1⟩
    case template => exact Blueprint.template_obeys h
    case branch => exact Blueprint.branch_obeys hv h
    case array => exact Blueprint.array_obeys hv h
    case object => exact Blueprint.object_obeys hv h
    case property => exact Blueprint.property_obeys hv h
    case map => exact Blueprint.map_obeys hv h
    case typeof => exact Blueprint.unary_obeys hv hlaw.typeof h
    case not => exact Blueprint.unary_obeys hv hlaw.not h
    case capitalize => exact Blueprint.unary_obeys hv hlaw.capitalize h
    case and => exact Blueprint.binary_obeys hv hlaw.and h
    case or => exact Blueprint.binary_obeys hv hlaw.or h
    case eq => exact Blueprint.binary_obeys hv hlaw.eq h
    case concat => exact Blueprint.binary_obeys hv hlaw.concat h
    case gt | gte | lt | lte => exact Blueprint.binary_obeys hv (hlaw.relate _ _) h
    case split => exact Blueprint.complex_obeys hv hlaw.split h
    case join => exact Blueprint.complex_obeys hv hlaw.join h
  intro e he
  obtain ⟨o, ho, rfl⟩ := List.mem_map.mp he
  exact hall o ho

/-! ## Compilation -/

namespace Compile

variable {law : Law}

theorem selectText_data {marker s : String} {name : Key} {operand : Value}
    (h : selectText marker s = .ok (name, operand)) : law.data operand := by
  unfold selectText at h
  split at h
  · obtain rfl := (Prod.mk.inj (Except.ok.inj h)).2
    exact law.text _
  · split at h
    · split at h
      · cases h
      · obtain rfl := (Prod.mk.inj (Except.ok.inj h)).2
        exact law.text _
    · obtain rfl := (Prod.mk.inj (Except.ok.inj h)).2
      exact law.text _

theorem select_data {marker : String} {d : Value} (hd : law.data d) {name : Key}
    {operand : Value} (h : select marker d = .ok (name, operand)) : law.data operand := by
  unfold select at h
  split at h
  case h_1 => exact selectText_data h
  case h_2 | h_5 =>
    obtain rfl := (Prod.mk.inj (Except.ok.inj h)).2
    exact hd
  case h_3 => cases h
  case h_4 =>
    obtain rfl := (Prod.mk.inj (Except.ok.inj h)).2
    exact (law.entry hd _ List.mem_cons_self).2

theorem recorded_obeys {x : Build Node} (h : Ensures (Node.Obeys law) x) (r : Recorder)
    (d : Value) : Ensures (Node.Obeys law) (do return .recorded r d (← x)) := by
  refine h.bind fun n hn => Ensures.pure (.of (law.plain rfl) ?_)
  simpa [Node.parts] using hn

section Beneath

variable {compile : Mode → Value → Build Node}

theorem beneath_obeys {mode : Mode} {c : Value}
    (h : ∀ mode, Ensures (Node.Obeys law) (compile mode c)) :
    Ensures (Node.Obeys law) (beneath compile mode c) := by
  cases mode with
  | plain => exact h .plain
  | recorded r => exact recorded_obeys (h (.recorded r)) r c
  | replaced =>
    exact Ensures.bind_any fun _ => Ensures.pure (Blueprint.literal_obeys (law.text _))

theorem ofBlueprint_obeys {mode : Mode} {b : Blueprint} (hb : b.Obeys law)
    (h : ∀ mode c, law.data c → Ensures (Node.Obeys law) (compile mode c)) :
    Ensures (Node.Obeys law) (ofBlueprint compile mode b) := by
  refine Ensures.bind_any fun _ => ?_
  have hparts : Ensures (fun ns => ∀ n ∈ ns, Node.Obeys law n) (b.parts.mapM (beneath compile mode)) :=
    Ensures.mapM fun c hc => beneath_obeys fun mode => h mode c (hb.parts c hc)
  exact hparts.bind fun ns hns => Ensures.pure (hb.assemble ns hns)

theorem ofFactory_obeys {setup : Setup} {mode : Mode}
    (h : ∀ mode c, law.data c → Ensures (Node.Obeys law) (compile mode c))
    {f : Factory} (hf : f.Obeys law) {operand : Value} (hoperand : law.data operand) :
    Ensures (Node.Obeys law) (ofFactory compile setup mode operand f) := by
  rcases ofFactory_cases f with ⟨sink, rfl⟩ | ⟨hne, hplan⟩
  · refine Ensures.bind_any fun r => ?_
    have hbeneath (mode : Mode) : Ensures (Node.Obeys law) (beneath compile mode operand) :=
      beneath_obeys fun mode => h mode operand hoperand
    cases mode with
    | plain => exact hbeneath (.recorded r)
    | recorded r' => exact recorded_obeys (hbeneath (.recorded r')) r operand
    | replaced => exact recorded_obeys (hbeneath .replaced) r operand
  · rw [hplan]
    cases hb : f.blueprint setup operand with
    | error e => exact Ensures.throw e
    | ok b => exact ofBlueprint_obeys (hf.blueprint hne hoperand hb) h

/-- A definition is compiled to a tree that obeys the law of its operations. -/
theorem compile_obeys {setup : Setup} (hreg : setup.registry.All (Factory.Obeys law)) (mode : Mode)
    {d : Value} (hd : law.data d) : Ensures (Node.Obeys law) (Compile.compile setup mode d) := by
  refine compile_induction
    (motive := fun _ d x => law.data d → Ensures (Node.Obeys law) x)
    (fun _ _ e _ => Ensures.throw e) ?_ mode d hd
  intro mode d name operand f compile hselect hf hcompile hd
  refine Ensures.bind_any fun _ => ?_
  exact ofFactory_obeys hcompile (Registry.factory?_of_all hreg hf) (select_data hd hselect)

end Beneath

end Compile
end Rulebook
