-- Literals with expressions inside. A literal is its own value, but for the
-- outermost expressions in it, which are evaluated in their places.
import Rulebook.Proofs.Rephrasing

namespace Rulebook

namespace Blueprint

/-! ## Data with expressions in it -/

mutual
/-- The data of a literal with each outermost expression read. -/
def spliced (reading : Value → Except Fault Value) : Value → Except Fault Value
  | .list xs => do return .list (← splicedItems reading xs)
  | .object fs =>
    match Mapping.get? logicKey fs with
    | some d => reading d
    | none => do return .object (← splicedFields reading fs)
  | v => .ok v
def splicedItems (reading : Value → Except Fault Value) : List Value → Except Fault (List Value)
  | [] => .ok []
  | x :: xs => do
    let v ← spliced reading x
    return v :: (← splicedItems reading xs)
def splicedFields (reading : Value → Except Fault Value) :
    List (Key × Value) → Except Fault (List (Key × Value))
  | [] => .ok []
  | (k, v) :: fs => do
    let w ← spliced reading v
    return (k, w) :: (← splicedFields reading fs)
end

section Spliced

variable {reading : Value → Except Fault Value} {fs : Fields} {d : Value}

theorem splicedItems_eq (reading : Value → Except Fault Value) (xs : List Value) :
    splicedItems reading xs = xs.mapM (spliced reading) := by
  induction xs with
  | nil => rfl
  | cons x xs ih => simp only [splicedItems, ih, List.mapM_cons]

theorem splicedFields_eq (reading : Value → Except Fault Value) (fs : Fields) :
    splicedFields reading fs = fs.mapM fun e => do return (e.1, ← spliced reading e.2) := by
  induction fs with
  | nil => rfl
  | cons e fs ih => simp only [splicedFields, ih, List.mapM_cons, bind_assoc, pure_bind]

theorem spliced_logic (h : Mapping.get? logicKey fs = some d) : spliced reading (.object fs) = reading d := by
  rw [spliced, h]

theorem spliced_fields (h : Mapping.get? logicKey fs = none) :
    spliced reading (.object fs) = (do return .object (← splicedFields reading fs)) := by
  rw [spliced, h]

/-- Where no mapping holds an expression the data stays as it is. -/
theorem spliced_plain (reading : Value → Except Fault Value) {v : Value}
    (h : ∀ fs, Value.Inside (.object fs) v → Mapping.get? logicKey fs = none) :
    spliced reading v = .ok v := by
  induction v with
  | list xs ih =>
    have hitems : xs.mapM (spliced reading) = xs.mapM pure :=
      mapM_congr fun x hx => ih x hx fun fs hfs => h fs (.item hx hfs)
    rw [spliced, splicedItems_eq, hitems, List.mapM_pure, List.map_id']
    rfl
  | object fs ih =>
    have hfields : (fs.mapM fun e => do return (e.1, ← spliced reading e.2)) = fs.mapM pure := by
      refine mapM_congr fun e he => ?_
      rw [ih e he fun gs hgs => h gs (.entry he hgs)]
      rfl
    rw [spliced_fields (h fs .here), splicedFields_eq, hfields, List.mapM_pure, List.map_id']
    rfl
  | _ => rfl

theorem payloads_plain {v : Value} (h : ∀ fs, Value.Inside (.object fs) v → Mapping.get? logicKey fs = none) :
    payloads v = [] := by
  induction v with
  | list xs ih =>
    rw [payloads, payloadsOfItems_eq, List.flatMap_eq_nil_iff]
    exact fun x hx => ih x hx fun fs hfs => h fs (.item hx hfs)
  | object fs ih =>
    rw [payloads_fields (h fs .here), payloadsOfFields_eq, List.flatMap_eq_nil_iff]
    exact fun e he => ih e he fun gs hgs => h gs (.entry he hgs)
  | _ => rfl

/-- Two lists of results that fail alike, part by part. -/
theorem failsAlike_flatMap {α β : Type} {f : α → Except Fault β} {g : α → List Value} {xs : List α}
    (h : ∀ x ∈ xs, Related Eq (fun _ _ => True) (f x) ((g x).mapM reading)) :
    Related Eq (fun _ _ => True) (xs.mapM f) ((xs.flatMap g).mapM reading) := by
  induction xs with
  | nil => trivial
  | cons x xs ih =>
    rw [List.mapM_cons, List.flatMap_cons, List.mapM_append]
    refine (h x (by simp)).bind fun _ _ _ => ?_
    refine (ih fun y hy => h y (List.mem_cons_of_mem _ hy)).bind fun _ _ _ => ?_
    trivial

/-- Data fails with its expressions. -/
theorem spliced_failsAlike (reading : Value → Except Fault Value) (v : Value) :
    Related Eq (fun _ _ => True) (spliced reading v) ((payloads v).mapM reading) := by
  induction v with
  | list xs ih =>
    rw [spliced, payloads, splicedItems_eq, payloadsOfItems_eq, ← bind_pure (List.mapM reading _)]
    exact (failsAlike_flatMap ih).bind fun _ _ _ => trivial
  | object fs ih =>
    cases hget : Mapping.get? logicKey fs with
    | some d =>
      rw [spliced_logic hget, payloads_logic hget]
      cases hd : reading d <;> simp [Related, hd]
    | none =>
      rw [spliced_fields hget, payloads_fields hget, splicedFields_eq, payloadsOfFields_eq,
        ← bind_pure (List.mapM reading _)]
      refine (failsAlike_flatMap fun e he => ?_).bind fun _ _ _ => trivial
      rw [← bind_pure (List.mapM reading _)]
      exact (ih e he).bind fun _ _ _ => trivial
  | _ => trivial

end Spliced

/-! ## The node of a literal -/

/-- A literal over the nodes of its expressions is its data with their values. -/
theorem quote_value {reading : Value → Except Fault Value} {p : Policy} {c : Fields} (v : Value)
    {ns : List Node} (rest : List Node)
    (h : ns.map (Node.value p c) = (payloads v).map reading) :
    (quote v (ns ++ rest)).1.value p c = spliced reading v ∧ (quote v (ns ++ rest)).2 = rest := by
  -- nodes are dealt out from the left, so each item leaves those of the later ones
  induction v generalizing ns rest with
  | list xs ih =>
    have hitems : (quoteItems xs (ns ++ rest)).1.mapM (Node.value p c) = splicedItems reading xs
        ∧ (quoteItems xs (ns ++ rest)).2 = rest := by
      rw [payloads] at h
      induction xs generalizing ns with
      | nil =>
        obtain rfl := List.map_eq_nil_iff.mp h
        exact ⟨rfl, rfl⟩
      | cons x xs ihxs =>
        rw [payloadsOfItems, List.map_append, List.map_eq_append_iff] at h
        obtain ⟨ms, ms', rfl, hms, hms'⟩ := h
        obtain ⟨hx, hleft⟩ := ih x (by simp) (ms' ++ rest) hms
        obtain ⟨hxs, hleft'⟩ := ihxs (fun y hy => ih y (List.mem_cons_of_mem _ hy)) hms'
        rw [List.append_assoc, quoteItems, splicedItems]
        simp only [hleft, List.mapM_cons, hx, hxs]
        exact ⟨trivial, hleft'⟩
    rw [quote, spliced, Node.value, Node.valueOfItems_eq, hitems.1]
    exact ⟨rfl, hitems.2⟩
  | object fs ih =>
    cases hget : Mapping.get? logicKey fs with
    | some d =>
      rw [payloads_logic hget, List.map_singleton] at h
      obtain ⟨n, rfl, hn⟩ := List.map_eq_singleton_iff.mp h
      rw [quote_logic hget, spliced_logic hget]
      exact ⟨hn, rfl⟩
    | none =>
      have hfields : Node.valueOfEntries p c (quoteFields fs (ns ++ rest)).1 = splicedFields reading fs
          ∧ (quoteFields fs (ns ++ rest)).2 = rest := by
        rw [payloads_fields hget] at h
        clear hget
        induction fs generalizing ns with
        | nil =>
          obtain rfl := List.map_eq_nil_iff.mp h
          exact ⟨rfl, rfl⟩
        | cons e fs ihfs =>
          rw [payloadsOfFields, List.map_append, List.map_eq_append_iff] at h
          obtain ⟨ms, ms', rfl, hms, hms'⟩ := h
          obtain ⟨he, hleft⟩ := ih e (by simp) (ms' ++ rest) hms
          obtain ⟨hfs, hleft'⟩ := ihfs (fun e' he' => ih e' (List.mem_cons_of_mem _ he')) hms'
          rw [List.append_assoc, quoteFields, splicedFields]
          simp only [hleft, Node.valueOfEntries, he, hfs]
          exact ⟨trivial, hleft'⟩
      rw [quote_fields hget, spliced_fields hget, Node.value, hfields.1]
      exact ⟨rfl, hfields.2⟩
  | _ =>
    obtain rfl := List.map_eq_nil_iff.mp h
    exact ⟨rfl, rfl⟩

end Blueprint

namespace Logic

/-! ## Logics of literals -/

/-- A logic by itself says the same as a node beneath another definition. -/
structure StandsFor (fields : Fields) (n : Node) (l : Logic) : Prop where
  base : l.base = fields
  lookups : l.lookups = n.paths
  value : ∀ p c, l.root.value p c = n.value p c

section Build

variable {around : Surroundings} {base : Value} {fields : Fields} {settings : LogicSettings}

/-- A definition compiled in whatever draft is one that is built by itself. -/
theorem compile_standsFor (hbase : Entries.ofValue base = .ok fields)
    (hset : around.settings = .ok settings) (d : Value) (draft : Draft) :
    Related Eq (StandsFor fields)
      (outcome (Compile.compile (setup around Registry.standard settings) .plain d) draft)
      (outcome (build around [] base d) ⟨0, [], false⟩) := by
  have hnone : ∀ e ∈ ([] : List (String × Entry)), e.2.Brings (Factory.Regular fun _ => True) := by
    simp
  -- what is built from this draft says the same as the node, and the same as
  -- what is built from the first one, but for recorders
  have hholds := (build_compiles hbase hset d draft draft rfl).1
  have halike : Related Eq (fun l m => l.anonymous = m.anonymous)
      (outcome (build around [] base d) ⟨0, [], false⟩) (outcome (build around [] base d) draft) :=
    (build_alike hnone base d ⟨0, [], false⟩ draft trivial).1
  refine (hholds.flip.join halike).imp fun n l _ _ h => ?_
  obtain ⟨m, hm, hl⟩ := h
  have hbases : l.anonymous.base = m.anonymous.base := by rw [hl]
  have hlookups : l.anonymous.lookups = m.anonymous.lookups := by rw [hl]
  have hroots : l.anonymous.root = m.anonymous.root := by rw [hl]
  refine ⟨hbases.trans hm.base, hlookups.trans hm.lookups, fun p c => ?_⟩
  calc l.root.value p c = l.anonymous.root.value p c := (Node.value_anonymous p l.root c).symm
    _ = m.anonymous.root.value p c := by rw [hroots]
    _ = m.root.value p c := Node.value_anonymous p m.root c
    _ = n.value p c := by rw [hm.root]

/-- A plain operation is built if all definitions beneath it can be built by
themselves, and then it is the node over theirs. -/
theorem build_selected (hbase : Entries.ofValue base = .ok fields)
    (hset : around.settings = .ok settings) {d operand : Value} {name : Key}
    {plan : Value → Except Fault Blueprint} {b : Blueprint}
    (hselect : Compile.select settings.marker d = .ok (name, operand))
    (hf : Registry.standard.factory? name = some (.form plan)) (hplan : plan operand = .ok b)
    (hlookups : b.lookups = []) (hsize : ∀ c ∈ b.parts, c.size < d.size) (draft : Draft) :
    Related Eq (fun l ls => ∃ ns, List.Forall₂ (StandsFor fields) ns ls ∧ l.Holds d fields (b.assemble ns))
      (outcome (build around [] base d) draft)
      (b.parts.mapM fun c => outcome (build around [] base c) ⟨0, [], false⟩) := by
  have hbuilt := (build_compiles hbase hset d).trans Compile.sameCount_equivalence
    (Compile.compile_selected hselect hf hplan hlookups hsize)
  have hwhole := (hbuilt draft draft rfl).1
  rw [bind_pure_comp, outcome_map] at hwhole
  have hparts : Related Eq (List.Forall₂ (StandsFor fields))
      (outcome (b.parts.mapM (Compile.compile (setup around Registry.standard settings) .plain)) draft)
      (b.parts.mapM fun c => outcome (build around [] base c) ⟨0, [], false⟩) :=
    Related.mapM (fun c _ s => compile_standsFor hbase hset c s) draft
  have hassembled : Related Eq
      (fun ls n => ∃ ns, List.Forall₂ (StandsFor fields) ns ls ∧ n = b.assemble ns)
      ((b.parts.mapM fun c => outcome (build around [] base c) ⟨0, [], false⟩) >>= pure)
      ((outcome (b.parts.mapM
        (Compile.compile (setup around Registry.standard settings) .plain)) draft).map b.assemble) :=
    hparts.flip.bind fun ls ns h => ⟨ns, h, rfl⟩
  rw [bind_pure] at hassembled
  refine (hwhole.join hassembled).imp fun l ls _ _ h => ?_
  obtain ⟨n, hl, ns, hns, rfl⟩ := h
  exact ⟨ns, hns, hl⟩

/-- So is a literal over the nodes of its expressions. -/
theorem build_literal (hbase : Entries.ofValue base = .ok fields)
    (hset : around.settings = .ok settings) (v : Value) (draft : Draft) :
    Related Eq
      (fun l ls => ∃ ns, List.Forall₂ (StandsFor fields) ns ls
        ∧ l.Holds (Compile.longForm "literal" v) fields (Blueprint.quote v ns).1)
      (outcome (build around [] base (Compile.longForm "literal" v)) draft)
      ((Blueprint.payloads v).mapM fun d => outcome (build around [] base d) ⟨0, [], false⟩) := by
  have hfactory : Registry.standard.factory? (.text "literal") = some (.form Blueprint.literal) := rfl
  have hsize : ∀ c ∈ Blueprint.payloads v, c.size < (Compile.longForm "literal" v).size :=
    fun c hc => Compile.size_lt_longForm (Blueprint.size_le_of_payload hc)
  exact build_selected (b := ⟨[], Blueprint.payloads v, fun ns => (Blueprint.quote v ns).1⟩) hbase hset
    rfl hfactory rfl rfl hsize draft

/-- The node of a literal reads what its expressions read. -/
theorem quote_lookups {v : Value} {ns : List Node} {ls : List Logic}
    (h : List.Forall₂ (StandsFor fields) ns ls) (hlength : (Blueprint.payloads v).length = ns.length) :
    (Blueprint.quote v ns).1.paths = ls.flatMap lookups := by
  have hpaths : (Blueprint.quote v ns).1.paths = ns.flatMap Node.paths := by
    unfold Node.paths
    rw [Blueprint.quote_sources v ns (Nat.le_of_eq hlength), hlength, List.take_length,
      List.filterMap_flatMap]
  have hsame : ns.map Node.paths = ls.map lookups := map_eq_of_forall₂ h fun n l hl => hl.lookups.symm
  rw [hpaths, List.flatMap_def, hsame, List.flatMap_def]

theorem literal_builds (hready : Ready around base) {v : Value} (draft : Draft)
    (hparts : ∀ d ∈ Blueprint.payloads v, ∃ l, outcome (build around [] base d) ⟨0, [], false⟩ = .ok l) :
    ∃ l, outcome (build around [] base (Compile.longForm "literal" v)) draft = .ok l := by
  obtain ⟨fields, settings, hbase, hset⟩ := hready
  exact (build_literal hbase hset v draft).ok_of_mapM hparts

theorem literal_means {v : Value} {draft : Draft} {l : Logic}
    (hl : outcome (build around [] base (Compile.longForm "literal" v)) draft = .ok l) :
    ∃ ls, ((Blueprint.payloads v).mapM fun d => outcome (build around [] base d) ⟨0, [], false⟩) = .ok ls
      ∧ l.lookups = ls.flatMap lookups
      ∧ ∀ context c j, l.contextIn? context = some c →
        outcome (l.eval context) j = Blueprint.spliced (fun d => alone around base d j context) v := by
  obtain ⟨fields, _, settings, hbase, -, hset⟩ := build_ok hl
  obtain ⟨ls, hls, ns, hns, hholds⟩ := (build_literal hbase hset v draft).exists_ok hl
  have hbuilt := mapM_ok hls
  have hlength : (Blueprint.payloads v).length = ns.length := hbuilt.length_eq.trans hns.length_eq.symm
  refine ⟨ls, hls, hholds.lookups.trans (quote_lookups hns hlength), fun context c j hc => ?_⟩
  have hnodes : ns.map (Node.value j.policy c) = ls.map fun m => m.root.value j.policy c :=
    map_eq_of_forall₂ hns fun n m hm => (hm.value j.policy c).symm
  have halone : ((Blueprint.payloads v).map fun d => alone around base d j context)
      = ls.map fun m => m.root.value j.policy c :=
    map_eq_of_forall₂ hbuilt fun d m hm => alone_eq hbase hset hm hholds.base hc j
  have hvalue := (Blueprint.quote_value v [] (hnodes.trans halone.symm)).1
  rw [List.append_nil] at hvalue
  rw [eval_built hl hc, hholds.root, hvalue]

end Build

/-- A literal is its data with the value of each outermost expression in the
place of the mapping that holds it, in the same context; it reads what these
expressions read, and fails as the first of them that fails. It is built if
all of them can be built. Data without an expression is itself. -/
theorem literals_evaluate_their_outermost_expressions (around : Surroundings) (base v : Value)
    (draft : Draft) :
    (∀ l, outcome (build around [] base (Compile.longForm "literal" v)) draft = .ok l →
      ∃ ls, ((Blueprint.payloads v).mapM fun d => outcome (build around [] base d) ⟨0, [], false⟩) = .ok ls
        ∧ l.lookups = ls.flatMap lookups
        ∧ ∀ context c j, l.contextIn? context = some c →
          outcome (l.eval context) j = Blueprint.spliced (fun d => alone around base d j context) v
          ∧ ∀ e, outcome (l.eval context) j = .error e ↔ ∃ before d rest,
              Blueprint.payloads v = before ++ d :: rest
                ∧ (∀ d' ∈ before, ∃ w, alone around base d' j context = .ok w)
                ∧ alone around base d j context = .error e)
      ∧ (Ready around base →
          (∀ d ∈ Blueprint.payloads v, ∃ l, outcome (build around [] base d) ⟨0, [], false⟩ = .ok l) →
          ∃ l, outcome (build around [] base (Compile.longForm "literal" v)) draft = .ok l)
      ∧ (Ready around base →
          (∀ fs, Value.Inside (.object fs) v → Mapping.contains Blueprint.logicKey fs = false) →
          ∃ l, outcome (build around [] base (Compile.longForm "literal" v)) draft = .ok l
            ∧ l.lookups = []
            ∧ ∀ context c j, l.contextIn? context = some c → outcome (l.eval context) j = .ok v) := by
  refine ⟨fun l hl => ?_, fun hready => literal_builds hready draft, fun hready hplain => ?_⟩
  · obtain ⟨ls, hls, hlookups, heval⟩ := literal_means hl
    refine ⟨ls, hls, hlookups, fun context c j hc => ⟨heval context c j hc, fun e => ?_⟩⟩
    rw [heval context c j hc, ← mapM_error_iff]
    exact (Blueprint.spliced_failsAlike _ v).error_iff e
  · have hnone : ∀ fs, Value.Inside (.object fs) v → Mapping.get? Blueprint.logicKey fs = none :=
      fun fs hfs => Mapping.get?_of_not_contains (hplain fs hfs)
    have hpayloads := Blueprint.payloads_plain hnone
    obtain ⟨l, hl⟩ := literal_builds (v := v) hready draft (by simp [hpayloads])
    obtain ⟨ls, hls, hlookups, heval⟩ := literal_means hl
    rw [hpayloads] at hls
    obtain rfl := Except.ok.inj hls
    refine ⟨l, hl, hlookups, fun context c j hc => ?_⟩
    rw [heval context c j hc, Blueprint.spliced_plain _ hnone]

/-- Of two texts that look like a path the one in an expression is read. -/
theorem look_alike_of_a_path_is_kept :
    (∃ l, outcome (build ordinary [] .null (Compile.longForm "literal" (.list
          [.object [(Blueprint.logicKey, .text "$x"), (.text "y", .int 1)], .text "$x"]))) ⟨0, [], false⟩ = .ok l
        ∧ l.lookups = [["x"]]
        ∧ outcome (l.eval (.object [(.text "x", .int 7)])) Journal.empty
          = .ok (.list [.int 7, .text "$x"]))
      ∧ ∃ l, outcome (build ordinary [] .null (Compile.longForm "literal" (.list [.text "$x"]))) ⟨0, [], false⟩
          = .ok l ∧ outcome (l.eval .null) Journal.empty = .ok (.list [.text "$x"]) := by
  have hset : ordinary.settings = .ok ⟨false, Settings.defaultParentKey, Settings.defaultMarker⟩ := rfl
  have hbase : Entries.ofValue .null = .ok [] := rfl
  have hready : Ready ordinary .null := ⟨_, _, hbase, hset⟩
  have hpath := build_path (s := "$x") hbase hset "x" rfl ⟨0, [], false⟩
  constructor
  · obtain ⟨hmeans, hbuilds, -⟩ := literals_evaluate_their_outermost_expressions ordinary .null (.list
      [.object [(Blueprint.logicKey, .text "$x"), (.text "y", .int 1)], .text "$x"]) ⟨0, [], false⟩
    have hpayloads : Blueprint.payloads (.list
        [.object [(Blueprint.logicKey, .text "$x"), (.text "y", .int 1)], .text "$x"]) = [.text "$x"] := rfl
    rw [hpayloads] at hmeans hbuilds
    obtain ⟨l, hl⟩ := hbuilds hready fun d hd => by
      obtain rfl := List.mem_singleton.mp hd
      exact ⟨_, hpath⟩
    obtain ⟨ls, hls, hlookups, heval⟩ := hmeans l hl
    simp only [List.mapM_cons, List.mapM_nil, hpath] at hls
    obtain rfl := Except.ok.inj hls
    have hfields : l.base = [] := (build_parts hbase rfl hset hl).2.1
    have hcontext : l.contextIn? (.object [(.text "x", .int 7)]) = some [(.text "x", .int 7)] :=
      contextIn?_object hfields _
    have halone : alone ordinary .null (.text "$x") Journal.empty (.object [(.text "x", .int 7)])
        = .ok (.int 7) := alone_eq hbase hset hpath hfields hcontext Journal.empty
    refine ⟨l, hl, hlookups, ?_⟩
    have hlogic : Mapping.get? Blueprint.logicKey
        ([(Blueprint.logicKey, .text "$x"), (.text "y", .int 1)] : Fields) = some (.text "$x") := rfl
    rw [(heval _ _ Journal.empty hcontext).1]
    simp only [Blueprint.spliced, Blueprint.splicedItems, hlogic, halone]
    rfl
  · have hplain (fs : Fields) (h : Value.Inside (.object fs) (.list [.text "$x"])) :
        Mapping.contains Blueprint.logicKey fs = false := by
      cases h with
      | item hx h =>
        obtain rfl := List.mem_singleton.mp hx
        cases h
    obtain ⟨l, hl, -, heval⟩ := (literals_evaluate_their_outermost_expressions ordinary .null
      (.list [.text "$x"]) ⟨0, [], false⟩).2.2 hready hplain
    exact ⟨l, hl, heval .null l.base Journal.empty rfl⟩

end Logic

end Rulebook
