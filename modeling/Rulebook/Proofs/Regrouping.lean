-- Operations that take their operands two at a time. A chain of them has one
-- flat meaning, and operands that stand together may be grouped: only a text
-- that cannot be written is missed sooner in a group than in the whole chain.
import Rulebook.Proofs.Operands

namespace Rulebook

/-! ## Chains -/

namespace Node

/-- The first value that settles a chain, or else the last one. -/
def decided (p : Value → Bool) (vs : List Value) : Value :=
  ((vs.find? p).or vs.getLast?).getD .undefined

section Decided

variable {p : Value → Bool}

theorem reduce_decided {f : Value → Value → Except Fault Value}
    (hf : ∀ a b, f a b = .ok (if p a then a else b)) {vs : List Value} (h : vs ≠ []) :
    reduce f vs = .ok (decided p vs) := by
  obtain ⟨v, rest, rfl⟩ := List.exists_cons_of_ne_nil h
  clear h
  rw [reduce]
  induction rest generalizing v with
  | nil =>
    have hone : decided p [v] = v := by cases hv : p v <;> simp [decided, hv]
    rw [hone]
    rfl
  | cons w rest ih =>
    rw [List.foldlM_cons, hf, ok_bind]
    cases hv : p v with
    | false =>
      simp only [Bool.false_eq_true, if_false, ih]
      simp [decided, hv]
    | true =>
      simp only [if_true, ih]
      simp [decided, hv]

/-- What settles a group stands for the whole group. -/
theorem decided_regroup {us vs ws : List Value} (h : vs ≠ []) :
    decided p (us ++ decided p vs :: ws) = decided p (us ++ vs ++ ws) := by
  cases hfind : vs.find? p with
  | some v =>
    have hv : decided p vs = v := by simp [decided, hfind]
    have hp : p v = true := List.find?_some hfind
    rw [hv]
    simp [decided, List.find?_append, hfind, hp]
  | none =>
    obtain ⟨v, hlast⟩ := Option.ne_none_iff_exists'.mp (mt List.getLast?_eq_none_iff.mp h)
    have hv : decided p vs = v := by simp [decided, hfind, hlast]
    have hp : p v = false := by simpa using List.find?_eq_none.mp hfind v (List.mem_of_getLast? hlast)
    rw [hv]
    simp [decided, List.find?_append, List.getLast?_append, List.getLast?_cons, hfind, hlast, hp]

end Decided

end Node

/-- The operations that join any number of operands. -/
inductive Chain where
  | and | or | concat
deriving DecidableEq

namespace Chain

def name : Chain → String
  | .and => "and"
  | .or => "or"
  | .concat => "concat"

def apply : Chain → Value → Value → Except Fault Value
  | .and => Function.and
  | .or => Function.or
  | .concat => Function.concat

/-- The chain of some operands, as a definition. -/
def form (op : Chain) (ds : List Value) : Value := Compile.longForm op.name (.list ds)

theorem factory (op : Chain) :
    Registry.standard.factory? (.text op.name) = some (.binary op.name op.apply) := by
  cases op <;> rfl

/-- What a chain makes of the values of its operands: the first false or the
first true one, else the last one; or the texts of all of them in a row. -/
def flat : Chain → List Value → Except Fault Value
  | .and, vs => .ok (Node.decided (fun v => !v.truthy) vs)
  | .or, vs => .ok (Node.decided Value.truthy vs)
  | .concat, vs => do return .text (String.join (← vs.mapM Value.written))

/-! ## The flat meaning -/

/-- A text takes up the texts of further values. -/
theorem foldlM_concat (s : String) (vs : List Value) :
    vs.foldlM Function.concat (.text s) = (do return .text (s ++ String.join (← vs.mapM Value.written))) := by
  induction vs generalizing s with
  | nil => simp
  | cons v vs ih =>
    have hs : Value.written (.text s) = .ok s := rfl
    rw [List.foldlM_cons, List.mapM_cons, Function.concat, hs]
    cases v.written with
    | error e => rfl
    | ok t =>
      simp only [ok_bind, pure_bind, ih, bind_assoc, String.join_cons, String.append_assoc]

/-- Two values or more come down to the text of the first one, with the texts of
the others. -/
theorem reduce_concat (u v : Value) (vs : List Value) :
    Node.reduce Function.concat (u :: v :: vs) = Chain.concat.flat (u :: v :: vs) := by
  rw [Node.reduce, flat, List.mapM_cons]
  cases hu : u.written with
  | error e =>
    rw [List.foldlM_cons, Function.concat, hu]
    rfl
  | ok s =>
    have hs : Value.written (.text s) = .ok s := rfl
    have hstart : Function.concat u v = Function.concat (.text s) v := by
      rw [Function.concat, Function.concat, hu, hs]
    rw [List.foldlM_cons, hstart, ← List.foldlM_cons, foldlM_concat]
    simp only [ok_bind, bind_assoc, pure_bind, String.join_cons]

theorem reduce_flat (op : Chain) {vs : List Value} (h : 2 ≤ vs.length) :
    Node.reduce op.apply vs = op.flat vs := by
  have hne : vs ≠ [] := List.ne_nil_of_length_pos (Nat.lt_of_lt_of_le Nat.two_pos h)
  cases op with
  | and =>
    refine Node.reduce_decided (fun a b => ?_) hne
    cases ha : a.truthy <;> simp [apply, Function.and, ha]
  | or => exact Node.reduce_decided (fun a b => rfl) hne
  | concat =>
    match vs with
    | [] => exact absurd rfl hne
    | [v] => exact absurd h (by simp)
    | u :: v :: vs => exact reduce_concat u v vs

/-! ## Groups -/

section Groups

variable {us vs ws : List Value}

theorem mapM_written (vs : List Value) : vs.mapM Value.written
    = if vs.all Value.writable then .ok (vs.map Value.toText) else .error .unwritable := by
  induction vs with
  | nil => rfl
  | cons v vs ih =>
    rw [List.mapM_cons, ih, Value.written, List.all_cons]
    cases v.writable with
    | false => rfl
    | true => cases vs.all Value.writable <;> rfl

theorem flat_concat (vs : List Value) : Chain.concat.flat vs
    = if vs.all Value.writable then .ok (.text (String.join (vs.map Value.toText)))
      else .error .unwritable := by
  rw [flat, mapM_written]
  cases vs.all Value.writable <;> rfl

/-- The value of a group stands for the values in it. -/
theorem flat_regroup (op : Chain) (hvs : vs ≠ []) {v : Value} (h : op.flat vs = .ok v) :
    op.flat (us ++ v :: ws) = op.flat (us ++ vs ++ ws) := by
  cases op with
  | and | or =>
    obtain rfl := Except.ok.inj h
    exact congrArg Except.ok (Node.decided_regroup hvs)
  | concat =>
    rw [flat_concat] at h
    split at h
    · rename_i hall
      obtain rfl := Except.ok.inj h
      simp only [flat_concat, List.all_append, List.all_cons, List.map_append, List.map_cons, hall,
        Value.writable, Value.toText, String.join_append, String.join_cons, Bool.true_and, Bool.and_true,
        String.append_assoc]
    · cases h

/-- A group fails by itself only for a value without a text in it. -/
theorem flat_error_iff (op : Chain) {e : Fault} :
    op.flat vs = .error e ↔ op = .concat ∧ (∃ v ∈ vs, v.writable = false) ∧ e = .unwritable := by
  cases op with
  | and | or => simp [flat]
  | concat =>
    rw [flat_concat]
    split
    · rename_i hall
      simp only [reduceCtorEq, false_iff, not_and]
      rintro - ⟨v, hv, hshort⟩
      rw [List.all_eq_true.mp hall v hv] at hshort
      cases hshort
    · rename_i hall
      have hshort : ∃ v ∈ vs, v.writable = false := by simpa using hall
      constructor
      · intro h
        exact ⟨rfl, hshort, (Except.error.inj h).symm⟩
      · rintro ⟨-, -, rfl⟩
        rfl

/-- Operands stand before, in and after a group; one of the values in it has no
text, and one of the operands after it fails. -/
structure Clash (reading : Value → Except Fault Value) (xs ys zs : List Value) (e : Fault) : Prop where
  before : ∃ us, xs.mapM reading = .ok us
  group : ∃ vs, ys.mapM reading = .ok vs ∧ ∃ v ∈ vs, v.writable = false
  failed : zs.mapM reading = .error e

variable {reading : Value → Except Fault Value} {g : Value} {xs ys zs : List Value}

theorem grouped_eq (op : Chain) (hg : reading g = ys.mapM reading >>= op.flat) :
    (xs ++ [g] ++ zs).mapM reading >>= op.flat = (do
      let us ← xs.mapM reading
      let v ← ys.mapM reading >>= op.flat
      let ws ← zs.mapM reading
      op.flat (us ++ v :: ws)) := by
  simp only [List.mapM_append, List.mapM_cons, hg, bind_assoc, pure_bind,
    List.append_assoc, List.cons_append, List.nil_append]

theorem ungrouped_eq (op : Chain) :
    (xs ++ ys ++ zs).mapM reading >>= op.flat = (do
      let us ← xs.mapM reading
      let vs ← ys.mapM reading
      let ws ← zs.mapM reading
      op.flat (us ++ vs ++ ws)) := by
  simp only [List.mapM_append, bind_assoc, pure_bind]

theorem clash_outcomes (hg : reading g = ys.mapM reading >>= Chain.concat.flat) {e : Fault}
    (h : Clash reading xs ys zs e) :
    (xs ++ [g] ++ zs).mapM reading >>= Chain.concat.flat = .error .unwritable
      ∧ (xs ++ ys ++ zs).mapM reading >>= Chain.concat.flat = .error e := by
  obtain ⟨⟨us, hus⟩, ⟨vs, hvs, hshort⟩, hzs⟩ := h
  have hgroup : Chain.concat.flat vs = .error .unwritable := (flat_error_iff .concat).mpr ⟨rfl, hshort, rfl⟩
  rw [grouped_eq .concat hg, ungrouped_eq, hus, hvs, hzs, ok_bind, ok_bind, ok_bind, ok_bind, hgroup]
  exact ⟨rfl, rfl⟩

theorem regroup (op : Chain) (hg : reading g = ys.mapM reading >>= op.flat) (hys : ys ≠ [])
    (h : ∀ e, ¬ (op = .concat ∧ Clash reading xs ys zs e)) :
    (xs ++ [g] ++ zs).mapM reading >>= op.flat = (xs ++ ys ++ zs).mapM reading >>= op.flat := by
  rw [grouped_eq op hg, ungrouped_eq]
  cases hus : xs.mapM reading with
  | error e => rfl
  | ok us =>
    cases hvs : ys.mapM reading with
    | error e => rfl
    | ok vs =>
      simp only [ok_bind]
      cases hgroup : op.flat vs with
      | ok v =>
        have hne : vs ≠ [] := by
          rintro rfl
          exact hys (List.length_eq_zero_iff.mp (mapM_ok hvs).length_eq)
        simp only [ok_bind, flat_regroup op hne hgroup]
      | error e =>
        obtain ⟨rfl, ⟨v, hv, hshort⟩, rfl⟩ := (flat_error_iff op).mp hgroup
        -- the values after the group are there, so the whole chain fails for that text as well
        cases hws : zs.mapM reading with
        | error e => exact absurd ⟨rfl, ⟨us, hus⟩, ⟨vs, hvs, v, hv, hshort⟩, hws⟩ (h e)
        | ok ws =>
          refine ((flat_error_iff .concat).mpr ⟨rfl, ⟨v, ?_, hshort⟩, rfl⟩).symm
          simp [hv]

end Groups

end Chain

namespace Logic

section Chains

variable {around : Surroundings} {base : Value} {ds xs ys zs : List Value}

theorem chain_builds (op : Chain) (hcount : 2 ≤ ds.length)
    (hds : ∀ d ∈ ds, ∃ l, outcome (build around [] base d) ⟨0, [], false⟩ = .ok l) (draft : Draft) :
    ∃ l, outcome (build around [] base (op.form ds)) draft = .ok l :=
  binary_builds op.factory hcount hds draft

theorem chain_means (op : Chain) (hcount : 2 ≤ ds.length) {draft : Draft} {l : Logic}
    (hl : outcome (build around [] base (op.form ds)) draft = .ok l) :
    ∃ ls, (ds.mapM fun d => outcome (build around [] base d) ⟨0, [], false⟩) = .ok ls
      ∧ l.lookups = ls.flatMap lookups
      ∧ ∀ context j, outcome (l.eval context) j
          = (ds.mapM fun d => alone around base d j context) >>= op.flat := by
  obtain ⟨ls, hls, hlookups, heval⟩ := binary_means op.factory hcount hl
  refine ⟨ls, hls, hlookups, fun context j => ?_⟩
  rw [heval]
  cases hvs : ds.mapM fun d => alone around base d j context with
  | error e => rfl
  | ok vs =>
    have hlength : 2 ≤ vs.length := (mapM_ok hvs).length_eq ▸ hcount
    exact op.reduce_flat hlength

/-- A group reads its paths where its operands would read them. -/
theorem grouped_lookups {d : Value} {m : Logic} {as bs cs gs ls : List Logic}
    (has : (xs.mapM fun d => outcome (build around [] base d) ⟨0, [], false⟩) = .ok as)
    (hbs : (ys.mapM fun d => outcome (build around [] base d) ⟨0, [], false⟩) = .ok bs)
    (hcs : (zs.mapM fun d => outcome (build around [] base d) ⟨0, [], false⟩) = .ok cs)
    (hm : outcome (build around [] base d) ⟨0, [], false⟩ = .ok m) (hlookups : m.lookups = bs.flatMap lookups)
    (hgs : ((xs ++ [d] ++ zs).mapM fun d => outcome (build around [] base d) ⟨0, [], false⟩) = .ok gs)
    (hls : ((xs ++ ys ++ zs).mapM fun d => outcome (build around [] base d) ⟨0, [], false⟩) = .ok ls) :
    gs.flatMap lookups = ls.flatMap lookups := by
  simp only [List.mapM_append, List.mapM_cons, List.mapM_nil, has, hbs, hcs, hm, ok_bind, pure_bind] at hgs hls
  obtain rfl := Except.ok.inj hgs
  obtain rfl := Except.ok.inj hls
  simp [hlookups]

/-- A chain with a group in it is built like the flat one, reads the same paths
and ends alike, unless both a text and an operand after the group are missing. -/
theorem chain_regroups (op : Chain) (draft draft' : Draft)
    (hall : ∀ d ∈ xs ++ ys ++ zs, ∃ l, outcome (build around [] base d) ⟨0, [], false⟩ = .ok l)
    (hys : 2 ≤ ys.length) (hothers : 1 ≤ xs.length + zs.length) :
    ∃ g l, outcome (build around [] base (op.form (xs ++ [op.form ys] ++ zs))) draft = .ok g
      ∧ outcome (build around [] base (op.form (xs ++ ys ++ zs))) draft' = .ok l
      ∧ g.lookups = l.lookups
      ∧ ∀ context j,
        (∀ e, op = .concat → Chain.Clash (fun d => alone around base d j context) xs ys zs e →
          outcome (g.eval context) j = .error .unwritable ∧ outcome (l.eval context) j = .error e)
        ∧ ((∀ e, ¬ (op = .concat ∧ Chain.Clash (fun d => alone around base d j context) xs ys zs e)) →
          outcome (g.eval context) j = outcome (l.eval context) j) := by
  have hparts := hall
  simp only [List.forall_mem_append] at hparts
  obtain ⟨⟨hxs, hgroup⟩, hzs⟩ := hparts
  have hflat : 2 ≤ (xs ++ ys ++ zs).length := by simp; omega
  have hgrouped : 2 ≤ (xs ++ [op.form ys] ++ zs).length := by simp; omega
  obtain ⟨m, hm⟩ := chain_builds op hys hgroup ⟨0, [], false⟩
  have hwith : ∀ d ∈ xs ++ [op.form ys] ++ zs,
      ∃ l, outcome (build around [] base d) ⟨0, [], false⟩ = .ok l := by
    simp only [List.forall_mem_append, List.forall_mem_singleton]
    exact ⟨⟨hxs, m, hm⟩, hzs⟩
  obtain ⟨g, hg⟩ := chain_builds op hgrouped hwith draft
  obtain ⟨l, hl⟩ := chain_builds op hflat hall draft'
  obtain ⟨as, has⟩ := exists_mapM_ok hxs
  obtain ⟨cs, hcs⟩ := exists_mapM_ok hzs
  obtain ⟨bs, hbs, hmlookups, hmeval⟩ := chain_means op hys hm
  obtain ⟨gs, hgs, hglookups, hgeval⟩ := chain_means op hgrouped hg
  obtain ⟨ls, hls, hllookups, hleval⟩ := chain_means op hflat hl
  have hlookups : g.lookups = l.lookups := by
    rw [hglookups, hllookups]
    exact grouped_lookups has hbs hcs hm hmlookups hgs hls
  refine ⟨g, l, hg, hl, hlookups, fun context j => ?_⟩
  have hne : ys ≠ [] := List.ne_nil_of_length_pos (Nat.lt_of_lt_of_le Nat.two_pos hys)
  have hreading : alone around base (op.form ys) j context
      = (ys.mapM fun d => alone around base d j context) >>= op.flat := by
    rw [alone, hm, ok_bind, hmeval]
  rw [hgeval, hleval]
  constructor
  · rintro e rfl hclash
    refine Chain.clash_outcomes ?_ hclash
    exact hreading
  · intro hnone
    refine Chain.regroup op ?_ hne hnone
    exact hreading

end Chains

/-- A chain of operands has one flat meaning, and fails as the first operand that
fails. Operands that stand together may be grouped: the paths stay the same, and
so does the outcome. Only where a value in a group of `concat` has no text, and an
operand after the group fails, that text is missed before the operand fails. -/
theorem chains_are_flat_and_regroup (around : Surroundings) (base : Value) (op : Chain) :
    (∀ ds draft, (∀ d ∈ ds, ∃ l, outcome (build around [] base d) ⟨0, [], false⟩ = .ok l) →
      2 ≤ ds.length →
      ∃ l, outcome (build around [] base (op.form ds)) draft = .ok l
        ∧ ∀ context j,
          (∀ vs, (ds.mapM fun d => alone around base d j context) = .ok vs →
            outcome (l.eval context) j = op.flat vs)
          ∧ ∀ before d rest e, ds = before ++ d :: rest →
              (∀ d' ∈ before, ∃ v, alone around base d' j context = .ok v) →
              alone around base d j context = .error e → outcome (l.eval context) j = .error e)
      ∧ ∀ xs ys zs draft draft',
          (∀ d ∈ xs ++ ys ++ zs, ∃ l, outcome (build around [] base d) ⟨0, [], false⟩ = .ok l) →
          2 ≤ ys.length → 1 ≤ xs.length + zs.length →
          ∃ g l, outcome (build around [] base (op.form (xs ++ [op.form ys] ++ zs))) draft = .ok g
            ∧ outcome (build around [] base (op.form (xs ++ ys ++ zs))) draft' = .ok l
            ∧ g.lookups = l.lookups
            ∧ ∀ context j,
              (∀ e, op = .concat →
                Chain.Clash (fun d => alone around base d j context) xs ys zs e →
                outcome (g.eval context) j = .error .unwritable ∧ outcome (l.eval context) j = .error e)
              ∧ ((∀ e, ¬ (op = .concat
                    ∧ Chain.Clash (fun d => alone around base d j context) xs ys zs e)) →
                outcome (g.eval context) j = outcome (l.eval context) j) := by
  refine ⟨fun ds draft hds hcount => ?_, fun xs ys zs draft draft' hall hys hothers => ?_⟩
  · obtain ⟨l, hl⟩ := chain_builds op hcount hds draft
    obtain ⟨ls, -, -, heval⟩ := chain_means op hcount hl
    refine ⟨l, hl, fun context j => ⟨fun vs hvs => ?_, fun before d rest e heq hbefore hd => ?_⟩⟩
    · rw [heval, hvs, ok_bind]
    · rw [heval, mapM_error_iff.mpr ⟨before, d, rest, heq, hbefore, hd⟩]
      rfl
  · exact chain_regroups op draft draft' hall hys hothers

/-- A number is written as if it did not stand in a group. -/
theorem texts_in_a_group :
    ∃ g l, outcome (build ordinary [] .null
          (Chain.concat.form [.text "$x", Chain.concat.form [.text "$y", .int 3]])) ⟨0, [], false⟩ = .ok g
      ∧ outcome (build ordinary [] .null (Chain.concat.form [.text "$x", .text "$y", .int 3]))
          ⟨0, [], false⟩ = .ok l
      ∧ g.lookups = l.lookups
      ∧ outcome (g.eval (.object [(.text "x", .text "a"), (.text "y", .int 7)])) Journal.empty
          = .ok (.text "a73") := by
  have hset : ordinary.settings = .ok ⟨false, Settings.defaultParentKey, Settings.defaultMarker⟩ := rfl
  have hbase : Entries.ofValue .null = .ok [] := rfl
  have hx := build_path (s := "$x") hbase hset "x" rfl ⟨0, [], false⟩
  have hy := build_path (s := "$y") hbase hset "y" rfl ⟨0, [], false⟩
  have hthree := build_int 3 ⟨0, [], false⟩
  have hall : ∀ d ∈ [Value.text "$x"] ++ [.text "$y", .int 3] ++ [],
      ∃ l, outcome (build ordinary [] .null d) ⟨0, [], false⟩ = .ok l := by
    simp [hx, hy, hthree]
  obtain ⟨hflat, hregroup⟩ := chains_are_flat_and_regroup ordinary .null .concat
  obtain ⟨g, l, hg, hl, hlookups, houtcomes⟩ := hregroup [.text "$x"] [.text "$y", .int 3] []
    ⟨0, [], false⟩ ⟨0, [], false⟩ hall (by decide) (by decide)
  obtain ⟨l', hl', heval⟩ := hflat [.text "$x", .text "$y", .int 3] ⟨0, [], false⟩ hall (by decide)
  obtain rfl := Except.ok.inj (hl.symm.trans hl')
  refine ⟨g, l, hg, hl, hlookups, ?_⟩
  let fs : Fields := [(.text "x", .text "a"), (.text "y", .int 7)]
  have hbasel : l.base = [] := (build_parts hbase rfl hset hl).2.1
  have hcontext : l.contextIn? (.object fs) = some fs := contextIn?_object hbasel fs
  have hvalues : ([.text "$x", .text "$y", .int 3].mapM fun d =>
      alone ordinary .null d Journal.empty (.object fs)) = .ok [.text "a", .int 7, .int 3] := by
    have hxa : alone ordinary .null (.text "$x") Journal.empty (.object fs) = .ok (.text "a") :=
      alone_eq hbase hset hx hbasel hcontext Journal.empty
    have hy7 : alone ordinary .null (.text "$y") Journal.empty (.object fs) = .ok (.int 7) :=
      alone_eq hbase hset hy hbasel hcontext Journal.empty
    have h3 : alone ordinary .null (.int 3) Journal.empty (.object fs) = .ok (.int 3) :=
      alone_eq hbase hset hthree hbasel hcontext Journal.empty
    simp only [List.mapM_cons, List.mapM_nil, hxa, hy7, h3, ok_bind, pure_bind]
    rfl
  have hshort : [Value.text "a", .int 7, .int 3].all Value.writable = true := by decide +kernel
  have htext : String.join ([Value.text "a", .int 7, .int 3].map Value.toText) = "a73" := by decide +kernel
  rw [(houtcomes (.object fs) Journal.empty).2 ?_, (heval (.object fs) Journal.empty).1 _ hvalues,
    Chain.flat_concat, if_pos hshort, htext]
  rintro e ⟨-, hclash⟩
  cases hclash.failed

/-- The text of the first number is missed before the last operand fails, but
not where all operands stand in one chain. -/
theorem long_number_in_a_group :
    ∃ g l, outcome (build ordinary [] .null (Chain.concat.form
          [Chain.concat.form [.int (Nat.pow 10 Number.digitLimit : Nat), .int 1],
            Compile.longForm "capitalize" (.int 5)])) ⟨0, [], false⟩ = .ok g
      ∧ outcome (build ordinary [] .null (Chain.concat.form
          [.int (Nat.pow 10 Number.digitLimit : Nat), .int 1, Compile.longForm "capitalize" (.int 5)]))
          ⟨0, [], false⟩ = .ok l
      ∧ outcome (g.eval .null) Journal.empty = .error .unwritable
      ∧ outcome (l.eval .null) Journal.empty = .error (.needsText "capitalize" (.int 5)) := by
  have hset : ordinary.settings = .ok ⟨false, Settings.defaultParentKey, Settings.defaultMarker⟩ := rfl
  have hbase : Entries.ofValue .null = .ok [] := rfl
  let long : Value := .int (Nat.pow 10 Number.digitLimit : Nat)
  let failing : Value := Compile.longForm "capitalize" (.int 5)
  have hint (n : Boxed Int) : ∃ l, outcome (build ordinary [] .null (.int n)) ⟨0, [], false⟩ = .ok l :=
    ⟨_, build_int n _⟩
  have hvalue (n : Boxed Int) : alone ordinary .null (.int n) Journal.empty .null = .ok (.int n) := by
    rw [alone, build_int]
    rfl
  obtain ⟨m, hm⟩ : ∃ m, outcome (build ordinary [] .null failing) ⟨0, [], false⟩ = .ok m :=
    applied_builds ⟨_, _, hbase, hset⟩ rfl rfl (Blueprint.unary_applies "capitalize" _ (.int 5)) (by simp)
      (by simp [hint]) _
  have hfails : alone ordinary .null failing Journal.empty .null
      = .error (.needsText "capitalize" (.int 5)) := by
    obtain ⟨ls, -, -, heval⟩ := applied_means rfl rfl
      (Blueprint.unary_applies "capitalize" Function.capitalize (.int 5)) (by simp) (by simp) hm
    rw [alone, hm, ok_bind, heval, List.mapM_cons, hvalue]
    rfl
  have hlimit (n : Nat) (h : Nat.pow 10 Number.digitLimit ≤ n) : Number.isWritable n = false :=
    decide_eq_false (Nat.not_lt.mpr h)
  have hshort : long.writable = false := hlimit _ (Nat.le_refl _)
  have hall : ∀ d ∈ [] ++ [long, .int 1] ++ [failing],
      ∃ l, outcome (build ordinary [] .null d) ⟨0, [], false⟩ = .ok l := by
    intro d hd
    simp only [List.nil_append, List.cons_append, List.mem_cons, List.not_mem_nil, or_false] at hd
    obtain rfl | rfl | rfl := hd
    · exact hint _
    · exact hint 1
    · exact ⟨m, hm⟩
  obtain ⟨g, l, hg, hl, -, houtcomes⟩ := chain_regroups .concat ⟨0, [], false⟩ ⟨0, [], false⟩ hall
    (by decide) (by decide)
  refine ⟨g, l, hg, hl, (houtcomes .null Journal.empty).1 _ rfl ⟨⟨[], rfl⟩, ⟨[long, .int 1], ?_, ?_⟩, ?_⟩⟩
  · rw [List.mapM_cons, List.mapM_cons, hvalue, hvalue]
    rfl
  · exact ⟨long, by simp, hshort⟩
  · rw [List.mapM_cons, hfails]
    rfl

end Logic

end Rulebook
