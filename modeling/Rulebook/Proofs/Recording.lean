-- What evaluations record. Each recorder numbers the records that it opens, and
-- a stack of open records tells that every result closes the innermost one. The
-- records of an evaluation are its visits to recorded nodes.
import Rulebook.Proofs.Evaluations

namespace Rulebook

/-! ## Records that are opened and closed -/

/-- A record as it is opened. -/
structure Opening where
  recorder : Recorder
  number : Nat
  definition : Value
  context : Value

def Event.opening? : Event → Option Opening
  | .evaluating r n d c => some ⟨r, n, d, c⟩
  | _ => none

/-- The records that some events open, in order. -/
def openings (es : List Event) : List Opening := es.filterMap Event.opening?

@[simp] theorem openings_nil : openings [] = [] := rfl

@[simp] theorem openings_append (es fs : List Event) : openings (es ++ fs) = openings es ++ openings fs :=
  List.filterMap_append

@[simp] theorem openings_evaluating (r : Recorder) (n : Nat) (d c : Value) (es : List Event) :
    openings (.evaluating r n d c :: es) = ⟨r, n, d, c⟩ :: openings es := rfl

@[simp] theorem openings_result (r : Recorder) (n : Nat) (v : Value) (es : List Event) :
    openings (.result r n v :: es) = openings es := rfl

/-- The numbers that a recorder gives to its records, in order. -/
def numbers (id : Nat) (es : List Event) : List Nat :=
  ((openings es).filter fun o => o.recorder.id == id).map Opening.number

/-- Records after some events: those that are open, and those closed with a
value, the latest first. -/
structure Ledger where
  pending : List Opening
  closed : List (Opening × Value)

namespace Ledger

/-- Enters an event. A result closes the record opened last of those that are
open, or it cannot be entered. -/
def enter (l : Ledger) : Event → Option Ledger
  | .evaluating r n d c => some ⟨⟨r, n, d, c⟩ :: l.pending, l.closed⟩
  | .result r n v =>
    match l.pending with
    | o :: rest => if o.recorder = r ∧ o.number = n then some ⟨rest, (o, v) :: l.closed⟩ else none
    | [] => none
  | .seen _ => some l

def enterAll (l : Ledger) (es : List Event) : Option Ledger := es.foldlM enter l

theorem enterAll_cons {l m : Ledger} {e : Event} (h : l.enter e = some m) (es : List Event) :
    l.enterAll (e :: es) = m.enterAll es := by
  simp only [enterAll, List.foldlM_cons, h, Option.bind_eq_bind, Option.bind_some]

theorem enterAll_append {l m : Ledger} {es : List Event} (h : l.enterAll es = some m)
    (fs : List Event) : l.enterAll (es ++ fs) = m.enterAll fs := by
  unfold enterAll at h ⊢
  rw [List.foldlM_append, h, Option.bind_eq_bind, Option.bind_some]

theorem enter_result (o : Opening) (pending : List Opening) (closed : List (Opening × Value))
    (v : Value) : enter ⟨o :: pending, closed⟩ (.result o.recorder o.number v)
      = some ⟨pending, (o, v) :: closed⟩ := by
  simp only [enter, and_self, if_true]

end Ledger

/-! ## Visits -/

/-- A recorded node as it is evaluated: its recorder and definition, the
context, and how the node that it wraps ends. -/
structure Visit where
  recorder : Recorder
  definition : Value
  context : Fields
  ending : Except Fault Value

namespace Visit

/-- The record of a visit under a number. -/
def opening (w : Visit) (number : Nat) : Opening :=
  ⟨w.recorder, number, w.definition, .object w.context⟩

def fails (w : Visit) : Bool := failed w.ending

/-- The counts of all recorders after one more visit. -/
def count (w : Visit) (opened : Nat → Nat) : Nat → Nat :=
  fun id => if id = w.recorder.id then opened id + 1 else opened id

/-- Numbers visits, each by the count of its recorder. -/
def number (opened : Nat → Nat) : List Visit → List (Visit × Nat)
  | [] => []
  | w :: ws => (w, opened w.recorder.id + 1) :: number (w.count opened) ws

/-- The counts of all recorders after some visits. -/
def countAll (opened : Nat → Nat) (ws : List Visit) : Nat → Nat :=
  ws.foldl (fun o w => w.count o) opened

theorem number_append (opened : Nat → Nat) (ws vs : List Visit) :
    number opened (ws ++ vs) = number opened ws ++ number (countAll opened ws) vs := by
  induction ws generalizing opened with
  | nil => rfl
  | cons w ws ih =>
    simp only [List.cons_append, number, ih]
    rfl

theorem countAll_append (opened : Nat → Nat) (ws vs : List Visit) :
    countAll opened (ws ++ vs) = countAll (countAll opened ws) vs := List.foldl_append

theorem map_number (opened : Nat → Nat) (ws : List Visit) :
    (number opened ws).map Prod.fst = ws := by
  induction ws generalizing opened with
  | nil => rfl
  | cons w ws ih => rw [number, List.map_cons, ih]

/-- The records that visits leave open, in the order in which they were
opened. -/
def pending (records : List (Visit × Nat)) : List Opening :=
  (records.filter fun e => e.1.fails).map fun e => e.1.opening e.2

/-- The records that visits close, with their values. -/
def closings (records : List (Visit × Nat)) : List (Opening × Value) :=
  records.filterMap fun e => match e.1.ending with
    | .ok v => some (e.1.opening e.2, v)
    | .error _ => none

section Records

variable {w : Visit} (number : Nat) (records more : List (Visit × Nat))

@[simp] theorem pending_append : pending (records ++ more) = pending records ++ pending more := by
  simp only [pending, List.filter_append, List.map_append]

@[simp] theorem closings_append :
    closings (records ++ more) = closings records ++ closings more := List.filterMap_append

theorem pending_ok {v : Value} (h : w.ending = .ok v) :
    pending ((w, number) :: records) = pending records := by
  have hself : w.fails = false := by rw [fails, h, failed]
  simp only [pending, List.filter_cons, hself, Bool.false_eq_true, if_false]

theorem pending_error {f : Fault} (h : w.ending = .error f) :
    pending ((w, number) :: records) = w.opening number :: pending records := by
  have hself : w.fails = true := by rw [fails, h, failed]
  simp only [pending, List.filter_cons, hself, if_true, List.map_cons]

theorem closings_ok {v : Value} (h : w.ending = .ok v) :
    closings ((w, number) :: records) = (w.opening number, v) :: closings records := by
  simp only [closings, List.filterMap_cons, h]

theorem closings_error {f : Fault} (h : w.ending = .error f) :
    closings ((w, number) :: records) = closings records := by
  simp only [closings, List.filterMap_cons, h]

end Records

theorem pending_of_ok {records : List (Visit × Nat)} (h : ∀ e ∈ records, e.1.fails = false) :
    pending records = [] := by
  unfold pending
  rw [List.filter_eq_nil_iff.mpr fun e he => by simp [h e he], List.map_nil]

/-- Where no visit fails all records are closed. -/
theorem closings_of_ok {records : List (Visit × Nat)} (h : ∀ e ∈ records, e.1.fails = false) :
    (closings records).map Prod.fst = records.map fun e => e.1.opening e.2 := by
  induction records with
  | nil => rfl
  | cons e records ih =>
    have hrest := ih fun e' he' => h e' (List.mem_cons_of_mem _ he')
    have hself := h e List.mem_cons_self
    obtain ⟨w, number⟩ := e
    cases hw : w.ending with
    | ok v => rw [closings_ok number records hw, List.map_cons, hrest, List.map_cons]
    | error f => simp [fails, failed, hw] at hself

end Visit

open Visit (pending closings countAll)

/-! ## Events of visits -/

/-- Some events open the given records, in order, and close those of visits
that end well, each with its value, one inside the other. -/
structure Nested (es : List Event) (records : List (Visit × Nat)) : Prop where
  openings : openings es = records.map fun e => e.1.opening e.2
  ledger : ∀ l : Ledger, ∃ closed, closed.Perm (closings records)
    ∧ l.enterAll es = some ⟨(pending records).reverse ++ l.pending, closed ++ l.closed⟩

namespace Nested

variable {es fs : List Event} {records more : List (Visit × Nat)}

theorem nil : Nested [] [] := ⟨rfl, fun _ => ⟨[], List.Perm.refl _, rfl⟩⟩

theorem seen (v : Value) : Nested [.seen v] [] := ⟨rfl, fun _ => ⟨[], List.Perm.refl _, rfl⟩⟩

theorem append (h : Nested es records) (h' : Nested fs more) :
    Nested (es ++ fs) (records ++ more) := by
  refine ⟨by rw [openings_append, List.map_append, h.openings, h'.openings], fun l => ?_⟩
  obtain ⟨closed, hperm, hl⟩ := h.ledger l
  obtain ⟨closed', hperm', hl'⟩ := h'.ledger ⟨(pending records).reverse ++ l.pending, closed ++ l.closed⟩
  refine ⟨closed' ++ closed, ?_, ?_⟩
  · rw [Visit.closings_append]
    exact (hperm'.append hperm).trans List.perm_append_comm
  · rw [Ledger.enterAll_append hl, hl', Visit.pending_append, List.reverse_append, List.append_assoc,
      List.append_assoc]

section Around

variable {w : Visit} (number : Nat)

theorem enter_opening (l : Ledger) :
    l.enter (.evaluating w.recorder number w.definition (.object w.context))
      = some ⟨w.opening number :: l.pending, l.closed⟩ := rfl

/-- A record around others that are all closed is closed by its own result. -/
theorem wrap {v : Value} (hw : w.ending = .ok v) (h : Nested es records)
    (hrecords : ∀ e ∈ records, e.1.fails = false) :
    Nested (.evaluating w.recorder number w.definition (.object w.context) :: es
        ++ [.result w.recorder number v]) ((w, number) :: records) := by
  have hpending : pending records = [] := Visit.pending_of_ok hrecords
  refine ⟨?_, fun l => ?_⟩
  · rw [openings_append, openings_evaluating, h.openings, openings_result, openings_nil,
      List.append_nil]
    rfl
  · obtain ⟨closed, hperm, hl⟩ := h.ledger ⟨w.opening number :: l.pending, l.closed⟩
    simp only [hpending, List.reverse_nil, List.nil_append] at hl
    have hclose : Ledger.enter ⟨w.opening number :: l.pending, closed ++ l.closed⟩
        (.result w.recorder number v) = some ⟨l.pending, (w.opening number, v) :: closed ++ l.closed⟩ :=
      Ledger.enter_result (w.opening number) l.pending (closed ++ l.closed) v
    refine ⟨(w.opening number, v) :: closed, ?_, ?_⟩
    · rw [Visit.closings_ok number records hw]
      exact hperm.cons _
    · rw [List.cons_append, Ledger.enterAll_cons (enter_opening number l), Ledger.enterAll_append hl,
        Ledger.enterAll_cons hclose, Visit.pending_ok number records hw, hpending]
      rfl

/-- A record around a failure stays open, and so do those inside it. -/
theorem leave {f : Fault} (hw : w.ending = .error f) (h : Nested es records) :
    Nested (.evaluating w.recorder number w.definition (.object w.context) :: es)
      ((w, number) :: records) := by
  refine ⟨?_, fun l => ?_⟩
  · rw [openings_evaluating, h.openings]
    rfl
  · obtain ⟨closed, hperm, hl⟩ := h.ledger ⟨w.opening number :: l.pending, l.closed⟩
    refine ⟨closed, ?_, ?_⟩
    · rw [Visit.closings_error number records hw]
      exact hperm
    · rw [Ledger.enterAll_cons (enter_opening number l), hl, Visit.pending_error number records hw,
        List.reverse_cons, List.append_assoc, List.singleton_append]

end Around

end Nested

/-- From one journal to the next there are the records of some visits. -/
structure Enters (j k : Journal) (ws : List Visit) : Prop where
  policy : k.policy = j.policy
  opened : k.opened = countAll j.opened ws
  events : ∃ es, k.events = es.reverse ++ j.events ∧ Nested es (Visit.number j.opened ws)

namespace Enters

theorem refl (j : Journal) : Enters j j [] := ⟨rfl, rfl, [], rfl, Nested.nil⟩

theorem trans {j k m : Journal} {ws vs : List Visit} (h : Enters j k ws) (h' : Enters k m vs) :
    Enters j m (ws ++ vs) := by
  obtain ⟨es, hes, hnested⟩ := h.events
  obtain ⟨fs, hfs, hnested'⟩ := h'.events
  refine ⟨h'.policy.trans h.policy, ?_, es ++ fs, ?_, ?_⟩
  · rw [h'.opened, h.opened, Visit.countAll_append]
  · rw [hfs, hes, List.reverse_append, List.append_assoc]
  · rw [h.opened] at hnested'
    rw [Visit.number_append]
    exact hnested.append hnested'

end Enters

/-! ## Computations that record -/

/-- Whether a sink takes every event. -/
def Policy.Accepts (p : Policy) (sink : Sink) : Prop := ∀ e, p.take sink e = .ok ()

/-- Under a policy a computation ends in one way, and records some visits. -/
def Records {α : Type} (p : Policy) (x : Eval α) (r : Except Fault α) (ws : List Visit) : Prop :=
  ∀ j, j.policy = p → outcome x j = r ∧ Enters j (after x j) ws

namespace Records

variable {p : Policy} {α β σ : Type}

theorem pure (a : α) : Records p (Pure.pure a : Eval α) (.ok a) [] :=
  fun j _ => ⟨rfl, Enters.refl j⟩

theorem throw (f : Fault) : Records p (throw f : Eval α) (.error f) [] :=
  fun j _ => ⟨rfl, Enters.refl j⟩

theorem lift (r : Except Fault α) : Records p (liftExcept r : Eval α) r [] := by
  intro j _
  rw [outcome_liftExcept, after_liftExcept]
  exact ⟨rfl, Enters.refl j⟩

theorem bind {x : Eval α} {f : α → Eval β} {r : Except Fault α} {g : α → Except Fault β}
    {ws : List Visit} {vs : α → List Visit} (hx : Records p x r ws)
    (hf : ∀ a, r = .ok a → Records p (f a) (g a) (vs a)) :
    Records p (x >>= f) (r >>= g) (ws ++ following r vs) := by
  intro j hj
  obtain ⟨ho, hj'⟩ := hx j hj
  rw [outcome_bind, after_bind, ho]
  cases r with
  | error e =>
    rw [following, List.append_nil]
    exact ⟨rfl, hj'⟩
  | ok a =>
    obtain ⟨ho', hk⟩ := hf a rfl (after x j) (hj'.policy.trans hj)
    exact ⟨ho', hj'.trans hk⟩

/-- A step that records nothing more. -/
theorem bind_nil {x : Eval α} {f : α → Eval β} {r : Except Fault α} {g : α → Except Fault β}
    {ws : List Visit} (hx : Records p x r ws) (hf : ∀ a, r = .ok a → Records p (f a) (g a) []) :
    Records p (x >>= f) (r >>= g) ws := by
  have hbind := hx.bind hf
  have hnone : following r (fun _ => ([] : List Visit)) = [] := by cases r <;> rfl
  rwa [hnone, List.append_nil] at hbind

theorem mapM {f : α → Eval β} {g : α → Except Fault β} {h : α → List Visit} {xs : List α}
    (hf : ∀ x ∈ xs, Records p (f x) (g x) (h x)) :
    Records p (xs.mapM f) (xs.mapM g) ((tried g xs).flatMap h) := by
  induction xs with
  | nil => exact Records.pure []
  | cons x xs ih =>
    have hrest := ih fun y hy => hf y (List.mem_cons_of_mem _ hy)
    have hcons := (hf x (by simp)).bind fun b _ => hrest.bind_nil fun bs _ => Records.pure (b :: bs)
    have htried : (tried g (x :: xs)).flatMap h
        = h x ++ following (g x) fun _ => (tried g xs).flatMap h := by
      cases hg : g x with
      | ok b => rw [tried_ok hg, List.flatMap_cons, following]
      | error e => rw [tried_error hg, List.flatMap_singleton, following, List.append_nil]
    rw [htried, List.mapM_cons, List.mapM_cons]
    exact hcons

theorem foldlM {f : σ → α → Eval σ} {g : σ → α → Except Fault σ} {h : α → List Visit} {xs : List α}
    (hf : ∀ s, ∀ x ∈ xs, Records p (f s x) (g s x) (h x)) (s : σ) :
    Records p (xs.foldlM f s) (xs.foldlM g s) ((triedFrom g s xs).flatMap h) := by
  induction xs generalizing s with
  | nil => exact Records.pure s
  | cons x xs ih =>
    have hcons := (hf s x (by simp)).bind fun t _ =>
      ih (fun u y hy => hf u y (List.mem_cons_of_mem _ hy)) t
    have htried : (triedFrom g s (x :: xs)).flatMap h
        = h x ++ following (g s x) fun t => (triedFrom g t xs).flatMap h := by
      rw [triedFrom, List.flatMap_cons]
      cases g s x <;> rfl
    rw [htried, List.foldlM_cons, List.foldlM_cons]
    exact hcons

end Records

/-! ## One recorded node -/

namespace Eval

variable {p : Policy} {sink : Sink} {j : Journal}

/-- A sink that takes an event adds it to the journal. -/
theorem report_accepted (h : p.Accepts sink) (hj : j.policy = p) (e : Event) :
    outcome (report sink e) j = .ok () ∧ after (report sink e) j = j.add e := by
  have hends := (yields_report sink e j hj).1
  rw [h e] at hends
  refine ⟨hends, ?_⟩
  cases sink with
  | log =>
    simp only [report, log, outcome_bind, after_bind, outcome_get, after_get, outcome_modify,
      after_modify] at hends ⊢
    split <;> rfl
  | named name =>
    simp only [report, collect, outcome_bind, after_bind, outcome_get, after_get] at hends ⊢
    split at hends
    · cases hends
    · rename_i hwritable
      rw [if_neg hwritable, after_modify]

theorem open_accepted {r : Recorder} (h : p.Accepts r.sink) (hj : j.policy = p) (d c : Value) :
    outcome (openRecord r d c) j = .ok (j.opened r.id + 1)
      ∧ after (openRecord r d c) j = (j.count r).add (.evaluating r (j.opened r.id + 1) d c) := by
  have hcount : (j.count r).opened r.id = j.opened r.id + 1 := if_pos rfl
  have hreport := report_accepted (j := j.count r) h hj (.evaluating r (j.opened r.id + 1) d c)
  simp only [openRecord, outcome_bind, after_bind, outcome_modify, after_modify, outcome_get, after_get,
    hcount, hreport.1, hreport.2, outcome_pure, after_pure, and_self]

end Eval

/-- A recorded node opens a record, and closes it with the value of the node
that it wraps; all records inside have been closed by then. -/
theorem Records.around {p : Policy} {r : Recorder} {d : Value} {c : Fields} {x : Eval Value}
    {q : Except Fault Value} {ws : List Visit} (hr : p.Accepts r.sink) (hx : Records p x q ws)
    (hws : ∀ v, q = .ok v → ∀ w ∈ ws, w.fails = false) :
    Records p (do
        let number ← Eval.openRecord r d (.object c)
        let v ← x
        Eval.closeRecord r number v
        return v) q (⟨r, d, c, q⟩ :: ws) := by
  intro j hj
  obtain ⟨hopen, hafter⟩ := Eval.open_accepted hr hj d (.object c)
  generalize hk : (j.count r).add (.evaluating r (j.opened r.id + 1) d (.object c)) = k at hafter
  have hkp : k.policy = p := by
    rw [← hk]
    exact hj
  have hko : k.opened = Visit.count ⟨r, d, c, q⟩ j.opened := by
    rw [← hk]
    rfl
  have hke : k.events = .evaluating r (j.opened r.id + 1) d (.object c) :: j.events := by
    rw [← hk]
    rfl
  obtain ⟨hends, hpolicy, hopened, es, hes, hnested⟩ := hx k hkp
  rw [hko] at hopened hnested
  rw [hke] at hes
  simp only [outcome_bind, after_bind, hopen, hafter, hends]
  cases q with
  | error e =>
    refine ⟨rfl, hpolicy.trans (hkp.trans hj.symm), hopened, _, ?_, hnested.leave _ rfl⟩
    rw [hes, List.reverse_cons, List.append_assoc, List.singleton_append]
  | ok v =>
    have hclose := Eval.report_accepted hr (hpolicy.trans hkp) (.result r (j.opened r.id + 1) v)
    have hall : ∀ e ∈ Visit.number (Visit.count ⟨r, d, c, .ok v⟩ j.opened) ws, e.1.fails = false := by
      intro e he
      refine hws v rfl e.1 ?_
      rw [← Visit.map_number (Visit.count ⟨r, d, c, .ok v⟩ j.opened) ws]
      exact List.mem_map_of_mem he
    simp only [Eval.closeRecord, hclose.1, hclose.2, outcome_pure, after_pure]
    refine ⟨trivial, hpolicy.trans (hkp.trans hj.symm), hopened, _, ?_, hnested.wrap _ rfl hall⟩
    simp only [Journal.add, hes, List.reverse_append, List.reverse_cons, List.reverse_nil,
      List.nil_append, List.append_assoc, List.cons_append]

namespace Node

/-! ## Recorders and visits of trees -/

mutual
/-- The recorders of a tree, in document order. -/
def recorders : Node → List Recorder
  | .literal _ => []
  | .path .. => []
  | .template _ holes => recordersOfItems holes
  | .branch c t f => c.recorders ++ t.recorders ++ f.recorders
  | .unary _ _ x => x.recorders
  | .binary _ _ xs => recordersOfItems xs
  | .complex _ _ xs => recordersOfItems xs
  | .witness _ x => x.recorders
  | .array xs => recordersOfItems xs
  | .object es => recordersOfEntries es
  | .property base keys => base.recorders ++ recordersOfItems keys
  | .calculated x => x.recorders
  | .map source body => source.recorders ++ body.recorders
  | .recorded r _ x => r :: x.recorders
def recordersOfItems : List Node → List Recorder
  | [] => []
  | x :: xs => x.recorders ++ recordersOfItems xs
def recordersOfEntries : List (Key × Node) → List Recorder
  | [] => []
  | (_, x) :: es => x.recorders ++ recordersOfEntries es
end

@[simp] theorem recordersOfItems_eq (xs : List Node) :
    recordersOfItems xs = xs.flatMap recorders := by
  induction xs with
  | nil => rfl
  | cons x xs ih => simp [recordersOfItems, ih]

@[simp] theorem recordersOfEntries_eq (es : List (Key × Node)) :
    recordersOfEntries es = es.flatMap fun e => e.2.recorders := by
  induction es with
  | nil => rfl
  | cons e es ih => simp [recordersOfEntries, ih]

/-- The visit of a recorded node. -/
def visit? (p : Policy) : Call → Option Visit
  | (c, .recorded r d x) => some ⟨r, d, c, x.value p c⟩
  | _ => none

/-- The visits of an evaluation, in the order in which they begin. -/
def visits (p : Policy) (c : Fields) (n : Node) : List Visit :=
  (evaluations p c n).filterMap (visit? p)

section Visits

variable {p : Policy} {c : Fields} {n : Node}

theorem visits_eq (p : Policy) (c : Fields) (n : Node) :
    visits p c n = (visit? p (c, n)).toList ++ (calls p c n).flatMap fun e => visits p e.1 e.2 := by
  unfold visits
  rw [evaluations_eq, List.filterMap_cons, List.filterMap_flatMap]
  cases visit? p (c, n) <;> rfl

/-- A sink that takes every record does not show in the value of a recorded
node. -/
theorem value_recorded {r : Recorder} (h : p.Accepts r.sink) (d : Value) (x : Node) :
    (Node.recorded r d x).value p c = x.value p c := by
  simp only [value, h _]
  exact bind_pure (x.value p c)

/-- A tree without calculations whose sinks take every record. -/
structure Recordable (p : Policy) (n : Node) : Prop where
  settled : .count ∉ n.sources
  accepts : ∀ r ∈ n.recorders, p.Accepts r.sink

/-- Whatever stands in a part of a tree stands in the tree. -/
theorem mem_of_part {x : Node} (h : x ∈ parts n) :
    (∀ s ∈ x.sources, s ∈ n.sources) ∧ ∀ r ∈ x.recorders, r ∈ n.recorders := by
  cases n with
  | literal v => cases h
  | path names r => cases h
  | template text xs | binary name f xs | complex name f xs | array xs =>
    simp only [sources, recorders, sourcesOfItems_eq, recordersOfItems_eq, List.mem_flatMap]
    exact ⟨fun s hs => ⟨x, h, hs⟩, fun r hr => ⟨x, h, hr⟩⟩
  | branch y t f =>
    simp only [parts, List.mem_cons, List.not_mem_nil, or_false] at h
    rcases h with rfl | rfl | rfl <;> simp +contextual [sources, recorders]
  | unary name f y | witness name y | calculated y | recorded r d y =>
    obtain rfl := List.mem_singleton.mp h
    simp +contextual [sources, recorders]
  | object es =>
    obtain ⟨e, he, rfl⟩ := List.mem_map.mp h
    simp only [sources, recorders, sourcesOfEntries_eq, recordersOfEntries_eq, List.mem_flatMap]
    exact ⟨fun s hs => ⟨e, he, hs⟩, fun r hr => ⟨e, he, hr⟩⟩
  | property base keys =>
    simp only [sources, recorders, sourcesOfItems_eq, recordersOfItems_eq, List.mem_append,
      List.mem_flatMap]
    rcases List.mem_cons.mp h with rfl | h
    · exact ⟨fun s hs => Or.inl hs, fun r hr => Or.inl hr⟩
    · exact ⟨fun s hs => Or.inr ⟨x, h, hs⟩, fun r hr => Or.inr ⟨x, h, hr⟩⟩
  | map source body =>
    simp only [parts, List.mem_cons, List.not_mem_nil, or_false] at h
    rcases h with rfl | rfl <;> simp +contextual [sources, recorders]

theorem Recordable.part (h : Recordable p n) {x : Node} (hx : x ∈ parts n) : Recordable p x := by
  obtain ⟨hsources, hrecorders⟩ := mem_of_part hx
  exact ⟨fun hc => h.settled (hsources _ hc), fun r hr => h.accepts r (hrecorders r hr)⟩

/-- Whatever stands in a tree that is evaluated stands in the whole one. -/
theorem mem_of_evaluated {e : Call} (he : e ∈ evaluations p c n) :
    (∀ s ∈ e.2.sources, s ∈ n.sources) ∧ ∀ r ∈ e.2.recorders, r ∈ n.recorders := by
  induction c, n using call_induction (p := p) with
  | h c n ih =>
    rw [evaluations_eq] at he
    rcases List.mem_cons.mp he with rfl | he
    · exact ⟨fun s hs => hs, fun r hr => hr⟩
    · obtain ⟨e', he', he⟩ := List.mem_flatMap.mp he
      obtain ⟨hsources, hrecorders⟩ := ih e' he' he
      obtain ⟨hsources', hrecorders'⟩ := mem_of_part (calls_parts he')
      exact ⟨fun s hs => hsources' s (hsources s hs), fun r hr => hrecorders' r (hrecorders r hr)⟩

theorem Recordable.evaluated (h : Recordable p n) {e : Call} (he : e ∈ evaluations p c n) :
    Recordable p e.2 := by
  obtain ⟨hsources, hrecorders⟩ := mem_of_evaluated he
  exact ⟨fun hc => h.settled (hsources _ hc), fun r hr => h.accepts r (hrecorders r hr)⟩

theorem mem_of_visit {w : Visit} (hw : w ∈ visits p c n) : w.recorder ∈ n.recorders := by
  obtain ⟨e, he, hwe⟩ := List.mem_filterMap.mp hw
  obtain ⟨c', m⟩ := e
  cases m with
  | recorded r d x =>
    obtain rfl := Option.some.inj hwe
    exact (mem_of_evaluated he).2 r List.mem_cons_self
  | _ => cases hwe

/-- A visit fails if the evaluation of the recorded node does. -/
theorem fails_visit {e : Call} (h : Recordable p e.2) {w : Visit} (hw : visit? p e = some w) :
    w.fails = e.fails p := by
  obtain ⟨c, n⟩ := e
  cases n with
  | recorded r d x =>
    obtain rfl := Option.some.inj hw
    have hr : p.Accepts r.sink := h.accepts r List.mem_cons_self
    rw [Visit.fails, Call.fails, Call.result, value_recorded hr]
  | _ => cases hw

/-- The visits that fail are the recorded ones of the calls that fail. -/
theorem failing_visits (h : Recordable p n) :
    (visits p c n).filter Visit.fails
      = ((evaluations p c n).filter (Call.fails p)).filterMap (visit? p) := by
  have hall : ∀ e ∈ evaluations p c n, Recordable p e.2 := fun e he => h.evaluated he
  unfold visits
  generalize evaluations p c n = es at hall
  induction es with
  | nil => rfl
  | cons e es ih =>
    have hrest := ih fun e' he' => hall e' (List.mem_cons_of_mem _ he')
    cases hw : visit? p e with
    | none =>
      rw [List.filterMap_cons_none hw, hrest, List.filter_cons]
      split
      · rw [List.filterMap_cons_none hw]
      · rfl
    | some w =>
      rw [List.filterMap_cons_some hw, List.filter_cons, List.filter_cons,
        fails_visit (hall e List.mem_cons_self) hw, hrest]
      split
      · rw [List.filterMap_cons_some hw]
      · rfl

theorem visits_ok (h : Recordable p n) {v : Value} (hv : n.value p c = .ok v) :
    ∀ w ∈ visits p c n, w.fails = false := by
  intro w hw
  obtain ⟨e, he, hwe⟩ := List.mem_filterMap.mp hw
  rw [fails_visit (h.evaluated he) hwe]
  exact evaluations_ok hv e he

end Visits

/-! ## Evaluation records its visits -/

/-- A witnessed value is no record. -/
theorem see_records (p : Policy) (v : Value) :
    Records p (Eval.see v) (p.take (.named "") (.seen v)) [] := by
  intro j hj
  refine ⟨(Eval.yields_collect "" (.seen v) j hj).1, ?_⟩
  simp only [Eval.see, Eval.collect, after_bind, outcome_get, after_get]
  split
  · exact Enters.refl j
  · exact ⟨rfl, rfl, [.seen v], rfl, Nested.seen v⟩

/-- A node that is not recorded itself records what it calls. -/
theorem visits_of_calls {p : Policy} {c : Fields} {n : Node} (h : visit? p (c, n) = none) :
    visits p c n = (calls p c n).flatMap fun e => visits p e.1 e.2 := by
  rw [visits_eq, h]
  rfl

theorem visits_recorded {p : Policy} {r : Recorder} (h : p.Accepts r.sink) (c : Fields) (d : Value)
    (x : Node) : visits p c (.recorded r d x) = ⟨r, d, c, x.value p c⟩ :: visits p c x := by
  rw [visits_eq, calls, h _, following, List.flatMap_singleton]
  rfl

/-- An evaluation ends with the value of its tree, and records the visits to
recorded nodes. -/
theorem eval_records {p : Policy} {n : Node} (h : Recordable p n) (c : Fields) :
    Records p (n.eval c) (n.value p c) (visits p c n) := by
  induction n generalizing c with
  | literal v =>
    rw [visits_of_calls rfl]
    exact Records.pure v
  | path names r =>
    rw [visits_of_calls rfl]
    exact Records.lift _
  | template text holes ih =>
    rw [visits_of_calls rfl, calls, List.flatMap_map]
    simp only [eval, value, evalHoles_eq, valueOfHoles_eq]
    refine Records.bind_nil (Records.mapM fun x hx => ?_) fun ts _ => Records.pure _
    exact (ih x hx (h.part hx) c).bind_nil fun v _ => Records.lift _
  | branch x t f hx ht hf =>
    rw [visits_of_calls rfl, calls, List.flatMap_cons, flatMap_following]
    refine (hx (h.part (by simp [parts])) c).bind fun v _ => ?_
    rw [List.flatMap_singleton]
    split
    · exact ht (h.part (by simp [parts])) c
    · exact hf (h.part (by simp [parts])) c
  | unary name f x ih =>
    rw [visits_of_calls rfl, calls, List.flatMap_singleton]
    exact (ih (h.part (by simp [parts])) c).bind_nil fun v _ => Records.lift _
  | binary name f xs ih =>
    rw [visits_of_calls rfl, calls, List.flatMap_map]
    simp only [eval, value, evalItems_eq, valueOfItems_eq]
    exact (Records.mapM fun x hx => ih x hx (h.part hx) c).bind_nil fun vs _ => Records.lift _
  | complex name f xs ih =>
    rw [visits_of_calls rfl, calls, List.flatMap_map]
    simp only [eval, value, evalItems_eq, valueOfItems_eq]
    exact (Records.mapM fun x hx => ih x hx (h.part hx) c).bind_nil fun vs _ => Records.lift _
  | witness name x ih =>
    rw [visits_of_calls rfl, calls, List.flatMap_singleton]
    refine (ih (h.part (by simp [parts])) c).bind_nil fun v _ => ?_
    exact (see_records p v).bind_nil fun _ _ => Records.pure v
  | array xs ih =>
    rw [visits_of_calls rfl, calls, List.flatMap_map]
    simp only [eval, value, evalItems_eq, valueOfItems_eq]
    exact (Records.mapM fun x hx => ih x hx (h.part hx) c).bind_nil fun vs _ => Records.pure _
  | object es ih =>
    have hentries : Records p ((es.map Prod.snd).mapM (eval c)) ((es.map Prod.snd).mapM (value p c))
        ((tried (value p c) (es.map Prod.snd)).flatMap (visits p c)) := by
      refine Records.mapM fun x hx => ?_
      obtain ⟨e, he, rfl⟩ := List.mem_map.mp hx
      exact ih e he (h.part (List.mem_map_of_mem he)) c
    have hentry : evalEntry c = fun e : Key × Node => do return (e.1, ← e.2.eval c) := rfl
    rw [List.mapM_map, List.mapM_map] at hentries
    rw [visits_of_calls rfl, calls, List.flatMap_map]
    simp only [eval, value, evalEntries_eq, valueOfEntries_eq, hentry, mapM_pair, bind_assoc, pure_bind]
    exact hentries.bind_nil fun vs _ => Records.pure _
  | property base keys hb hk =>
    rw [visits_of_calls rfl, calls, List.flatMap_cons, flatMap_following]
    simp only [eval, value, evalKeys_eq, valueOfKeys_eq]
    refine (hb (h.part (by simp [parts])) c).bind fun v _ => ?_
    rw [List.flatMap_map]
    refine Records.foldlM (fun w x hx => ?_) v
    exact (hk x hx (h.part (List.mem_cons_of_mem _ hx)) c).bind_nil fun key _ => Records.lift _
  | calculated x ih => exact absurd List.mem_cons_self h.settled
  | map source body hs hb =>
    have hbodies (bs : List Fields) : Records p (bs.mapM fun b => body.eval b)
        (bs.mapM fun b => body.value p b)
        ((tried (fun b => body.value p b) bs).flatMap fun b => visits p b body) :=
      Records.mapM fun b _ => hb (h.part (by simp [parts])) b
    rw [visits_of_calls rfl, calls, List.flatMap_cons, flatMap_following]
    refine (hs (h.part (by simp [parts])) c).bind fun v _ => ?_
    rw [List.flatMap_map]
    cases v with
    | object fs =>
      have hfields := hbodies (bindings c (.object fs))
      rw [bindings, List.mapM_map, List.mapM_map] at hfields
      simp only [mapM_pair, bind_assoc, pure_bind]
      exact hfields.bind_nil fun vs _ => Records.pure _
    | list xs =>
      have hlist := hbodies (bindings c (.list xs))
      rw [bindings, List.mapM_map, List.mapM_map] at hlist
      exact hlist.bind_nil fun vs _ => Records.pure _
    | _ => exact Records.throw _
  | recorded r d x ih =>
    have hr : p.Accepts r.sink := h.accepts r List.mem_cons_self
    have hx : Recordable p x := h.part (by simp [parts])
    rw [visits_recorded hr, value_recorded hr]
    exact Records.around hr (ih hx c) fun v hv => visits_ok hx hv

end Node
end Rulebook
