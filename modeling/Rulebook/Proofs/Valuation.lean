-- Values without effects. How an evaluation ends depends on what sinks refuse
-- but not on what a journal holds, so it has a value. Where sinks take every
-- record, recorders do not change it.
import Rulebook.Proofs.Computation
import Rulebook.Proofs.Tree

namespace Rulebook

/-! ## What sinks refuse -/

/-- What the sinks of an evaluation refuse. -/
@[ext]
structure Policy where
  /-- Why the log cannot take records, if it cannot. -/
  logFault : Option Fault
  /-- Whether the log refuses a record that cannot be written. -/
  strict : Bool
  /-- Whether a collecting sink refuses such a record. -/
  choosy : Bool

/-- The policy of a journal, which no evaluation changes. -/
def Journal.policy (j : Journal) : Policy := ⟨j.logFault, j.strict, j.choosy⟩

namespace Policy

/-- Nothing is refused. -/
structure Quiet (p : Policy) : Prop where
  logFault : p.logFault = none
  strict : p.strict = false
  choosy : p.choosy = false

theorem Quiet.unique {p q : Policy} (hp : p.Quiet) (hq : q.Quiet) : p = q :=
  Policy.ext (hp.logFault.trans hq.logFault.symm) (hp.strict.trans hq.strict.symm)
    (hp.choosy.trans hq.choosy.symm)

/-- What becomes of an event at a sink. -/
def take (p : Policy) (sink : Sink) (e : Event) : Except Fault Unit :=
  match sink, p.logFault with
  | .log, some f => .error f
  | .log, none => if p.strict && !e.writable then .error .unwritable else .ok ()
  | .named _, _ => if p.choosy && !e.writable then .error .unwritable else .ok ()

@[simp] theorem take_of_quiet {p : Policy} (h : p.Quiet) (sink : Sink) (e : Event) :
    p.take sink e = .ok () := by
  cases sink <;> simp [take, h.logFault, h.strict, h.choosy]

end Policy

namespace Eval

/-- The journals of a policy. -/
abbrev Under (p : Policy) (j : Journal) : Prop := j.policy = p

variable {p : Policy}

theorem yields_collect (name : String) (e : Event) :
    Yields (Under p) (collect e) (p.take (.named name) e) := by
  rintro j rfl
  have htake : j.policy.take (.named name) e
      = if j.choosy && !e.writable then .error .unwritable else .ok () := rfl
  simp only [collect, outcome_bind, after_bind, outcome_get, after_get]
  rw [htake]
  by_cases h : (j.choosy && !e.writable) = true
  · rw [if_pos h, if_pos h]
    exact ⟨rfl, rfl⟩
  · rw [if_neg h, if_neg h]
    exact ⟨rfl, rfl⟩

theorem yields_log (e : Event) : Yields (Under p) (log e) (p.take .log e) := by
  rintro j rfl
  have htake : j.policy.take .log e = (j.refusal e).elim (.ok ()) .error := by
    unfold Policy.take Journal.policy Journal.refusal
    cases j.logFault with
    | some f => rfl
    | none => by_cases h : (j.strict && !e.writable) = true <;> simp [h]
  have hadd : (j.add e).refusal e = j.refusal e := rfl
  simp only [log, outcome_bind, after_bind, outcome_get, after_get, outcome_modify, after_modify]
  rw [htake, hadd]
  cases j.refusal e with
  | some f => exact ⟨rfl, rfl⟩
  | none => exact ⟨rfl, rfl⟩

theorem yields_report (sink : Sink) (e : Event) :
    Yields (Under p) (report sink e) (p.take sink e) := by
  cases sink with
  | log => exact yields_log e
  | named name => exact yields_collect name e

/-- Opening a record ends as its sink decides, whatever number it gets. -/
theorem yields_open {α : Type} (r : Recorder) (d c : Value) {f : Nat → Eval α} {q : Except Fault α}
    (hf : ∀ n, Yields (Under p) (f n) q) :
    Yields (Under p) (openRecord r d c >>= f) (do p.take r.sink (.evaluating r 0 d c); q) := by
  have hreport (n : Nat) : Yields (Under p) (do report r.sink (.evaluating r n d c); f n)
      (do p.take r.sink (.evaluating r 0 d c); q) :=
    (yields_report r.sink (.evaluating r n d c)).bind fun _ _ => hf n
  intro j hj
  have hcounted := hreport ((j.count r).opened r.id) (j.count r) hj
  simp only [openRecord, bind_assoc, pure_bind]
  rw [outcome_bind, after_bind]
  exact hcounted

end Eval

namespace Node

/-! ## Evaluation of lists -/

variable (context : Fields)

theorem evalItems_eq (xs : List Node) : evalItems context xs = xs.mapM (eval context) := by
  induction xs with
  | nil => rfl
  | cons x xs ih => simp only [evalItems, ih, List.mapM_cons]

/-- The filling of one placeholder. -/
def evalHole (x : Node) : Eval (Option String) := do
  liftExcept (Template.filling (← x.eval context))

theorem evalHoles_eq (xs : List Node) : evalHoles context xs = xs.mapM (evalHole context) := by
  induction xs with
  | nil => rfl
  | cons x xs ih => simp only [evalHoles, evalHole, ih, List.mapM_cons, bind_assoc]

/-- One entry of a mapping. -/
def evalEntry (e : Key × Node) : Eval (Key × Value) := do
  return (e.1, ← e.2.eval context)

theorem evalEntries_eq (es : List (Key × Node)) :
    evalEntries context es = es.mapM (evalEntry context) := by
  induction es with
  | nil => rfl
  | cons e es ih => simp only [evalEntries, evalEntry, ih, List.mapM_cons, bind_assoc, pure_bind]

/-- One more step through a value. -/
def evalKey (v : Value) (x : Node) : Eval Value := do
  liftExcept (follow v (← x.eval context))

theorem evalKeys_eq (v : Value) (xs : List Node) :
    evalKeys context v xs = xs.foldlM (evalKey context) v := by
  induction xs generalizing v with
  | nil => rfl
  | cons x xs ih => simp only [evalKeys, evalKey, ih, List.foldlM_cons, bind_assoc]

/-! ## Values -/

mutual
/-- The value of a tree in a context, or its fault. -/
def value (p : Policy) (context : Fields) : Node → Except Fault Value
  | .literal v => .ok v
  | .path names resolver => resolver.get (.object context) (names.map .text)
  | .template text holes => do
    return .text (String.ofList (Template.fill (Template.pieces text) (← valueOfHoles p context holes)))
  | .branch c t f => do
    if (← c.value p context).truthy then t.value p context else f.value p context
  | .unary _ f x => do f (← x.value p context)
  | .binary _ f xs => do reduce f (← valueOfItems p context xs)
  | .complex _ f xs => do f (← valueOfItems p context xs)
  | .witness _ x => do
    let v ← x.value p context
    p.take (.named "") (.seen v)
    return v
  | .array xs => do return .list (← valueOfItems p context xs)
  | .object es => do return .object (← valueOfEntries p context es)
  | .property base keys => do valueOfKeys p context (← base.value p context) keys
  | .calculated x => x.value p context
  | .map source body => do
    match ← source.value p context with
    | .object fs =>
      let es ← fs.mapM fun e => do
        return (e.1, ← body.value p (bind context ("key", e.1.toValue) e.2))
      return .object es
    | .list xs =>
      let vs ← (numbered xs).mapM fun e => body.value p (bind context e.1 e.2)
      return .list vs
    | v => throw (.mapSource v)
  | .recorded r d x => do
    p.take r.sink (.evaluating r 0 d (.object context))
    let v ← x.value p context
    p.take r.sink (.result r 0 v)
    return v
def valueOfItems (p : Policy) (context : Fields) : List Node → Except Fault (List Value)
  | [] => return []
  | x :: xs => do return (← x.value p context) :: (← valueOfItems p context xs)
def valueOfHoles (p : Policy) (context : Fields) : List Node → Except Fault (List (Option String))
  | [] => return []
  | x :: xs => do
    let t ← Template.filling (← x.value p context)
    return t :: (← valueOfHoles p context xs)
def valueOfEntries (p : Policy) (context : Fields) : List (Key × Node) → Except Fault Fields
  | [] => return []
  | (k, x) :: es => do
    let v ← x.value p context
    return (k, v) :: (← valueOfEntries p context es)
def valueOfKeys (p : Policy) (context : Fields) (v : Value) : List Node → Except Fault Value
  | [] => return v
  | x :: xs => do
    let key ← x.value p context
    valueOfKeys p context (← follow v key) xs
end

section Lists

variable (p : Policy)

@[simp] theorem valueOfItems_eq (xs : List Node) :
    valueOfItems p context xs = xs.mapM (value p context) := by
  induction xs with
  | nil => rfl
  | cons x xs ih => simp only [valueOfItems, ih, List.mapM_cons]

@[simp] theorem valueOfHoles_eq (xs : List Node) :
    valueOfHoles p context xs = xs.mapM (fun x => do Template.filling (← x.value p context)) := by
  induction xs with
  | nil => rfl
  | cons x xs ih => simp only [valueOfHoles, ih, List.mapM_cons, bind_assoc]

@[simp] theorem valueOfEntries_eq (es : List (Key × Node)) :
    valueOfEntries p context es = es.mapM (fun e => do return (e.1, ← e.2.value p context)) := by
  induction es with
  | nil => rfl
  | cons e es ih => simp only [valueOfEntries, ih, List.mapM_cons, bind_assoc, pure_bind]

@[simp] theorem valueOfKeys_eq (v : Value) (xs : List Node) :
    valueOfKeys p context v xs = xs.foldlM (fun v x => do follow v (← x.value p context)) v := by
  induction xs generalizing v with
  | nil => rfl
  | cons x xs ih => simp only [valueOfKeys, ih, List.foldlM_cons, bind_assoc]

end Lists

/-! ## Evaluation has a value -/

theorem not_count_of_mem {xs : List Node} (h : .count ∉ xs.flatMap sources) :
    ∀ x ∈ xs, .count ∉ x.sources := by
  intro x hx hc
  exact h (List.mem_flatMap.mpr ⟨x, hx, hc⟩)

/-- A tree without calculations has one value in a context, whatever has
been recorded before. -/
theorem eval_yields (p : Policy) (n : Node) (hn : .count ∉ n.sources) (context : Fields) :
    Yields (Eval.Under p) (n.eval context) (n.value p context) := by
  induction n generalizing context with
  | literal v => exact Yields.pure v
  | path names r => exact Yields.lift _
  | template text holes ih =>
    simp only [sources, sourcesOfItems_eq] at hn
    simp only [eval, value, evalHoles_eq, valueOfHoles_eq]
    refine Yields.bind (Yields.mapM fun x hx => ?_) fun ts _ => Yields.pure _
    exact (ih x hx (not_count_of_mem hn x hx) context).bind fun v _ => Yields.lift _
  | branch c t f hc ht hf =>
    simp only [sources, List.mem_append, not_or] at hn
    simp only [eval, value]
    refine (hc hn.1.1 context).bind fun v _ => ?_
    split
    · exact ht hn.1.2 context
    · exact hf hn.2 context
  | unary name f x ih =>
    simp only [eval, value]
    exact (ih hn context).bind fun v _ => Yields.lift _
  | binary name f xs ih =>
    simp only [sources, sourcesOfItems_eq] at hn
    simp only [eval, value, evalItems_eq, valueOfItems_eq]
    refine Yields.bind (Yields.mapM fun x hx => ?_) fun vs _ => Yields.lift _
    exact ih x hx (not_count_of_mem hn x hx) context
  | complex name f xs ih =>
    simp only [sources, sourcesOfItems_eq] at hn
    simp only [eval, value, evalItems_eq, valueOfItems_eq]
    refine Yields.bind (Yields.mapM fun x hx => ?_) fun vs _ => Yields.lift _
    exact ih x hx (not_count_of_mem hn x hx) context
  | witness name x ih =>
    simp only [eval, value]
    refine (ih hn context).bind fun v _ => ?_
    exact (Eval.yields_collect "" (.seen v)).bind fun _ _ => Yields.pure v
  | array xs ih =>
    simp only [sources, sourcesOfItems_eq] at hn
    simp only [eval, value, evalItems_eq, valueOfItems_eq]
    refine Yields.bind (Yields.mapM fun x hx => ?_) fun vs _ => Yields.pure _
    exact ih x hx (not_count_of_mem hn x hx) context
  | object es ih =>
    simp only [sources, sourcesOfEntries_eq] at hn
    simp only [eval, value, evalEntries_eq, valueOfEntries_eq]
    refine Yields.bind (Yields.mapM fun e he => ?_) fun fs _ => Yields.pure _
    have hc : .count ∉ e.2.sources := fun hc => hn (List.mem_flatMap.mpr ⟨e, he, hc⟩)
    exact (ih e he hc context).bind fun v _ => Yields.pure _
  | property base keys hb hk =>
    simp only [sources, sourcesOfItems_eq, List.mem_append, not_or] at hn
    simp only [eval, value, evalKeys_eq, valueOfKeys_eq]
    refine (hb hn.1 context).bind fun v _ => ?_
    refine Yields.foldlM (fun w x hx => ?_) v
    exact (hk x hx (not_count_of_mem hn.2 x hx) context).bind fun key _ => Yields.lift _
  | calculated x ih => simp [sources] at hn
  | map source body hs hb =>
    simp only [sources, List.mem_append, not_or] at hn
    simp only [eval, value]
    refine (hs hn.1 context).bind fun v _ => ?_
    cases v with
    | object fs =>
      refine Yields.bind (Yields.mapM fun e _ => ?_) fun es _ => Yields.pure _
      exact (hb hn.2 _).bind fun w _ => Yields.pure _
    | list xs =>
      exact Yields.bind (Yields.mapM fun e _ => hb hn.2 _) fun vs _ => Yields.pure _
    | _ => exact Yields.throw _
  | recorded r d x ih =>
    simp only [eval, value]
    refine Eval.yields_open r d (.object context) fun number => ?_
    refine (ih hn context).bind fun v _ => ?_
    exact (Eval.yields_report r.sink (.result r number v)).bind fun _ _ => Yields.pure v

/-- Recorded nodes can be made anew if each keeps its value. -/
theorem value_retrace {p : Policy} {f : Recorder → Value → Node → Node}
    (hf : ∀ r d x y, (∀ c, x.value p c = y.value p c) →
      ∀ c, (f r d x).value p c = (Node.recorded r d y).value p c) (n : Node) (context : Fields) :
    (n.retrace f).value p context = n.value p context := by
  have hmap {xs : List Node} (h : ∀ x ∈ xs, ∀ c, (x.retrace f).value p c = x.value p c) (c : Fields) :
      (xs.map (retrace f)).mapM (value p c) = xs.mapM (value p c) := by
    rw [List.mapM_map]
    exact mapM_congr fun x hx => h x hx c
  induction n generalizing context with
  | literal v => rfl
  | path names r => rfl
  | template text holes ih =>
    simp only [retrace, value, retraceItems_eq, valueOfHoles_eq, List.mapM_map]
    refine congrArg (· >>= _) (mapM_congr fun x hx => ?_)
    simp only [Function.comp, ih x hx context]
  | branch c t e hc ht he => simp only [retrace, value, hc, ht, he]
  | unary name g x ih => simp only [retrace, value, ih]
  | binary name g xs ih => simp only [retrace, value, retraceItems_eq, valueOfItems_eq, hmap ih]
  | complex name g xs ih => simp only [retrace, value, retraceItems_eq, valueOfItems_eq, hmap ih]
  | witness name x ih => simp only [retrace, value, ih]
  | array xs ih => simp only [retrace, value, retraceItems_eq, valueOfItems_eq, hmap ih]
  | object es ih =>
    simp only [retrace, value, retraceEntries_eq, valueOfEntries_eq, List.mapM_map]
    refine congrArg (· >>= _) (mapM_congr fun e he => ?_)
    simp only [Function.comp, ih e he context]
  | property base keys hb hk =>
    simp only [retrace, value, hb, retraceItems_eq, valueOfKeys_eq, List.foldlM_map]
    refine congrArg _ (funext fun v => foldlM_congr (fun w x hx => ?_) v)
    rw [hk x hx context]
  | calculated x ih => simp only [retrace, value, ih]
  | map source body hs hb => simp only [retrace, value, hs, hb]
  | recorded r d x ih => exact hf r d _ x ih context

/-- Where nothing is refused, recorders do not change a value. -/
theorem value_erase {p : Policy} (hp : p.Quiet) (n : Node) (context : Fields) :
    n.erase.value p context = n.value p context := by
  refine value_retrace (fun r d x y h c => ?_) n context
  simp only [value, h, Policy.take_of_quiet hp]
  exact (bind_pure _).symm

/-- What a sink refuses does not depend on which recorder it comes from. -/
theorem value_anonymous (p : Policy) (n : Node) (context : Fields) :
    n.anonymous.value p context = n.value p context := by
  refine value_retrace (fun r d x y h c => ?_) n context
  simp only [value, h]
  rfl

end Node
end Rulebook
