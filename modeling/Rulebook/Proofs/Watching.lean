-- What each debug operation of a definition records. The outermost one records
-- every definition beneath it, in other debug operations, too. One that stands
-- beneath another one records its operand alone.
import Rulebook.Proofs.Debugging

namespace Rulebook

open Node (Source)

/-! ## Debug operations that record everything -/

/-- A debug operation that a compilation has met. -/
structure DebugOperation where
  recorder : Recorder
  operand : Value
  /-- Whether it stands beneath another one. -/
  nested : Bool

/-- A node in several recorders, the first of them outermost. -/
def Node.recordedBy (rs : List Recorder) (d : Value) (n : Node) : Node :=
  rs.foldr (fun r x => .recorded r d x) n

/-- A compilation whose state is the debug operations met so far, in order. -/
abbrev Watch := ExceptT Fault (StateM (List DebugOperation))

namespace Compile

/-- The recorders of all that lies beneath an operation. A debug operation adds
one of its own, with the next number. -/
def watchers (setup : Setup) (first : Nat) (around : List Recorder) (operand : Value) :
    Factory → Watch (List Recorder)
  | .debug sink => do
    let met ← get
    let r : Recorder := ⟨first + met.length, sink.getD setup.sink⟩
    set (met ++ [⟨r, operand, !around.isEmpty⟩])
    return r :: around
  | _ => return around

/-- The tree of a definition in which each debug operation records every
definition beneath it, wherever it stands itself. -/
def watch (setup : Setup) (first : Nat) (around : List Recorder) (d : Value) : Watch Node := do
  let (name, operand) ← liftExcept (select setup.marker d)
  match setup.registry.factory? name with
  | none => throw (.unknownOperation name d setup.registry.sortedNames)
  | some factory =>
    let tree : List Recorder → Value → Watch Node := fun rs c =>
      if _h : c.size < d.size then watch setup first rs c else throw .endless
    let rs ← watchers setup first around operand factory
    let b ← liftExcept (factory.blueprint setup operand)
    return b.assemble (← b.parts.mapM fun c => do return (← tree rs c).recordedBy rs c)
termination_by d.size

end Compile

/-! ## Trees with some of their records -/

section Restrict

open scoped Classical

/-- Whether a debug operation in fact records a definition. -/
def Noted (operations : List DebugOperation) (r : Recorder) (d : Value) : Prop :=
  ∀ o ∈ operations, o.recorder = r → o.nested = true → d = o.operand

namespace Node

/-- The tree with some of its recorded nodes. -/
noncomputable def restrict (keep : Recorder → Value → Prop) (n : Node) : Node :=
  n.retrace fun r d x => if keep r d then .recorded r d x else x

variable {keep : Recorder → Value → Prop}

theorem restrict_recordedBy (rs : List Recorder) (d : Value) (n : Node) :
    (n.recordedBy rs d).restrict keep = (n.restrict keep).recordedBy (rs.filter fun r => keep r d) d := by
  induction rs with
  | nil => rfl
  | cons r rs ih =>
    have hcons : (n.recordedBy (r :: rs) d).restrict keep
        = if keep r d then .recorded r d ((n.recordedBy rs d).restrict keep)
          else (n.recordedBy rs d).restrict keep := rfl
    rw [hcons, ih]
    by_cases hr : keep r d
    · rw [if_pos hr, List.filter_cons_of_pos (by simpa using hr)]
      rfl
    · rw [if_neg hr, List.filter_cons_of_neg (by simpa using hr)]

theorem value_restrict {p : Policy} (hp : p.Quiet) (n : Node) (c : Fields) :
    (n.restrict keep).value p c = n.value p c := by
  refine value_retrace (fun r d x y h c => ?_) n c
  have hrecorded (r : Recorder) (z : Node) : (Node.recorded r d z).value p c = z.value p c :=
    value_recorded (fun e => Policy.take_of_quiet hp r.sink e) d z
  split
  · rw [hrecorded, hrecorded, h]
  · rw [hrecorded, h]

/-- Going through a list does not depend on how its items are made. -/
theorem triedFrom_map {ε α β σ : Type} {f : σ → β → Except ε σ} {g : σ → α → Except ε σ}
    {m : α → β} {xs : List α} (h : ∀ s, ∀ x ∈ xs, f s (m x) = g s x) (s : σ) :
    triedFrom f s (xs.map m) = (triedFrom g s xs).map m := by
  induction xs generalizing s with
  | nil => rfl
  | cons x xs ih =>
    rw [List.map_cons, triedFrom, triedFrom, List.map_cons, h s x List.mem_cons_self]
    cases g s x with
    | error e => rfl
    | ok t => exact congrArg _ (ih (fun s x' hx' => h s x' (List.mem_cons_of_mem _ hx')) t)

/-- Where recorded nodes keep their values, a node calls what it did. -/
theorem calls_retrace {p : Policy} {f : Recorder → Value → Node → Node}
    (hvalue : ∀ x c, (retrace f x).value p c = x.value p c) (c : Fields) {n : Node}
    (hn : visit? p (c, n) = none) :
    calls p c (n.retrace f) = (calls p c n).map fun e => (e.1, e.2.retrace f) := by
  have hlist {β : Type} (k : Except Fault Value → Except Fault β) (xs : List Node) :
      (tried (fun x => k (value p c x)) (xs.map (retrace f))).map (Prod.mk c)
        = ((tried (fun x => k (value p c x)) xs).map (Prod.mk c)).map fun e => (e.1, e.2.retrace f) := by
    have htried : tried (fun x => k (value p c x)) (xs.map (retrace f))
        = (tried (fun x => k (value p c x)) xs).map (retrace f) :=
      triedFrom_map (fun _ x _ => by simp only [hvalue]) ()
    rw [htried, List.map_map, List.map_map]
    rfl
  cases n with
  | literal v | path names resolver => rfl
  | template text xs =>
    simp only [retrace, retraceItems_eq, calls]
    exact hlist (fun r => r >>= Template.filling) xs
  | branch x t e =>
    simp only [retrace, calls, hvalue, List.map_cons]
    cases x.value p c with
    | error e => rfl
    | ok v =>
      simp only [following, List.map_cons, List.map_nil]
      split <;> rfl
  | unary name g x | witness name x | calculated x => rfl
  | binary name g xs | complex name g xs | array xs =>
    simp only [retrace, retraceItems_eq, calls]
    exact hlist (fun r => r) xs
  | object es =>
    have hnodes : (es.map fun e => (e.1, e.2.retrace f)).map Prod.snd
        = (es.map Prod.snd).map (retrace f) := by
      rw [List.map_map, List.map_map]
      rfl
    simp only [retrace, retraceEntries_eq, calls, hnodes]
    exact hlist (fun r => r) (es.map Prod.snd)
  | property base keys =>
    simp only [retrace, retraceItems_eq, calls, hvalue, List.map_cons]
    cases base.value p c with
    | error e => rfl
    | ok v =>
      have hkeys : triedFrom (fun w x => value p c x >>= follow w) v (keys.map (retrace f))
          = (triedFrom (fun w x => value p c x >>= follow w) v keys).map (retrace f) :=
        triedFrom_map (fun _ x _ => by simp only [hvalue]) v
      simp only [following, hkeys, List.map_map]
      rfl
  | map source body =>
    simp only [retrace, calls, hvalue, List.map_cons]
    cases source.value p c with
    | error e => rfl
    | ok v => simp only [following, List.map_map, Function.comp_def]
  | recorded r d x => cases hn

/-- A tree with some of its recorded nodes has the visits to these. -/
theorem visits_restrict {p : Policy} (hp : p.Quiet) (c : Fields) (n : Node) :
    visits p c (n.restrict keep) = (visits p c n).filter fun v => keep v.recorder v.definition := by
  have haccepts (r : Recorder) : p.Accepts r.sink := fun e => Policy.take_of_quiet hp r.sink e
  induction c, n using call_induction (p := p) with
  | h c n ih =>
    cases hn : visit? p (c, n) with
    | none =>
      have hnode : visit? p (c, n.restrict keep) = none := by
        cases n with
        | recorded r d x => cases hn
        | _ => rfl
      rw [visits_of_calls hn, visits_of_calls hnode, List.filter_flatMap, restrict,
        calls_retrace (value_restrict hp) c hn, List.flatMap_map]
      exact List.flatMap_congr ih
    | some v =>
      cases n with
      | recorded r d x =>
        have hx : visits p c (x.restrict keep)
            = (visits p c x).filter fun v => keep v.recorder v.definition := by
          apply ih (c, x)
          rw [calls, haccepts r]
          exact List.mem_cons_self
        have hrecorded : (Node.recorded r d x).restrict keep
            = if keep r d then .recorded r d (x.restrict keep) else x.restrict keep := rfl
        rw [visits_recorded (haccepts r), hrecorded]
        by_cases hr : keep r d
        · rw [if_pos hr, visits_recorded (haccepts r), List.filter_cons_of_pos (by simpa using hr), hx,
            value_restrict hp]
        · rw [if_neg hr, List.filter_cons_of_neg (by simpa using hr), hx]
      | _ => cases hn

theorem visits_unary (p : Policy) (c : Fields) (name : String) (g : Value → Except Fault Value)
    (x : Node) : visits p c (.unary name g x) = visits p c x := by
  rw [visits_of_calls rfl, calls, List.flatMap_singleton]

theorem visits_path (p : Policy) (c : Fields) (names : List String) (resolver : Resolver) :
    visits p c (.path names resolver) = [] := by
  rw [visits_of_calls rfl, calls, List.flatMap_nil]

end Node

namespace Compile

/-! ## Growing lists of debug operations -/

/-- The recorders of debug operations are numbered in order. -/
def Numbered (first : Nat) (met : List DebugOperation) : Prop :=
  ∀ i o, met[i]? = some o → o.recorder.id = first + i

/-- A debug operation is told by its recorder. -/
theorem Numbered.unique {first : Nat} {met : List DebugOperation} (h : Numbered first met)
    {o o' : DebugOperation} (ho : o ∈ met) (ho' : o' ∈ met) (heq : o.recorder = o'.recorder) : o = o' := by
  obtain ⟨i, hi⟩ := List.getElem?_of_mem ho
  obtain ⟨j, hj⟩ := List.getElem?_of_mem ho'
  have hid := h i o hi
  have hid' := h j o' hj
  rw [heq, hid'] at hid
  obtain rfl : i = j := by omega
  exact Option.some.inj (hi.symm.trans hj)

theorem Numbered.append_one {first : Nat} {met : List DebugOperation} (h : Numbered first met)
    {o : DebugOperation} (ho : o.recorder.id = first + met.length) : Numbered first (met ++ [o]) := by
  intro i o' hi
  rw [List.getElem?_append] at hi
  split at hi
  · exact h i o' hi
  · rw [List.getElem?_singleton] at hi
    split at hi
    · obtain rfl := Option.some.inj hi
      have hlength : i = met.length := by omega
      rw [hlength, ho]
    · cases hi

/-- A computation that adds debug operations to those met before. -/
def Grows {α : Type} (first : Nat) (y : Watch α) : Prop :=
  ∀ met, met <+: after y met ∧ (Numbered first met → Numbered first (after y met))

namespace Grows

variable {α β : Type} {first : Nat}

theorem pure (a : α) : Grows first (Pure.pure a : Watch α) := fun _ => ⟨List.prefix_rfl, id⟩

theorem throw (e : Fault) : Grows first (throw e : Watch α) := fun _ => ⟨List.prefix_rfl, id⟩

theorem lift (r : Except Fault α) : Grows first (liftExcept r : Watch α) := by
  intro met
  rw [after_liftExcept]
  exact ⟨List.prefix_rfl, id⟩

theorem bind {y : Watch α} {g : α → Watch β} (hy : Grows first y) (hg : ∀ a, Grows first (g a)) :
    Grows first (y >>= g) := by
  intro met
  obtain ⟨hgrown, hnumbered⟩ := hy met
  rw [after_bind]
  cases outcome y met with
  | error e => exact ⟨hgrown, hnumbered⟩
  | ok a =>
    obtain ⟨hgrown', hnumbered'⟩ := hg a (after y met)
    exact ⟨hgrown.trans hgrown', fun h => hnumbered' (hnumbered h)⟩

theorem mapM {g : α → Watch β} (hg : ∀ a, Grows first (g a)) (xs : List α) :
    Grows first (xs.mapM g) := by
  induction xs with
  | nil => exact pure []
  | cons x xs ih =>
    rw [List.mapM_cons]
    exact (hg x).bind fun b => ih.bind fun bs => pure (b :: bs)

end Grows

theorem watchers_of_ne_debug {f : Factory} (hf : ∀ sink, f ≠ .debug sink) (setup : Setup) (first : Nat)
    (around : List Recorder) (operand : Value) :
    watchers setup first around operand f = pure around := by
  cases f with
  | debug sink => exact absurd rfl (hf sink)
  | _ => rfl

theorem watchers_grows (setup : Setup) (first : Nat) (around : List Recorder) (operand : Value)
    (f : Factory) : Grows first (watchers setup first around operand f) := by
  cases f with
  | debug sink => exact fun met => ⟨List.prefix_append _ _, fun h => h.append_one rfl⟩
  | _ => exact Grows.pure around

theorem watch_grows (setup : Setup) (first : Nat) (around : List Recorder) (d : Value) :
    Grows first (watch setup first around d) := by
  induction hd : d.size using Nat.strongRecOn generalizing d around with
  | _ size ih =>
    rw [watch]
    refine (Grows.lift _).bind fun selection => ?_
    obtain ⟨name, operand⟩ := selection
    simp only
    cases setup.registry.factory? name with
    | none => exact Grows.throw _
    | some f =>
      refine (watchers_grows setup first around operand f).bind fun rs => ?_
      refine (Grows.lift _).bind fun b => ?_
      refine (Grows.mapM (fun c => ?_) _).bind fun ns => Grows.pure _
      refine Grows.bind ?_ fun n => Grows.pure _
      split
      · exact ih c.size (by omega) rs c rfl
      · exact Grows.throw _

/-! ## Compilation follows -/

/-- A compilation ends like another one that keeps a list of the debug
operations, provided that these come first in a given list. -/
def Follows {α β : Type} (first : Nat) (operations : List DebugOperation) (V : α → β → Prop)
    (x : Build α) (y : Watch β) : Prop :=
  ∀ draft met, draft.recorders = first + met.length → after y met <+: operations →
    Related Eq V (outcome x draft) (outcome y met)
      ∧ (after x draft).recorders = first + (after y met).length

namespace Follows

variable {α β γ δ : Type} {first : Nat} {operations : List DebugOperation} {V : α → β → Prop}
  {W : γ → δ → Prop}

theorem pure {a : α} {b : β} (h : V a b) :
    Follows first operations V (Pure.pure a : Build α) (Pure.pure b : Watch β) :=
  fun _ _ hcount _ => ⟨h, hcount⟩

theorem throw (e : Fault) :
    Follows first operations V (throw e : Build α) (throw e : Watch β) :=
  fun _ _ hcount _ => ⟨rfl, hcount⟩

theorem bind {x : Build α} {y : Watch β} {f : α → Build γ} {g : β → Watch δ}
    (hx : Follows first operations V x y) (hg : ∀ b, Grows first (g b))
    (hf : ∀ a b, V a b → Follows first operations W (f a) (g b)) :
    Follows first operations W (x >>= f) (y >>= g) := by
  intro draft met hcount hfinal
  rw [after_bind] at hfinal ⊢
  rw [after_bind, outcome_bind, outcome_bind]
  have hmiddle : after y met <+: operations := by
    cases hy : outcome y met with
    | error e =>
      rw [hy] at hfinal
      exact hfinal
    | ok b =>
      rw [hy] at hfinal
      exact (hg b (after y met)).1.trans hfinal
  obtain ⟨hends, hcount'⟩ := hx draft met hcount hmiddle
  cases hxd : outcome x draft <;> cases hym : outcome y met <;> rw [hxd, hym] at hends
  · exact ⟨hends, hcount'⟩
  · exact hends.elim
  · exact hends.elim
  · rw [hym] at hfinal
    exact hf _ _ hends _ _ hcount' hfinal

/-- A step of the first one that hands out no recorder. -/
theorem skip {u : Build Unit} {f : Unit → Build γ} {y : Watch δ}
    (hu : ∀ draft, outcome u draft = .ok () ∧ (after u draft).recorders = draft.recorders)
    (hf : Follows first operations W (f ()) y) : Follows first operations W (u >>= f) y := by
  intro draft met hcount hfinal
  obtain ⟨hok, hsame⟩ := hu draft
  rw [outcome_bind, after_bind, hok]
  exact hf _ met (hsame.trans hcount) hfinal

theorem mapM {f : α → Build γ} {g : α → Watch δ} {xs : List α}
    (h : ∀ x ∈ xs, Follows first operations W (f x) (g x)) (hg : ∀ x, Grows first (g x)) :
    Follows first operations (List.Forall₂ W) (xs.mapM f) (xs.mapM g) := by
  induction xs with
  | nil => exact Follows.pure .nil
  | cons x xs ih =>
    rw [List.mapM_cons, List.mapM_cons]
    refine (h x List.mem_cons_self).bind
      (fun b => (Grows.mapM hg xs).bind fun bs => Grows.pure (b :: bs)) fun a b hab => ?_
    refine (ih fun x' hx' => h x' (List.mem_cons_of_mem _ hx')).bind (fun bs => Grows.pure (b :: bs))
      fun as bs hs => ?_
    exact Follows.pure (.cons hab hs)

end Follows

/-- The recorders around a definition, in the mode in which it is compiled:
the outermost one is followed everywhere, the others not to smaller definitions. -/
def Fits (operations : List DebugOperation) (size : Nat) : Mode → List Recorder → Prop
  | .plain, around => around = []
  | .recorded r, around => ∃ inner, around = inner ++ [r] ∧ (∀ c, Noted operations r c)
    ∧ ∀ r' ∈ inner, ∀ c : Value, c.size < size → ¬ Noted operations r' c
  | .replaced, _ => False

section Compilation

variable {setup : Setup} {first size : Nat} {operations : List DebugOperation} {mode : Mode}
  {around : List Recorder} {compile : Mode → Value → Build Node} {tree : List Recorder → Value → Watch Node}

theorem Fits.mono {size' : Nat} (h : Fits operations size mode around) (hle : size' ≤ size) :
    Fits operations size' mode around := by
  cases mode with
  | recorded r =>
    obtain ⟨inner, haround, houter, hinner⟩ := h
    exact ⟨inner, haround, houter, fun r' hr' c hc => hinner r' hr' c (Nat.lt_of_lt_of_le hc hle)⟩
  | _ => exact h

/-- Of the recorders around a definition the outermost one notes what is
beneath it. -/
theorem restrict_outermost {inner : List Recorder} {r : Recorder} {c : Value} {w : Node}
    (houter : Noted operations r c) (hinner : ∀ r' ∈ inner, ¬ Noted operations r' c) :
    (w.recordedBy (inner ++ [r]) c).restrict (Noted operations)
      = .recorded r c (w.restrict (Noted operations)) := by
  have hnone : inner.filter (fun r' => Noted operations r' c) = [] := by
    rw [List.filter_eq_nil_iff]
    intro r' hr'
    simpa using hinner r' hr'
  rw [Node.restrict_recordedBy, List.filter_append, hnone, List.filter_singleton]
  simp [houter, Node.recordedBy]

/-- A definition beneath another one, given how it is compiled itself. -/
theorem beneath_follows (hfits : Fits operations size mode around) {c : Value}
    (h : Follows first operations (fun n w => c.size < size ∧ n = w.restrict (Noted operations))
      (compile mode c) (tree around c)) :
    Follows first operations (fun n w => n = w.restrict (Noted operations)) (beneath compile mode c)
      (do return (← tree around c).recordedBy around c) := by
  cases mode with
  | plain =>
    obtain rfl : around = [] := hfits
    have hbind : Follows first operations (fun n w => n = w.restrict (Noted operations))
        (compile .plain c >>= Pure.pure) (do return (← tree [] c).recordedBy [] c) :=
      h.bind (fun w => Grows.pure _) fun n w hnw => Follows.pure hnw.2
    rwa [bind_pure] at hbind
  | recorded r =>
    obtain ⟨inner, rfl, houter, hinner⟩ := hfits
    refine h.bind (fun w => Grows.pure _) fun n w hnw => Follows.pure ?_
    obtain ⟨hsize, rfl⟩ := hnw
    exact (restrict_outermost (houter c) fun r' hr' => hinner r' hr' c hsize).symm
  | replaced => exact hfits.elim

theorem ofBlueprint_follows (hfits : Fits operations size mode around)
    (h : ∀ c, Follows first operations (fun n w => c.size < size ∧ n = w.restrict (Noted operations))
      (compile mode c) (tree around c)) (hgrows : ∀ c, Grows first (tree around c))
    {own : List Source} {b : Blueprint} (hb : b.Regular own) :
    Follows first operations (fun n w => n = w.restrict (Noted operations))
      (ofBlueprint compile mode b)
      (do return b.assemble (← b.parts.mapM fun c => do return (← tree around c).recordedBy around c)) := by
  refine Follows.skip (fun draft => ⟨outcome_notes b.lookups draft, after_notes b.lookups draft⟩) ?_
  refine (Follows.mapM (fun c _ => beneath_follows hfits (h c))
    fun c => (hgrows c).bind fun w => Grows.pure _).bind (fun ws => Grows.pure _)
    fun ns ws hns => Follows.pure ?_
  obtain rfl : ns = ws.map (Node.restrict (Noted operations)) := by
    rw [← List.forall₂_eq_eq_eq, List.forall₂_map_right_iff]
    exact hns
  exact (hb.retrace _ ws).symm

/-- A debug operation and its recorder. -/
theorem newRecorder_follows (sink : Option Sink) (operand : Value) :
    Follows first operations
      (fun r rs => rs = r :: around ∧ ⟨r, operand, !around.isEmpty⟩ ∈ operations)
      (Build.newRecorder (sink.getD setup.sink)) (watchers setup first around operand (.debug sink)) := by
  intro draft met hcount hfinal
  let o : DebugOperation := ⟨⟨first + met.length, sink.getD setup.sink⟩, operand, !around.isEmpty⟩
  have hmember : o ∈ operations := hfinal.subset (List.mem_append_right met (List.mem_singleton.mpr rfl))
  have hlength : draft.recorders + 1 = first + (met ++ [o]).length := by
    rw [List.length_append, List.length_singleton]
    omega
  refine ⟨⟨?_, ?_⟩, hlength⟩
  · rw [hcount]
  · rw [hcount]
    exact hmember

theorem ofDebug_follows (hnumbered : Numbered first operations) (hfits : Fits operations size mode around)
    (h : ∀ mode rs c, (c.size < size → Fits operations c.size mode rs) →
      Follows first operations (fun n w => c.size < size ∧ n = w.restrict (Noted operations))
        (compile mode c) (tree rs c)) (hgrows : ∀ rs c, Grows first (tree rs c))
    (sink : Option Sink) (operand : Value) :
    Follows first operations (fun n w => n = w.restrict (Noted operations))
      (ofDebug compile mode (sink.getD setup.sink) operand)
      (do
        let rs ← watchers setup first around operand (.debug sink)
        return (← tree rs operand).recordedBy rs operand) := by
  refine (newRecorder_follows sink operand).bind
    (fun rs => (hgrows rs operand).bind fun w => Grows.pure _) fun r rs hrs => ?_
  obtain ⟨rfl, hmember⟩ := hrs
  have hnoted (c : Value) : Noted operations r c ↔ (around ≠ [] → c = operand) := by
    constructor
    · intro hc hne
      exact hc _ hmember rfl (by simpa using hne)
    · intro hc o ho hr hnested
      obtain rfl := hnumbered.unique ho hmember hr
      exact hc (by simpa using hnested)
  cases mode with
  | plain =>
    obtain rfl : around = [] := hfits
    -- Nothing is around this operation, so it is not nested and notes everything.
    have hinside (size : Nat) : Fits operations size (.recorded r) [r] :=
      ⟨[], rfl, fun c => (hnoted c).mpr fun hne => absurd rfl hne, by simp⟩
    exact beneath_follows (hinside size) (h (.recorded r) [r] operand fun _ => hinside operand.size)
  | recorded outermost =>
    obtain ⟨inner, rfl, houter, hinner⟩ := hfits
    -- What lies beneath the operand is smaller, so that a nested operation, which
    -- notes the operand alone, notes nothing there.
    have hinside (hsize : operand.size < size) :
        Fits operations operand.size (.recorded outermost) (r :: (inner ++ [outermost])) := by
      refine ⟨r :: inner, rfl, houter, fun r' hr' c hc hkept => ?_⟩
      rcases List.mem_cons.mp hr' with rfl | hr'
      · obtain rfl := (hnoted c).mp hkept (by simp)
        omega
      · exact hinner r' hr' c (by omega) hkept
    simp only [beneath, bind_assoc, pure_bind]
    refine (h (.recorded outermost) _ operand hinside).bind (fun w => Grows.pure _)
      fun n w hnw => Follows.pure ?_
    obtain ⟨hsize, rfl⟩ := hnw
    have houtermost := restrict_outermost (w := w) (houter operand)
      fun r' hr' => hinner r' hr' operand hsize
    have hself : Noted operations r operand := (hnoted operand).mpr fun _ => rfl
    have hcons : (w.recordedBy (r :: (inner ++ [outermost])) operand).restrict (Noted operations)
        = .recorded r operand ((w.recordedBy (inner ++ [outermost]) operand).restrict (Noted operations)) :=
      if_pos hself
    rw [hcons, houtermost]
  | replaced => exact hfits.elim

theorem ofFactory_follows (hnumbered : Numbered first operations) (hfits : Fits operations size mode around)
    (h : ∀ mode rs c, (c.size < size → Fits operations c.size mode rs) →
      Follows first operations (fun n w => c.size < size ∧ n = w.restrict (Noted operations))
        (compile mode c) (tree rs c)) (hgrows : ∀ rs c, Grows first (tree rs c))
    {allowed : Source → Prop} {f : Factory} (hf : f.Regular allowed) (operand : Value) :
    Follows first operations (fun n w => n = w.restrict (Noted operations))
      (ofFactory compile setup mode operand f)
      (do
        let rs ← watchers setup first around operand f
        let b ← liftExcept (f.blueprint setup operand)
        return b.assemble (← b.parts.mapM fun c => do return (← tree rs c).recordedBy rs c)) := by
  rcases ofFactory_cases f with ⟨sink, rfl⟩ | ⟨hne, hplan⟩
  · simp only [ofFactory, Factory.blueprint, liftExcept_ok, pure_bind, Blueprint.bare, List.mapM_cons,
      List.mapM_nil, bind_assoc, List.headD_cons]
    exact ofDebug_follows hnumbered hfits h hgrows sink operand
  · rw [hplan, watchers_of_ne_debug hne, pure_bind]
    cases hb : f.blueprint setup operand with
    | error e => exact Follows.throw e
    | ok b =>
      obtain ⟨own, -, hregular⟩ := hf.blueprint hb
      exact ofBlueprint_follows hfits (fun c => h mode around c fun hsize => hfits.mono (by omega))
        (hgrows around) hregular

/-- A definition is compiled to the tree in which each debug operation records
everything, less what it does not note. -/
theorem compile_follows {allowed : Source → Prop} (hreg : setup.registry.All (Factory.Regular allowed))
    (hnumbered : Numbered first operations) {d : Value} (hfits : Fits operations d.size mode around) :
    Follows first operations (fun n w => n = w.restrict (Noted operations))
      (Compile.compile setup mode d) (watch setup first around d) := by
  induction hd : d.size using Nat.strongRecOn generalizing d mode around with
  | _ size ih =>
    rw [Compile.compile, watch]
    cases select setup.marker d with
    | error e => exact Follows.throw e
    | ok selection =>
      obtain ⟨name, operand⟩ := selection
      simp only [liftExcept_ok, pure_bind]
      cases hf : setup.registry.factory? name with
      | none => exact Follows.throw _
      | some f =>
        refine Follows.skip (fun draft => ⟨rfl, rfl⟩) ?_
        refine ofFactory_follows hnumbered hfits (fun mode rs c hc => ?_) (fun rs c => ?_)
          (Registry.factory?_of_all hreg hf) operand
        · split
          · rename_i hsize
            intro draft met hcount hfinal
            obtain ⟨hends, hsame⟩ := ih c.size (by omega) (hc hsize) rfl draft met hcount hfinal
            exact ⟨hends.imp fun n w _ _ hnw => ⟨hsize, hnw⟩, hsame⟩
          · exact Follows.throw _
        · split
          · exact watch_grows setup first rs c
          · exact Grows.throw _

end Compilation

theorem watch_debugged {setup : Setup} {sink : Option Sink}
    (hdebug : setup.registry.factory? (.text "debug") = some (.debug sink)) (first : Nat)
    (around : List Recorder) (d : Value) :
    watch setup first around (debugged d) = (do
      let rs ← watchers setup first around d (.debug sink)
      return (← watch setup first rs d).recordedBy rs d) := by
  have hsize : d.size < (Value.object [(.text "debug", d)]).size := by
    simp [Value.size, Value.sizeFields]
  rw [debugged, watch]
  simp only [select, liftExcept_ok, pure_bind, hdebug, Factory.blueprint, Blueprint.bare,
    List.mapM_cons, List.mapM_nil, bind_assoc]
  simp [hsize]

end Compile

/-! ## Logics -/

namespace Logic

variable {around : Surroundings} {ops : List (String × Entry)} {base d : Value} {registry : Registry}
  {settings : LogicSettings} {draft : Draft} {l : Logic}

/-- The tree of a logic is the one in which each debug operation records
everything, less what nested ones do not note. -/
theorem build_watched {allowed : Source → Prop} (hbring : ∀ e ∈ ops, e.2.Brings (Factory.Regular allowed))
    (hops : Registry.standard.merged ops = .ok registry) (hset : around.settings = .ok settings)
    (h : outcome (build around ops base d) draft = .ok l) :
    ∃ w, outcome (Compile.watch (setup around registry settings) draft.recorders [] d) [] = .ok w
      ∧ l.root = w.restrict
          (Noted (after (Compile.watch (setup around registry settings) draft.recorders [] d) [])) := by
  obtain ⟨fields, _, _, hbase, -, -⟩ := build_ok h
  have hreg : registry.All (Factory.Regular allowed) :=
    Registry.merged_all hops (Registry.standard_all allowed) hbring
  have hcompiled := (build_parts hbase hops hset h).2.2
  have hnumbered := (Compile.watch_grows (setup around registry settings) draft.recorders [] d []).2
    (fun i o hi => nomatch hi)
  have hfits : Compile.Fits (after (Compile.watch (setup around registry settings) draft.recorders [] d) [])
      d.size .plain [] := rfl
  have hends := (Compile.compile_follows hreg hnumbered hfits (after Build.consult draft) [] rfl
    List.prefix_rfl).1
  rw [hcompiled] at hends
  cases hw : outcome (Compile.watch (setup around registry settings) draft.recorders [] d) [] with
  | error e =>
    rw [hw] at hends
    exact hends.elim
  | ok w =>
    rw [hw] at hends
    exact ⟨w, rfl, hends⟩

/-- A debug operation that does not stand beneath another one records every
evaluation of every definition beneath it, each with a recorder of its own.
One that does records the evaluations of its operand and nothing further
below. -/
theorem nested_debug_operations_record_their_operand_alone
    (hbring : ∀ e ∈ ops, e.2.Brings (Factory.Regular (· ≠ Source.count)))
    (hops : Registry.standard.merged ops = .ok registry) (hset : around.settings = .ok settings)
    (h : outcome (build around ops base d) draft = .ok l) {j : Journal} (hquiet : j.policy.Quiet) :
    ∃ w operations,
      (Compile.watch (setup around registry settings) draft.recorders [] d).run.run []
          = (.ok w, operations)
      ∧ Compile.Numbered draft.recorders operations
      ∧ l.root = w.restrict (Noted operations)
      ∧ ∀ context c, l.contextIn? context = some c → ∃ es records,
          (after (l.eval context) j).events = es.reverse ++ j.events
          ∧ l.root.Recorded j.policy c es records
          ∧ ∀ o ∈ operations, (records.map Prod.fst).filter (fun v => v.recorder = o.recorder)
              = (w.visits j.policy c).filter fun v => v.recorder = o.recorder
                  ∧ (o.nested = true → v.definition = o.operand) := by
  obtain ⟨w, hw, hroot⟩ := build_watched hbring hops hset h
  have hnumbered := (Compile.watch_grows (setup around registry settings) draft.recorders [] d []).2
    (fun i o hi => nomatch hi)
  refine ⟨w, _, Prod.ext hw rfl, hnumbered, hroot, fun context c hc => ?_⟩
  have hrecordable : l.root.Recordable j.policy := by
    refine ⟨fun hcount => ?_, fun r _ e => Policy.take_of_quiet hquiet r.sink e⟩
    have hreads : l.lookups = l.root.paths ∧ ∀ s ∈ l.root.sources, s ≠ Source.count :=
      build_reads hbring hset (by simp) h
    exact hreads.2 _ hcount rfl
  have hrecorded := eval_recorded hrecordable context (j := j) rfl
  rw [hc] at hrecorded
  obtain ⟨-, es, records, hes, hrecords⟩ := hrecorded
  refine ⟨es, records, hes, hrecords, fun o ho => ?_⟩
  rw [hrecords.visits, hroot, Node.visits_restrict hquiet, List.filter_filter]
  apply List.filter_congr
  intro v _
  rw [← Bool.decide_and, decide_eq_decide]
  constructor
  · rintro ⟨hr, hnoted⟩
    exact ⟨hr, hnoted o ho hr.symm⟩
  · rintro ⟨hr, hoperand⟩
    refine ⟨hr, fun o' ho' hr' hnested => ?_⟩
    obtain rfl := hnumbered.unique ho ho' (hr.symm.trans hr'.symm)
    exact hoperand hnested

/-! ### A negation in two debug operations -/

def negatedFlag : Value := .object [(.text "not", .text "$flag")]

def flagged : Fields := [(.text "flag", .bool true)]

def flagReading : Node := .path (Text.dotted "flag") (.inherited Settings.defaultParentKey)

theorem build_debugged_twice :
    outcome (build ordinary [] .null (debugged (debugged negatedFlag))) ⟨0, [], false⟩
      = .ok ⟨debugged (debugged negatedFlag), [], [Text.dotted "flag"],
          .recorded ⟨0, .log⟩ (debugged negatedFlag) (.recorded ⟨1, .log⟩ negatedFlag
            (.recorded ⟨0, .log⟩ negatedFlag (.unary "not" Function.not
              (.recorded ⟨0, .log⟩ (.text "$flag") flagReading))))⟩ := by
  have hnot : Registry.standard.factory? (.text "not") = some (.unary "not" Function.not) := rfl
  have hbase : Entries.ofValue .null = .ok [] := rfl
  have hoperand (mode : Compile.Mode) :=
    compile_reading (s := "$flag") "flag" rfl Settings.defaultMarker Settings.defaultParentKey .log mode
  have hnegation (r : Recorder) : Compile.compile ⟨Registry.standard, Settings.defaultMarker,
        .ok Settings.defaultParentKey, .log⟩ (.recorded r) negatedFlag = (do
      Build.note (.compiling "not" (.text "$flag"))
      Build.note (.compiling Operation.pathName (.text "flag"))
      Build.note (.lookup (Text.dotted "flag"))
      return .unary "not" Function.not (.recorded r (.text "$flag") flagReading)) := by
    rw [Compile.compile]
    simp [negatedFlag, flagReading, Compile.select, hnot, Factory.unary, Compile.ofFactory,
      Blueprint.unary, Compile.ofBlueprint, Compile.beneath, hoperand, Value.size, Value.sizeFields,
      Key.plain]
  have hdebugged (mode : Compile.Mode) (d : Value) : Compile.compile ⟨Registry.standard,
      Settings.defaultMarker, .ok Settings.defaultParentKey, .log⟩ mode (debugged d) = _ :=
    Compile.compile_debugged rfl mode d
  rw [build_eq hbase rfl rfl]
  simp only [setup, ordinary, hdebugged, Compile.ofDebug, Compile.beneath, hnegation]
  rfl

/-- The negation as both debug operations would record it in full. -/
def fullyRecorded : Node :=
  .recorded ⟨0, .log⟩ (debugged negatedFlag) (.recorded ⟨1, .log⟩ negatedFlag
    (.recorded ⟨0, .log⟩ negatedFlag (.unary "not" Function.not (.recorded ⟨1, .log⟩ (.text "$flag")
      (.recorded ⟨0, .log⟩ (.text "$flag") flagReading)))))

theorem watch_debugged_twice :
    (Compile.watch
        (setup ordinary Registry.standard ⟨false, Settings.defaultParentKey, Settings.defaultMarker⟩) 0 []
        (debugged (debugged negatedFlag))).run.run []
      = (.ok fullyRecorded,
          [⟨⟨0, .log⟩, debugged negatedFlag, false⟩, ⟨⟨1, .log⟩, negatedFlag, true⟩]) := by
  have hnot : Registry.standard.factory? (.text "not") = some (.unary "not" Function.not) := rfl
  have hpath : Registry.standard.factory? (.text Operation.pathName) = some .configuredPath := rfl
  have hselect : Compile.select Settings.defaultMarker (.text "$flag")
      = .ok (.text Operation.pathName, .text "flag") := rfl
  have hflag (around : List Recorder) : Compile.watch ⟨Registry.standard, Settings.defaultMarker,
      .ok Settings.defaultParentKey, .log⟩ 0 around (.text "$flag") = pure flagReading := by
    rw [Compile.watch]
    simp [hselect, hpath, Compile.watchers, Factory.blueprint, Blueprint.path]
    rfl
  have hnegation (around : List Recorder) : Compile.watch ⟨Registry.standard, Settings.defaultMarker,
      .ok Settings.defaultParentKey, .log⟩ 0 around negatedFlag
      = pure (.unary "not" Function.not (flagReading.recordedBy around (.text "$flag"))) := by
    rw [Compile.watch]
    simp [negatedFlag, Compile.select, hnot, Factory.unary, Compile.watchers, Factory.blueprint,
      Blueprint.unary, hflag, Value.size, Value.sizeFields]
  have hdebugged (around : List Recorder) (d : Value) : Compile.watch ⟨Registry.standard,
      Settings.defaultMarker, .ok Settings.defaultParentKey, .log⟩ 0 around (debugged d) = _ :=
    Compile.watch_debugged rfl 0 around d
  simp only [setup, ordinary, hdebugged, hnegation]
  rfl

theorem visits_fullyRecorded {p : Policy} (hp : p.Quiet) :
    fullyRecorded.visits p flagged
      = [⟨⟨0, .log⟩, debugged negatedFlag, flagged, .ok (.bool false)⟩,
        ⟨⟨1, .log⟩, negatedFlag, flagged, .ok (.bool false)⟩,
        ⟨⟨0, .log⟩, negatedFlag, flagged, .ok (.bool false)⟩,
        ⟨⟨1, .log⟩, .text "$flag", flagged, .ok (.bool true)⟩,
        ⟨⟨0, .log⟩, .text "$flag", flagged, .ok (.bool true)⟩] := by
  have haccepts (r : Recorder) : p.Accepts r.sink := fun e => Policy.take_of_quiet hp r.sink e
  have hquiet : p = ⟨none, false, false⟩ := hp.unique ⟨rfl, rfl, rfl⟩
  simp only [fullyRecorded, Node.visits_recorded (haccepts _), Node.visits_unary, flagReading,
    Node.visits_path]
  rw [hquiet]
  rfl

/-- The inner one of two debug operations records the negation in it. -/
theorem inner_debug_operation_records_a_negation :
    ∃ l es records,
      outcome (build ordinary [] .null (debugged (debugged negatedFlag))) ⟨0, [], false⟩ = .ok l
      ∧ (after (l.eval (.object flagged))
          ⟨fun _ => 0, [], none, false, false, 0⟩).events = es.reverse
      ∧ l.root.Recorded ⟨none, false, false⟩ flagged es records
      ∧ ((records.map Prod.fst).filter fun v => v.recorder = ⟨1, .log⟩).map Visit.definition
          = [negatedFlag] := by
  have hquiet : (Journal.policy ⟨fun _ => 0, [], none, false, false, 0⟩).Quiet := ⟨rfl, rfl, rfl⟩
  obtain ⟨w, operations, hwatch, -, -, heval⟩ := nested_debug_operations_record_their_operand_alone
    (by simp) rfl rfl build_debugged_twice hquiet
  rw [watch_debugged_twice] at hwatch
  obtain ⟨hw, rfl⟩ := Prod.mk.inj hwatch
  obtain rfl := Except.ok.inj hw
  obtain ⟨es, records, hes, hrecorded, hvisits⟩ := heval (.object flagged) _ rfl
  refine ⟨_, es, records, build_debugged_twice, ?_, hrecorded, ?_⟩
  · rw [hes, List.append_nil]
  · have hcontext : Mapping.overlay [] flagged = flagged := rfl
    rw [hvisits ⟨⟨1, .log⟩, negatedFlag, true⟩ (by simp), hcontext, visits_fullyRecorded hquiet]
    simp [negatedFlag]

/-- It does not record the flag, which is beneath it, too. -/
theorem inner_debug_operation_misses_a_flag :
    ∃ l w operations,
      outcome (build ordinary [] .null (debugged (debugged negatedFlag))) ⟨0, [], false⟩ = .ok l
      ∧ (Compile.watch
          (setup ordinary Registry.standard ⟨false, Settings.defaultParentKey, Settings.defaultMarker⟩) 0
          [] (debugged (debugged negatedFlag))).run.run [] = (.ok w, operations)
      ∧ ((w.visits ⟨none, false, false⟩ flagged).filter
          fun v => v.recorder = ⟨1, .log⟩).map Visit.definition = [negatedFlag, .text "$flag"]
      ∧ ((openings (after (l.eval (.object flagged))
          ⟨fun _ => 0, [], none, false, false, 0⟩).events.reverse).filter
          fun o => o.recorder = ⟨1, .log⟩).map Opening.definition = [negatedFlag] := by
  refine ⟨_, _, _, build_debugged_twice, watch_debugged_twice, ?_, rfl⟩
  rw [visits_fullyRecorded ⟨rfl, rfl, rfl⟩]
  rfl

end Logic
end Restrict
end Rulebook
