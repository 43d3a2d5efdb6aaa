-- What is evaluated when a tree is: each node calls some of those beneath it,
-- in some context, and all calls of calls are made in document order. If an
-- evaluation fails, the nodes that fail are those on the way to its fault.
import Rulebook.Proofs.Valuation

namespace Rulebook

/-! ## Going through a list until something fails -/

section Tried

variable {ε α β γ σ : Type}

def failed : Except ε β → Bool
  | .ok _ => false
  | .error _ => true

/-- What follows a value; after a fault, nothing. -/
def following (r : Except ε β) (rest : β → List α) : List α :=
  match r with
  | .ok b => rest b
  | .error _ => []

theorem mem_of_mem_following {r : Except ε β} {rest : β → List α} {x : α}
    (h : x ∈ following r rest) : ∃ b, r = .ok b ∧ x ∈ rest b := by
  unfold following at h
  split at h
  · exact ⟨_, rfl, h⟩
  · cases h

theorem flatMap_following {δ : Type} (r : Except ε β) (rest : β → List α) (f : α → List δ) :
    (following r rest).flatMap f = following r fun b => (rest b).flatMap f := by cases r <;> rfl

/-- The items that a state is taken through: all up to the first one that
fails, with that one. -/
def triedFrom (f : σ → α → Except ε σ) : σ → List α → List α
  | _, [] => []
  | s, x :: xs => x :: following (f s x) fun t => triedFrom f t xs

/-- The items up to the first one that fails, with that one. -/
def tried (f : α → Except ε β) (xs : List α) : List α :=
  triedFrom (fun _ x => (f x).map fun _ => ()) () xs

/-- The items that were gone through come first. -/
theorem triedFrom_initial (f : σ → α → Except ε σ) (s : σ) (xs : List α) : triedFrom f s xs <+: xs := by
  induction xs generalizing s with
  | nil => exact List.prefix_rfl
  | cons x xs ih =>
    rw [triedFrom, List.prefix_cons_inj]
    cases f s x with
    | ok t => exact ih t
    | error e => exact List.nil_prefix

section Steps

variable {f : α → Except ε β} {x : α}

theorem tried_ok {y : β} (h : f x = .ok y) (xs : List α) : tried f (x :: xs) = x :: tried f xs := by
  simp only [tried, triedFrom, h, Except.map, following]

theorem tried_error {e : ε} (h : f x = .error e) (xs : List α) : tried f (x :: xs) = [x] := by
  simp only [tried, triedFrom, h, Except.map, following]

/-- Where nothing fails, all items are gone through. -/
theorem tried_eq_self {xs : List α} {ys : List β} (h : xs.mapM f = .ok ys) : tried f xs = xs := by
  have hall := mapM_ok h
  clear h
  induction hall with
  | nil => rfl
  | cons hx _ ih => rw [tried_ok hx, ih]

end Steps

/-- How going through some items with a value each ends: none of them fails, or
the last one does, and so does the whole. -/
inductive Ends (v : α → Except ε γ) (r : Except ε β) : List α → Prop
  | through {xs : List α} (h : ∀ x ∈ xs, ∃ w, v x = .ok w) : Ends v r xs
  | stopped {before : List α} {x : α} {e : ε} (h : ∀ y ∈ before, ∃ w, v y = .ok w)
      (hx : v x = .error e) (hr : r = .error e) : Ends v r (before ++ [x])

namespace Ends

variable {v : α → Except ε γ} {r : Except ε β} {xs : List α}

theorem nil : Ends v r [] := .through (by simp)

theorem cons {x : α} {w : γ} (hx : v x = .ok w) (h : Ends v r xs) : Ends v r (x :: xs) := by
  cases h with
  | through h =>
    refine .through fun y hy => ?_
    rcases List.mem_cons.mp hy with rfl | hy
    · exact ⟨w, hx⟩
    · exact h y hy
  | @stopped before z e h hz hr =>
    have hstopped : Ends v r ((x :: before) ++ [z]) := by
      refine .stopped (fun y hy => ?_) hz hr
      rcases List.mem_cons.mp hy with rfl | hy
      · exact ⟨w, hx⟩
      · exact h y hy
    exact hstopped

theorem single {x : α} (h : ∀ e, v x = .error e → r = .error e) : Ends v r [x] := by
  cases hx : v x with
  | ok w => exact .through (by simpa using ⟨w, hx⟩)
  | error e =>
    have hstopped : Ends v r ([] ++ [x]) := .stopped (by simp) hx (h e hx)
    exact hstopped

/-- A fault stays a fault. -/
theorem imp {δ : Type} {r' : Except ε δ} (h : Ends v r xs)
    (hr : ∀ e, r = .error e → r' = .error e) : Ends v r' xs := by
  cases h with
  | through h => exact .through h
  | stopped h hx hre => exact .stopped h hx (hr _ hre)

theorem bind (h : Ends v r xs) {δ : Type} (g : β → Except ε δ) : Ends v (r >>= g) xs :=
  h.imp fun e he => by rw [he]; rfl

/-- One item, and others that depend on its value. -/
theorem first {x : α} {g : γ → Except ε β} {rest : γ → List α}
    (h : ∀ w, v x = .ok w → Ends v (g w) (rest w)) :
    Ends v (v x >>= g) (x :: following (v x) rest) := by
  cases hx : v x with
  | error e =>
    refine .single fun e' he' => ?_
    rw [hx] at he'
    obtain rfl := Except.error.inj he'
    rfl
  | ok w => exact .cons hx (h w hx)

theorem map {δ : Type} {g : δ → α} {ys : List δ} (h : Ends (fun y => v (g y)) r ys) :
    Ends v r (ys.map g) := by
  cases h with
  | through h =>
    refine .through fun x hx => ?_
    obtain ⟨y, hy, rfl⟩ := List.mem_map.mp hx
    exact h y hy
  | @stopped before y e h hy hr =>
    rw [List.map_append, List.map_singleton]
    refine .stopped (fun x hx => ?_) hy hr
    obtain ⟨z, hz, rfl⟩ := List.mem_map.mp hx
    exact h z hz

/-- Going through items and using the value of each. -/
theorem mapM {f : α → Except ε β} {v : α → Except ε γ} {g : γ → Except ε β}
    (hf : ∀ x, f x = v x >>= g) (xs : List α) : Ends v (xs.mapM f) (tried f xs) := by
  induction xs with
  | nil => exact .nil
  | cons x xs ih =>
    rw [List.mapM_cons]
    cases hfx : f x with
    | error e =>
      rw [tried_error hfx]
      refine .single fun e' hx => ?_
      rw [hf, hx] at hfx
      exact congrArg (· >>= _) hfx.symm
    | ok y =>
      rw [tried_ok hfx]
      cases hx : v x with
      | error e => rw [hf, hx] at hfx; cases hfx
      | ok w =>
        refine .cons hx (ih.imp fun e he => ?_)
        rw [ok_bind, he]
        rfl

/-- Taking a state through items by the value of each. -/
theorem foldlM {f : σ → α → Except ε σ} {v : α → Except ε γ} {g : σ → γ → Except ε σ}
    (hf : ∀ s x, f s x = v x >>= g s) (s : σ) (xs : List α) :
    Ends v (xs.foldlM f s) (triedFrom f s xs) := by
  induction xs generalizing s with
  | nil => exact .nil
  | cons x xs ih =>
    rw [List.foldlM_cons, triedFrom]
    cases hfx : f s x with
    | error e =>
      refine .single fun e' hx => ?_
      rw [hf, hx] at hfx
      exact hfx.symm
    | ok t =>
      cases hx : v x with
      | error e => rw [hf, hx] at hfx; cases hfx
      | ok w => exact .cons hx (ih t)

end Ends

end Tried

namespace Node

/-! ## Calls -/

/-- A node that is evaluated in a context. -/
abbrev Call := Fields × Node

/-- How a call ends. -/
def Call.result (p : Policy) (e : Call) : Except Fault Value := e.2.value p e.1

/-- The contexts in which the body of a map sees the entries of a value. -/
def bindings (context : Fields) : Value → List Fields
  | .object fs => fs.map fun e => bind context ("key", e.1.toValue) e.2
  | .list xs => (numbered xs).map fun e => bind context e.1 e.2
  | _ => []

/-- Whether a node reads in a value. -/
def reads : Node → Bool
  | .path .. | .property .. => true
  | _ => false

/-- What a node itself evaluates in a context, in order. -/
def calls (p : Policy) (c : Fields) : Node → List Call
  | .literal _ | .path .. => []
  | .template _ holes => (tried (fun x => x.value p c >>= Template.filling) holes).map (Prod.mk c)
  | .branch x t f => (c, x) :: following (x.value p c) fun v => [(c, if v.truthy then t else f)]
  | .unary _ _ x | .witness _ x | .calculated x => [(c, x)]
  | .binary _ _ xs | .complex _ _ xs | .array xs => (tried (value p c) xs).map (Prod.mk c)
  | .object es => (tried (value p c) (es.map Prod.snd)).map (Prod.mk c)
  | .property base keys => (c, base) :: following (base.value p c) fun v =>
    (triedFrom (fun w x => x.value p c >>= follow w) v keys).map (Prod.mk c)
  | .map source body => (c, source) :: following (source.value p c) fun v =>
    (tried (fun b => body.value p b) (bindings c v)).map fun b => (b, body)
  | .recorded r d x => following (p.take r.sink (.evaluating r 0 d (.object c))) fun _ => [(c, x)]

/-- The nodes right beneath a node. -/
def parts : Node → List Node
  | .literal _ | .path .. => []
  | .template _ xs | .binary _ _ xs | .complex _ _ xs | .array xs => xs
  | .branch x t f => [x, t, f]
  | .unary _ _ x | .witness _ x | .calculated x | .recorded _ _ x => [x]
  | .object es => es.map Prod.snd
  | .property base keys => base :: keys
  | .map source body => [source, body]

theorem parts_smaller {n x : Node} (h : x ∈ parts n) : sizeOf x < sizeOf n := by
  have hmem {xs : List Node} (hx : x ∈ xs) : sizeOf x < sizeOf xs := List.sizeOf_lt_of_mem hx
  cases n with
  | literal v => cases h
  | path names r => cases h
  | template text xs | binary name f xs | complex name f xs | array xs =>
    have hitem : sizeOf x < sizeOf xs := hmem h
    simp only [template.sizeOf_spec, binary.sizeOf_spec, complex.sizeOf_spec, array.sizeOf_spec]
    omega
  | branch x' t f =>
    simp only [parts, List.mem_cons, List.not_mem_nil, or_false] at h
    simp only [branch.sizeOf_spec]
    rcases h with rfl | rfl | rfl <;> omega
  | unary name f y | witness name y | calculated y | recorded r d y =>
    obtain rfl := List.mem_singleton.mp h
    simp only [unary.sizeOf_spec, witness.sizeOf_spec, calculated.sizeOf_spec, recorded.sizeOf_spec]
    omega
  | object es =>
    obtain ⟨e, he, rfl⟩ := List.mem_map.mp h
    have hentry := List.sizeOf_lt_of_mem he
    obtain ⟨k, y⟩ := e
    simp only [Prod.mk.sizeOf_spec] at hentry
    simp only [object.sizeOf_spec]
    omega
  | property base keys =>
    simp only [property.sizeOf_spec]
    rcases List.mem_cons.mp h with rfl | h
    · omega
    · have hkey := hmem h
      omega
  | map source body =>
    simp only [parts, List.mem_cons, List.not_mem_nil, or_false] at h
    simp only [map.sizeOf_spec]
    rcases h with rfl | rfl <;> omega

/-- A node calls nodes right beneath it alone. -/
theorem calls_parts {p : Policy} {c : Fields} {n : Node} {e : Call} (h : e ∈ calls p c n) :
    e.2 ∈ parts n := by
  cases n with
  | literal v => cases h
  | path names r => cases h
  | template text xs | binary name f xs | complex name f xs | array xs | object es =>
    obtain ⟨x, hx, rfl⟩ := List.mem_map.mp h
    exact (triedFrom_initial _ _ _).subset hx
  | branch x t f =>
    rcases List.mem_cons.mp h with rfl | h
    · simp [parts]
    · obtain ⟨v, -, h⟩ := mem_of_mem_following h
      obtain rfl := List.mem_singleton.mp h
      simp only [parts]
      split <;> simp
  | unary name f x | witness name x | calculated x =>
    obtain rfl := List.mem_singleton.mp h
    simp [parts]
  | property base keys =>
    rcases List.mem_cons.mp h with rfl | h
    · simp [parts]
    · obtain ⟨v, -, h⟩ := mem_of_mem_following h
      obtain ⟨x, hx, rfl⟩ := List.mem_map.mp h
      exact List.mem_cons_of_mem _ ((triedFrom_initial _ _ _).subset hx)
  | map source body =>
    rcases List.mem_cons.mp h with rfl | h
    · simp [parts]
    · obtain ⟨v, -, h⟩ := mem_of_mem_following h
      obtain ⟨b, -, rfl⟩ := List.mem_map.mp h
      simp [parts]
  | recorded r d x =>
    obtain ⟨u, -, h⟩ := mem_of_mem_following h
    obtain rfl := List.mem_singleton.mp h
    simp [parts]

theorem calls_smaller {p : Policy} {c : Fields} {n : Node} {e : Call} (h : e ∈ calls p c n) :
    sizeOf e.2 < sizeOf n := parts_smaller (calls_parts h)

/-- Nothing but a map calls nodes in other contexts than its own. -/
theorem calls_context {p : Policy} {c : Fields} {n : Node} (hn : n.kind ≠ .map) {e : Call}
    (h : e ∈ calls p c n) : e.1 = c := by
  cases n with
  | literal v | path names r => cases h
  | template text xs | binary name f xs | complex name f xs | array xs | object es =>
    obtain ⟨x, -, rfl⟩ := List.mem_map.mp h
    rfl
  | branch x t f =>
    rcases List.mem_cons.mp h with rfl | h
    · rfl
    · obtain ⟨v, -, h⟩ := mem_of_mem_following h
      obtain rfl := List.mem_singleton.mp h
      rfl
  | unary name f x | witness name x | calculated x =>
    obtain rfl := List.mem_singleton.mp h
    rfl
  | property base keys =>
    rcases List.mem_cons.mp h with rfl | h
    · rfl
    · obtain ⟨v, -, h⟩ := mem_of_mem_following h
      obtain ⟨x, -, rfl⟩ := List.mem_map.mp h
      rfl
  | map source body => exact absurd rfl hn
  | recorded r d x =>
    obtain ⟨u, -, h⟩ := mem_of_mem_following h
    obtain rfl := List.mem_singleton.mp h
    rfl

/-- A node fails with the fault of its last call, or all of its calls end
well. -/
theorem calls_end (p : Policy) (c : Fields) (n : Node) :
    Ends (Call.result p) (n.value p c) (calls p c n) := by
  have hitems (xs : List Node) :
      Ends (Call.result p) (xs.mapM (value p c)) ((tried (value p c) xs).map (Prod.mk c)) :=
    Ends.map (Ends.mapM (fun x => (bind_pure (value p c x)).symm) xs)
  have hone (x : Node) (k : Value → Except Fault Value) :
      Ends (Call.result p) (x.value p c >>= k) [(c, x)] := by
    have hsingle : Ends (Call.result p) (x.value p c) [(c, x)] := .single fun _ he => he
    exact hsingle.bind k
  have hfirst (x : Node) (k : Value → Except Fault Value) (rest : Value → List Call)
      (h : ∀ w, x.value p c = .ok w → Ends (Call.result p) (k w) (rest w)) :
      Ends (Call.result p) (x.value p c >>= k) ((c, x) :: following (x.value p c) rest) :=
    Ends.first (v := Call.result p) (x := (c, x)) h
  cases n with
  | literal v => exact .nil
  | path names r => exact .nil
  | template text holes =>
    simp only [value, valueOfHoles_eq, calls]
    refine Ends.bind (Ends.map ?_) _
    exact Ends.mapM (fun _ => rfl) holes
  | branch x t f =>
    refine hfirst x _ (fun v => [(c, if v.truthy then t else f)]) fun v _ => .single fun e he => ?_
    simp only [Call.result] at he ⊢
    split <;> simp_all
  | unary name f x => exact hone x f
  | witness name x => exact hone x _
  | calculated x => exact .single fun e he => he
  | binary name f xs =>
    simp only [value, valueOfItems_eq]
    exact (hitems xs).bind _
  | complex name f xs =>
    simp only [value, valueOfItems_eq]
    exact (hitems xs).bind _
  | array xs =>
    simp only [value, valueOfItems_eq]
    exact (hitems xs).bind _
  | object es =>
    simp only [value, valueOfEntries_eq, mapM_pair]
    have hentries := hitems (es.map Prod.snd)
    rw [List.mapM_map] at hentries
    exact (hentries.bind _).bind _
  | property base keys =>
    simp only [value, valueOfKeys_eq]
    refine hfirst base _ _ fun v _ => Ends.map (g := Prod.mk c) ?_
    exact Ends.foldlM (fun _ _ => rfl) v keys
  | map source body =>
    refine hfirst source _ _ fun v _ => Ends.map (g := fun b => (b, body)) ?_
    have hbody (bs : List Fields) :
        Ends (fun b => body.value p b) (bs.mapM fun b => body.value p b)
          (tried (fun b => body.value p b) bs) :=
      Ends.mapM (fun b => (bind_pure (body.value p b)).symm) bs
    cases v with
    | object fs =>
      have hfields := hbody (bindings c (.object fs))
      rw [bindings, List.mapM_map] at hfields
      simp only [mapM_pair]
      exact (hfields.bind _).bind _
    | list xs =>
      have hlist := hbody (bindings c (.list xs))
      rw [bindings, List.mapM_map] at hlist
      exact hlist.bind _
    | _ => exact .nil
  | recorded r d x =>
    simp only [value, calls]
    cases p.take r.sink (.evaluating r 0 d (.object c)) with
    | error e => exact .nil
    | ok u => exact hone x _

/-! ## Calls of calls -/

/-- A call and all calls made for it, in the order in which they begin. -/
def evaluations (p : Policy) (c : Fields) (n : Node) : List Call :=
  (c, n) :: (calls p c n).attach.flatMap fun e => evaluations p e.1.1 e.1.2
termination_by sizeOf n
decreasing_by exact calls_smaller e.2

theorem evaluations_eq (p : Policy) (c : Fields) (n : Node) :
    evaluations p c n = (c, n) :: (calls p c n).flatMap fun e => evaluations p e.1 e.2 := by
  have hattach : (calls p c n).attach.map Subtype.val = calls p c n := List.attach_map_subtype_val _
  have hflat : (calls p c n).attach.flatMap (fun e => evaluations p e.1.1 e.1.2)
      = ((calls p c n).attach.map Subtype.val).flatMap fun e => evaluations p e.1 e.2 := by
    rw [List.flatMap_map]
  rw [evaluations, hflat, hattach]

/-- Induction over a call, with the calls made for it at hand. -/
theorem call_induction {p : Policy} {motive : Fields → Node → Prop}
    (h : ∀ c n, (∀ e ∈ calls p c n, motive e.1 e.2) → motive c n) (c : Fields) (n : Node) :
    motive c n := by
  induction hn : sizeOf n using Nat.strongRecOn generalizing c n with
  | _ size ih =>
    refine h c n fun e he => ?_
    exact ih (sizeOf e.2) (hn ▸ calls_smaller he) e.1 e.2 rfl

section Within

variable {p : Policy} {c : Fields} {n : Node} {e e' : Call}

theorem mem_evaluations_self (p : Policy) (c : Fields) (n : Node) : (c, n) ∈ evaluations p c n := by
  rw [evaluations_eq]
  exact List.mem_cons_self

theorem evaluations_of_call (he : e ∈ calls p c n) (he' : e' ∈ evaluations p e.1 e.2) :
    e' ∈ evaluations p c n := by
  rw [evaluations_eq]
  exact List.mem_cons_of_mem _ (List.mem_flatMap.mpr ⟨e, he, he'⟩)

/-- What is evaluated for a call is evaluated for the whole. -/
theorem evaluations_trans (he : e ∈ evaluations p c n) (he' : e' ∈ evaluations p e.1 e.2) :
    e' ∈ evaluations p c n := by
  induction c, n using call_induction (p := p) with
  | h c n ih =>
    rw [evaluations_eq] at he
    rcases List.mem_cons.mp he with rfl | he
    · exact he'
    · obtain ⟨e₁, he₁, he⟩ := List.mem_flatMap.mp he
      exact evaluations_of_call he₁ (ih e₁ he₁ he)

/-- Without a map among them all evaluations are in one context. -/
theorem evaluations_context (h : ∀ e ∈ evaluations p c n, e.2.kind ≠ .map) :
    ∀ e ∈ evaluations p c n, e.1 = c := by
  induction c, n using call_induction (p := p) with
  | h c n ih =>
    intro e he
    rw [evaluations_eq] at he
    rcases List.mem_cons.mp he with rfl | he
    · rfl
    · obtain ⟨e₁, he₁, he⟩ := List.mem_flatMap.mp he
      have hcontext : e₁.1 = c := calls_context (h (c, n) (mem_evaluations_self p c n)) he₁
      rw [← hcontext]
      exact ih e₁ he₁ (fun e' he' => h e' (evaluations_of_call he₁ he')) e he

end Within

section Ending

variable {p : Policy} {c : Fields} {n : Node}

/-- Whether a call fails. -/
def Call.fails (p : Policy) (e : Call) : Bool := failed (e.result p)

theorem Call.fails_ok {e : Call} {v : Value} (h : e.result p = .ok v) : e.fails p = false := by
  rw [Call.fails, h, failed]

theorem Call.fails_error {e : Call} {f : Fault} (h : e.result p = .error f) : e.fails p = true := by
  rw [Call.fails, h, failed]

/-- A call that ends well has made no call that fails. -/
theorem evaluations_ok {v : Value} (h : n.value p c = .ok v) :
    ∀ e ∈ evaluations p c n, e.fails p = false := by
  induction c, n using call_induction (p := p) generalizing v with
  | h c n ih =>
    intro e he
    rw [evaluations_eq] at he
    have hcalls := calls_end p c n
    rw [h] at hcalls
    rcases List.mem_cons.mp he with rfl | he
    · exact Call.fails_ok h
    · obtain ⟨e', he', he⟩ := List.mem_flatMap.mp he
      generalize hlist : calls p c n = es at hcalls
      cases hcalls with
      | through hall =>
        obtain ⟨w, hw⟩ := hall e' (hlist ▸ he')
        exact ih e' he' hw e he
      | stopped _ _ hr => cases hr

/-- The calls from one that fails to the one where its fault arises, which has
made no call that fails. -/
inductive FailsAlong (p : Policy) (f : Fault) : Call → List Call → Prop
  | here {e : Call} (h : e.result p = .error f)
      (hcalls : ∀ e' ∈ calls p e.1 e.2, ∃ v, Call.result p e' = .ok v) : FailsAlong p f e [e]
  | beneath {e e' : Call} {rest : List Call} (h : e.result p = .error f)
      (hmem : e' ∈ calls p e.1 e.2) (hrest : FailsAlong p f e' rest) : FailsAlong p f e (e :: rest)

theorem filter_fails_ok {es : List Call} (h : ∀ e ∈ es, ∃ v, Call.result p e = .ok v) :
    (es.flatMap fun e => evaluations p e.1 e.2).filter (Call.fails p) = [] := by
  rw [List.filter_eq_nil_iff]
  intro e he
  obtain ⟨e', he', he⟩ := List.mem_flatMap.mp he
  obtain ⟨v, hv⟩ := h e' he'
  rw [evaluations_ok hv e he]
  simp

/-- If a call fails, the calls that fail are those on the way to its fault. -/
theorem failing_calls {f : Fault} (h : n.value p c = .error f) :
    FailsAlong p f (c, n) ((evaluations p c n).filter (Call.fails p)) := by
  induction c, n using call_induction (p := p) with
  | h c n ih =>
    have hself : Call.fails p (c, n) = true := Call.fails_error h
    have hcalls := calls_end p c n
    rw [evaluations_eq, List.filter_cons_of_pos hself]
    generalize hlist : calls p c n = es at hcalls
    cases hcalls with
    | through hall =>
      rw [filter_fails_ok hall]
      exact .here h fun e' he' => hall e' (by rw [← hlist]; exact he')
    | @stopped before e f' hbefore he hr =>
      rw [h] at hr
      obtain rfl := Except.error.inj hr
      have hmem : e ∈ calls p c n := by
        rw [hlist]
        simp
      rw [List.flatMap_append, List.filter_append, filter_fails_ok hbefore, List.nil_append,
        List.flatMap_singleton]
      exact .beneath h hmem (ih e hmem he)

end Ending

/-! ## Maps -/

section Maps

variable {p : Policy} {c : Fields} {source body : Node} {v : Value}

/-- A map that ends well has evaluated its body for all entries. -/
theorem tried_bindings (h : source.value p c = .ok v) {w : Value}
    (hmap : (Node.map source body).value p c = .ok w) :
    tried (fun b => body.value p b) (bindings c v) = bindings c v := by
  have hbodies {α : Type} (g : α → Fields) (xs : List α) {k : List Value → Except Fault Value}
      (hxs : (xs.mapM fun x => body.value p (g x)) >>= k = .ok w) :
      tried (fun b => body.value p b) (xs.map g) = xs.map g := by
    cases hvs : (xs.map g).mapM fun b => body.value p b with
    | ok vs => exact tried_eq_self hvs
    | error e =>
      rw [List.mapM_map] at hvs
      have hfails : xs.mapM (fun x => body.value p (g x)) = .error e := hvs
      rw [hfails] at hxs
      cases hxs
  simp only [value, h, ok_bind] at hmap
  cases v with
  | object fs =>
    simp only [mapM_pair, bind_assoc] at hmap
    exact hbodies _ fs hmap
  | list xs => exact hbodies _ (numbered xs) hmap
  | _ => rfl

end Maps

end Node
end Rulebook
