-- Computations that may fail and carry a state, such as compilation and
-- evaluation: how they end, what state they leave, and when two of them run
-- side by side.
import Mathlib.Data.List.Forall2

namespace Rulebook

variable {ε ε' σ τ α β γ δ : Type}

/-- How a computation ends when it starts from a state. -/
def outcome (x : ExceptT ε (StateM σ) α) (s : σ) : Except ε α := (x.run.run s).1

/-- The state that a computation leaves, also when it fails. -/
def after (x : ExceptT ε (StateM σ) α) (s : σ) : σ := (x.run.run s).2

/-! ## How the steps of a computation end -/

section Steps

variable (s : σ)

@[simp] theorem outcome_pure (a : α) :
    outcome (pure a : ExceptT ε (StateM σ) α) s = .ok a := rfl

@[simp] theorem after_pure (a : α) : after (pure a : ExceptT ε (StateM σ) α) s = s := rfl

@[simp] theorem outcome_throw (e : ε) :
    outcome (throw e : ExceptT ε (StateM σ) α) s = .error e := rfl

@[simp] theorem after_throw (e : ε) : after (throw e : ExceptT ε (StateM σ) α) s = s := rfl

@[simp] theorem outcome_liftExcept (r : Except ε α) :
    outcome (liftExcept r : ExceptT ε (StateM σ) α) s = r := by cases r <;> rfl

@[simp] theorem after_liftExcept (r : Except ε α) :
    after (liftExcept r : ExceptT ε (StateM σ) α) s = s := by cases r <;> rfl

@[simp] theorem outcome_modify (f : σ → σ) :
    outcome (modify f : ExceptT ε (StateM σ) Unit) s = .ok () := rfl

@[simp] theorem after_modify (f : σ → σ) :
    after (modify f : ExceptT ε (StateM σ) Unit) s = f s := rfl

@[simp] theorem outcome_get : outcome (get : ExceptT ε (StateM σ) σ) s = .ok s := rfl

@[simp] theorem after_get : after (get : ExceptT ε (StateM σ) σ) s = s := rfl

@[simp] theorem outcome_map (f : α → β) (x : ExceptT ε (StateM σ) α) :
    outcome (f <$> x) s = (outcome x s).map f := by
  unfold outcome
  simp only [ExceptT.run_map, StateT.run_map]
  rfl

theorem outcome_bind (x : ExceptT ε (StateM σ) α) (f : α → ExceptT ε (StateM σ) β) :
    outcome (x >>= f) s = match outcome x s with
      | .ok a => outcome (f a) (after x s)
      | .error e => .error e := by
  unfold outcome after
  simp only [ExceptT.run_bind, StateT.run_bind]
  rcases h : x.run.run s with ⟨_ | a, t⟩ <;> rfl

theorem after_bind (x : ExceptT ε (StateM σ) α) (f : α → ExceptT ε (StateM σ) β) :
    after (x >>= f) s = match outcome x s with
      | .ok a => after (f a) (after x s)
      | .error _ => after x s := by
  unfold outcome after
  simp only [ExceptT.run_bind, StateT.run_bind]
  rcases h : x.run.run s with ⟨_ | a, t⟩ <;> rfl

end Steps

theorem outcome_bind_ok {x : ExceptT ε (StateM σ) α} {f : α → ExceptT ε (StateM σ) β} {s : σ} {b : β}
    (h : outcome (x >>= f) s = .ok b) :
    ∃ a, outcome x s = .ok a ∧ outcome (f a) (after x s) = .ok b ∧
      after (x >>= f) s = after (f a) (after x s) := by
  rw [outcome_bind] at h
  rw [after_bind]
  cases hx : outcome x s with
  | error e => rw [hx] at h; cases h
  | ok a => rw [hx] at h; exact ⟨a, rfl, h, rfl⟩

@[simp] theorem liftExcept_ok (a : α) :
    (liftExcept (.ok a : Except ε α) : ExceptT ε (StateM σ) α) = pure a := rfl

@[simp] theorem liftExcept_error (e : ε) :
    (liftExcept (.error e : Except ε α) : ExceptT ε (StateM σ) α) = throw e := rfl

theorem ok_bind (a : α) (f : α → Except ε β) : (Except.ok a >>= f) = f a := rfl

theorem bind_ok {r : Except ε α} {f : α → Except ε β} {b : β} (h : (r >>= f) = .ok b) :
    ∃ a, r = .ok a ∧ f a = .ok b := by
  cases r with
  | error e => cases h
  | ok a => exact ⟨a, rfl, h⟩

section Lists

variable {m : Type → Type} [Monad m]

theorem mapM_congr [LawfulMonad m] {f g : α → m β} {xs : List α} (h : ∀ x ∈ xs, f x = g x) :
    xs.mapM f = xs.mapM g := by
  induction xs with
  | nil => rfl
  | cons x xs ih =>
    simp only [List.mapM_cons]
    rw [h x (by simp), ih fun y hy => h y (List.mem_cons_of_mem _ hy)]

theorem foldlM_congr {f g : β → α → m β} {xs : List α} (h : ∀ b, ∀ x ∈ xs, f b x = g b x) (b : β) :
    xs.foldlM f b = xs.foldlM g b := by
  induction xs generalizing b with
  | nil => rfl
  | cons x xs ih =>
    simp only [List.foldlM_cons]
    rw [h b x (by simp)]
    exact congrArg _ (funext fun b' => ih (fun c y hy => h c y (List.mem_cons_of_mem _ hy)) b')

/-- Pairs of a key and a result are the keys with all results. -/
theorem mapM_pair [LawfulMonad m] (k : α → γ) (f : α → m β) (xs : List α) :
    xs.mapM (fun x => do return (k x, ← f x)) = (do return (xs.map k).zip (← xs.mapM f)) := by
  induction xs with
  | nil => simp
  | cons x xs ih =>
    simp only [List.map_cons, List.mapM_cons, bind_assoc, pure_bind, List.zip_cons_cons, ih]

end Lists

/-- What a list of results comes from, item by item. -/
theorem mapM_ok {f : α → Except ε β} {xs : List α} {ys : List β} (h : xs.mapM f = .ok ys) :
    List.Forall₂ (fun x y => f x = .ok y) xs ys := by
  induction xs generalizing ys with
  | nil =>
    obtain rfl := Except.ok.inj h
    exact .nil
  | cons x xs ih =>
    rw [List.mapM_cons] at h
    cases hx : f x with
    | error e => rw [hx] at h; cases h
    | ok y =>
      cases hxs : xs.mapM f with
      | error e => rw [hx, hxs] at h; cases h
      | ok ys' =>
        rw [hx, hxs] at h
        obtain rfl := Except.ok.inj h
        exact .cons hx (ih hxs)

theorem mem_of_mapM_ok {f : α → Except ε β} {xs : List α} {ys : List β} (h : xs.mapM f = .ok ys)
    {y : β} (hy : y ∈ ys) : ∃ x ∈ xs, f x = .ok y := by
  have hall := mapM_ok h
  clear h
  induction hall with
  | nil => cases hy
  | cons hx _ ih =>
    rcases List.mem_cons.mp hy with rfl | hy
    · exact ⟨_, by simp, hx⟩
    · obtain ⟨x, hmem, hfx⟩ := ih hy
      exact ⟨x, List.mem_cons_of_mem _ hmem, hfx⟩

theorem map_eq_of_forall₂ {R : α → β → Prop} {f : α → γ} {g : β → γ} {xs : List α} {ys : List β}
    (h : List.Forall₂ R xs ys) (hfg : ∀ x y, R x y → f x = g y) : xs.map f = ys.map g := by
  rw [← List.forall₂_eq_eq_eq, List.forall₂_map_left_iff, List.forall₂_map_right_iff]
  exact h.imp hfg

theorem mapM_eq_of_forall₂ {R : α → β → Prop} {f : α → Except ε γ} {g : β → Except ε γ} {xs : List α}
    {ys : List β} (h : List.Forall₂ R xs ys) (hfg : ∀ x y, R x y → f x = g y) : xs.mapM f = ys.mapM g := by
  induction h with
  | nil => rfl
  | cons hxy _ ih => rw [List.mapM_cons, List.mapM_cons, hfg _ _ hxy, ih]

theorem foldlM_eq_of_forall₂ {R : α → β → Prop} {f : γ → α → Except ε γ} {g : γ → β → Except ε γ}
    {xs : List α} {ys : List β} (h : List.Forall₂ R xs ys) (hfg : ∀ c x y, R x y → f c x = g c y) (c : γ) :
    xs.foldlM f c = ys.foldlM g c := by
  induction h generalizing c with
  | nil => rfl
  | cons hxy _ ih =>
    rw [List.foldlM_cons, List.foldlM_cons, hfg _ _ _ hxy]
    exact congrArg _ (funext ih)

theorem forall₂_of_mem {R S : α → β → Prop} {xs : List α} {ys : List β} (h : List.Forall₂ R xs ys)
    (himp : ∀ x ∈ xs, ∀ y ∈ ys, R x y → S x y) : List.Forall₂ S xs ys := by
  induction h with
  | nil => exact .nil
  | cons hxy _ ih =>
    refine .cons (himp _ (by simp) _ (by simp) hxy) (ih fun x hx y hy => ?_)
    exact himp x (List.mem_cons_of_mem _ hx) y (List.mem_cons_of_mem _ hy)

/-- A list of results fails as the first of them that fails. -/
theorem mapM_error_iff {f : α → Except ε β} {xs : List α} {e : ε} :
    xs.mapM f = .error e
      ↔ ∃ before x rest, xs = before ++ x :: rest ∧ (∀ y ∈ before, ∃ b, f y = .ok b) ∧ f x = .error e := by
  induction xs with
  | nil =>
    constructor
    · intro h
      cases h
    · rintro ⟨before, x, rest, heq, -⟩
      simp at heq
  | cons x xs ih =>
    rw [List.mapM_cons]
    cases hx : f x with
    | error e' =>
      constructor
      · intro h
        obtain rfl := Except.error.inj h
        exact ⟨[], x, xs, rfl, by simp, hx⟩
      · rintro ⟨before, y, rest, heq, hbefore, hy⟩
        cases before with
        | nil =>
          obtain ⟨rfl, rfl⟩ := List.cons.inj heq
          rw [← hx, hy]
          rfl
        | cons z before =>
          obtain ⟨rfl, rfl⟩ := List.cons.inj heq
          obtain ⟨b, hb⟩ := hbefore x (by simp)
          rw [hx] at hb
          cases hb
    | ok b =>
      have hrest : (do let bs ← xs.mapM f; pure (b :: bs)) = .error e ↔ xs.mapM f = .error e := by
        cases xs.mapM f with
        | error e' => exact Iff.rfl
        | ok bs => simp
      rw [ok_bind, hrest, ih]
      constructor
      · rintro ⟨before, y, rest, rfl, hbefore, hy⟩
        exact ⟨x :: before, y, rest, rfl, List.forall_mem_cons.mpr ⟨⟨b, hx⟩, hbefore⟩, hy⟩
      · rintro ⟨before, y, rest, heq, hbefore, hy⟩
        cases before with
        | nil =>
          obtain ⟨rfl, rfl⟩ := List.cons.inj heq
          rw [hx] at hy
          cases hy
        | cons z before =>
          obtain ⟨rfl, rfl⟩ := List.cons.inj heq
          exact ⟨before, y, rest, rfl, fun y' hy' => hbefore y' (List.mem_cons_of_mem _ hy'), hy⟩

/-! ## What results have in common -/

/-- Whatever a computation gives has a property. -/
def Ensures (P : α → Prop) (x : ExceptT ε (StateM σ) α) : Prop :=
  ∀ s a, outcome x s = .ok a → P a

namespace Ensures

variable {P : α → Prop} {R : β → Prop}

theorem pure {a : α} (h : P a) : Ensures P (Pure.pure a : ExceptT ε (StateM σ) α) := by
  intro s b hb
  obtain rfl := Except.ok.inj hb
  exact h

theorem throw (e : ε) : Ensures P (throw e : ExceptT ε (StateM σ) α) := by
  intro s a ha
  cases ha

theorem bind {x : ExceptT ε (StateM σ) α} {f : α → ExceptT ε (StateM σ) β} (hx : Ensures P x)
    (hf : ∀ a, P a → Ensures R (f a)) : Ensures R (x >>= f) := by
  intro s b hb
  obtain ⟨a, ha, hfa, -⟩ := outcome_bind_ok hb
  exact hf a (hx s a ha) _ b hfa

theorem bind_any {x : ExceptT ε (StateM σ) α} {f : α → ExceptT ε (StateM σ) β}
    (hf : ∀ a, Ensures R (f a)) : Ensures R (x >>= f) := by
  have hx : Ensures (fun _ => True) x := fun _ _ _ => trivial
  exact hx.bind fun a _ => hf a

theorem mapM {f : α → ExceptT ε (StateM σ) β} {xs : List α} (h : ∀ x ∈ xs, Ensures R (f x)) :
    Ensures (fun ys => ∀ y ∈ ys, R y) (xs.mapM f) := by
  induction xs with
  | nil => exact Ensures.pure (by simp)
  | cons x xs ih =>
    rw [List.mapM_cons]
    refine (h x (by simp)).bind fun y hy => ?_
    refine (ih fun x' hx' => h x' (List.mem_cons_of_mem _ hx')).bind fun ys hys => Ensures.pure ?_
    simpa using ⟨hy, hys⟩

end Ensures

/-! ## Computations without a state -/

/-- From every state of a kind a computation ends in one way, and it leaves
such a state. -/
def Yields (Q : σ → Prop) (x : ExceptT ε (StateM σ) α) (r : Except ε α) : Prop :=
  ∀ s, Q s → outcome x s = r ∧ Q (after x s)

namespace Yields

variable {Q : σ → Prop}

theorem pure (a : α) : Yields Q (Pure.pure a : ExceptT ε (StateM σ) α) (.ok a) :=
  fun _ hs => ⟨rfl, hs⟩

theorem throw (e : ε) : Yields Q (throw e : ExceptT ε (StateM σ) α) (.error e) :=
  fun _ hs => ⟨rfl, hs⟩

theorem lift (r : Except ε α) : Yields Q (liftExcept r : ExceptT ε (StateM σ) α) r :=
  fun s hs => ⟨outcome_liftExcept s r, by rw [after_liftExcept]; exact hs⟩

theorem bind {x : ExceptT ε (StateM σ) α} {f : α → ExceptT ε (StateM σ) β} {r : Except ε α}
    {g : α → Except ε β} (hx : Yields Q x r) (hf : ∀ a, r = .ok a → Yields Q (f a) (g a)) :
    Yields Q (x >>= f) (r >>= g) := by
  intro s hs
  obtain ⟨ho, ha⟩ := hx s hs
  rw [outcome_bind, after_bind, ho]
  cases r with
  | error e => exact ⟨rfl, ha⟩
  | ok a => exact hf a rfl _ ha

theorem mapM {f : α → ExceptT ε (StateM σ) β} {g : α → Except ε β} {xs : List α}
    (h : ∀ x ∈ xs, Yields Q (f x) (g x)) : Yields Q (xs.mapM f) (xs.mapM g) := by
  induction xs with
  | nil => exact Yields.pure []
  | cons x xs ih =>
    simp only [List.mapM_cons]
    refine (h x (by simp)).bind fun b _ => ?_
    refine (ih fun y hy => h y (List.mem_cons_of_mem _ hy)).bind fun bs _ => ?_
    exact Yields.pure (b :: bs)

theorem foldlM {f : β → α → ExceptT ε (StateM σ) β} {g : β → α → Except ε β} {xs : List α}
    (h : ∀ b, ∀ x ∈ xs, Yields Q (f b x) (g b x)) (b : β) :
    Yields Q (xs.foldlM f b) (xs.foldlM g b) := by
  induction xs generalizing b with
  | nil => exact Yields.pure b
  | cons x xs ih =>
    simp only [List.foldlM_cons]
    refine (h b x (by simp)).bind fun b' _ => ?_
    exact ih (fun b'' y hy => h b'' y (List.mem_cons_of_mem _ hy)) b'

end Yields

/-! ## Two computations side by side -/

/-- Both end well with related values, or both fail with related faults. -/
def Related (E : ε → ε' → Prop) (V : α → β → Prop) : Except ε α → Except ε' β → Prop
  | .ok a, .ok b => V a b
  | .error e, .error f => E e f
  | _, _ => False

@[simp] theorem related_eq {r q : Except ε α} : Related Eq Eq r q ↔ r = q := by
  cases r <;> cases q <;> simp [Related]

section Equivalence

variable {E : ε → ε → Prop} {V : α → α → Prop} {r q n : Except ε α}

theorem Related.refl (hE : Equivalence E) (hV : Equivalence V) (r : Except ε α) : Related E V r r := by
  cases r with
  | error e => exact hE.refl e
  | ok a => exact hV.refl a

theorem Related.symm (hE : Equivalence E) (hV : Equivalence V) (h : Related E V r q) :
    Related E V q r := by
  cases r <;> cases q
  · exact hE.symm h
  · exact h
  · exact h
  · exact hV.symm h

theorem Related.trans (hE : Equivalence E) (hV : Equivalence V) (h : Related E V r q)
    (h' : Related E V q n) : Related E V r n := by
  cases r <;> cases q <;> cases n
  case error.error.error => exact hE.trans h h'
  case ok.ok.ok => exact hV.trans h h'
  all_goals first | exact absurd h id | exact absurd h' id

end Equivalence

theorem Related.imp {E : ε → ε' → Prop} {V V' : α → β → Prop} {r : Except ε α} {q : Except ε' β}
    (h : Related E V r q) (himp : ∀ a b, r = .ok a → q = .ok b → V a b → V' a b) :
    Related E V' r q := by
  cases r <;> cases q
  · exact h
  · exact h
  · exact h
  · exact himp _ _ rfl rfl h

theorem Related.exists_ok {E : ε → ε' → Prop} {V : α → β → Prop} {r : Except ε α} {q : Except ε' β}
    (h : Related E V r q) {a : α} (hr : r = .ok a) : ∃ b, q = .ok b ∧ V a b := by
  subst hr
  cases q with
  | error e => exact absurd h id
  | ok b => exact ⟨b, rfl, h⟩

theorem Related.flip {V : α → β → Prop} {r : Except ε α} {q : Except ε β} (h : Related Eq V r q) :
    Related Eq (fun b a => V a b) q r := by
  cases r <;> cases q
  · exact Eq.symm h
  · exact h
  · exact h
  · exact h

theorem Related.error_iff {V : α → β → Prop} {r : Except ε α} {q : Except ε β} (h : Related Eq V r q)
    (e : ε) : r = .error e ↔ q = .error e := by
  cases r <;> cases q
  · obtain rfl : _ = _ := h
    simp
  · exact absurd h id
  · exact absurd h id
  · simp

/-- A result that fails as the first of some others is there if all of them are. -/
theorem Related.ok_of_mapM {V : α → List γ → Prop} {r : Except ε α} {f : β → Except ε γ} {xs : List β}
    (h : Related Eq V r (xs.mapM f)) (hxs : ∀ x ∈ xs, ∃ y, f x = .ok y) : ∃ a, r = .ok a := by
  cases r with
  | ok a => exact ⟨a, rfl⟩
  | error e =>
    obtain ⟨before, x, rest, rfl, -, hx⟩ := mapM_error_iff.mp ((h.error_iff e).mp rfl)
    obtain ⟨y, hy⟩ := hxs x (by simp)
    rw [hx] at hy
    cases hy

theorem exists_mapM_ok {f : α → Except ε β} {xs : List α} (h : ∀ x ∈ xs, ∃ y, f x = .ok y) :
    ∃ ys, xs.mapM f = .ok ys :=
  Related.ok_of_mapM (related_eq.mpr rfl) h

/-- Two results that are related to one and the same. -/
theorem Related.join {V : α → γ → Prop} {W : β → γ → Prop} {r : Except ε α} {q : Except ε β}
    {n : Except ε γ} (hr : Related Eq V r n) (hq : Related Eq W q n) :
    Related Eq (fun a b => ∃ c, V a c ∧ W b c) r q := by
  cases r <;> cases q <;> cases n
  case error.error.error => exact Eq.trans hr (Eq.symm hq)
  case ok.ok.ok => exact ⟨_, hr, hq⟩
  all_goals first | exact absurd hr id | exact absurd hq id

theorem Related.bind {E : ε → ε' → Prop} {V : α → β → Prop} {W : γ → δ → Prop} {r : Except ε α}
    {q : Except ε' β} {f : α → Except ε γ} {g : β → Except ε' δ} (h : Related E V r q)
    (hfg : ∀ a b, V a b → Related E W (f a) (g b)) : Related E W (r >>= f) (q >>= g) := by
  cases r <;> cases q
  · exact h
  · exact absurd h id
  · exact absurd h id
  · exact hfg _ _ h

/-- Computations one after the other, each related to a result from whatever
state it starts. -/
theorem Related.mapM {f : α → ExceptT ε (StateM σ) β} {g : α → Except ε γ} {W : β → γ → Prop}
    {xs : List α} (h : ∀ x ∈ xs, ∀ s, Related Eq W (outcome (f x) s) (g x)) (s : σ) :
    Related Eq (List.Forall₂ W) (outcome (xs.mapM f) s) (xs.mapM g) := by
  induction xs generalizing s with
  | nil => exact List.Forall₂.nil
  | cons x xs ih =>
    have hfirst := h x (by simp) s
    rw [List.mapM_cons, List.mapM_cons, outcome_bind]
    cases hf : outcome (f x) s <;> cases hg : g x <;> rw [hf, hg] at hfirst
    · exact hfirst
    · exact absurd hfirst id
    · exact absurd hfirst id
    · have hrest := ih (fun y hy => h y (List.mem_cons_of_mem _ hy)) (after (f x) s)
      simp only [ok_bind, bind_pure_comp, outcome_map]
      exact hrest.bind fun _ _ hs => List.Forall₂.cons hfirst hs

/-- From related states two computations end in related ways, and they leave
related states. -/
def InStep (S : σ → τ → Prop) (E : ε → ε' → Prop) (V : α → β → Prop)
    (x : ExceptT ε (StateM σ) α) (y : ExceptT ε' (StateM τ) β) : Prop :=
  ∀ s t, S s t → Related E V (outcome x s) (outcome y t) ∧ S (after x s) (after y t)

namespace InStep

variable {S : σ → τ → Prop} {E : ε → ε' → Prop} {V : α → β → Prop} {W : γ → δ → Prop}

theorem pure {a : α} {b : β} (h : V a b) :
    InStep S E V (Pure.pure a : ExceptT ε (StateM σ) α) (Pure.pure b : ExceptT ε' (StateM τ) β) :=
  fun _ _ hs => ⟨h, hs⟩

/-- A computation keeps step with itself. -/
theorem refl (x : ExceptT ε (StateM σ) α) : InStep Eq Eq Eq x x := by
  rintro s t rfl
  refine ⟨?_, rfl⟩
  cases outcome x s
  · exact rfl
  · exact rfl

theorem throw {e : ε} {f : ε'} (h : E e f) :
    InStep S E V (throw e : ExceptT ε (StateM σ) α) (throw f : ExceptT ε' (StateM τ) β) :=
  fun _ _ hs => ⟨h, hs⟩

theorem lift {r : Except ε α} {q : Except ε' β} (h : Related E V r q) :
    InStep S E V (liftExcept r : ExceptT ε (StateM σ) α) (liftExcept q : ExceptT ε' (StateM τ) β) := by
  intro s t hs
  simp only [outcome_liftExcept, after_liftExcept]
  exact ⟨h, hs⟩

theorem bind {x : ExceptT ε (StateM σ) α} {y : ExceptT ε' (StateM τ) β}
    {f : α → ExceptT ε (StateM σ) γ} {g : β → ExceptT ε' (StateM τ) δ}
    (hx : InStep S E V x y) (hf : ∀ a b, V a b → InStep S E W (f a) (g b)) :
    InStep S E W (x >>= f) (y >>= g) := by
  intro s t hs
  obtain ⟨ho, ha⟩ := hx s t hs
  rw [outcome_bind, outcome_bind, after_bind, after_bind]
  cases hxs : outcome x s <;> cases hyt : outcome y t <;> rw [hxs, hyt] at ho
  · exact ⟨ho, ha⟩
  · exact absurd ho id
  · exact absurd ho id
  · exact hf _ _ ho _ _ ha

/-- A step of the first one alone, which always ends well and whose result
does not matter. -/
theorem skip {x : ExceptT ε (StateM σ) α} {f : α → ExceptT ε (StateM σ) γ}
    {y : ExceptT ε' (StateM τ) δ} (hx : ∀ s t, S s t → ∃ a, outcome x s = .ok a ∧ S (after x s) t)
    (hf : ∀ a, InStep S E W (f a) y) : InStep S E W (x >>= f) y := by
  intro s t hs
  obtain ⟨a, ho, ha⟩ := hx s t hs
  rw [outcome_bind, after_bind, ho]
  exact hf a _ _ ha

theorem mono {V' : α → β → Prop} {x : ExceptT ε (StateM σ) α} {y : ExceptT ε' (StateM τ) β}
    (h : InStep S E V x y) (hv : ∀ a b, V a b → V' a b) : InStep S E V' x y := by
  intro s t hs
  obtain ⟨ho, ha⟩ := h s t hs
  exact ⟨ho.imp fun a b _ _ hab => hv a b hab, ha⟩

theorem mapM {f : α → ExceptT ε (StateM σ) γ} {g : β → ExceptT ε' (StateM τ) δ}
    {xs : List α} {ys : List β} (h : List.Forall₂ (fun a b => InStep S E W (f a) (g b)) xs ys) :
    InStep S E (List.Forall₂ W) (xs.mapM f) (ys.mapM g) := by
  induction h with
  | nil => exact InStep.pure .nil
  | cons hx _ ih =>
    simp only [List.mapM_cons]
    refine hx.bind fun a b hab => ih.bind fun as bs hs => ?_
    exact InStep.pure (.cons hab hs)

theorem foldlM {V : γ → δ → Prop} {f : γ → α → ExceptT ε (StateM σ) γ}
    {g : δ → α → ExceptT ε' (StateM τ) δ} {xs : List α}
    (h : ∀ b c, V b c → ∀ x ∈ xs, InStep S E V (f b x) (g c x)) {b : γ} {c : δ} (hbc : V b c) :
    InStep S E V (xs.foldlM f b) (xs.foldlM g c) := by
  induction xs generalizing b c with
  | nil => exact InStep.pure hbc
  | cons x xs ih =>
    simp only [List.foldlM_cons]
    refine (h b c hbc x (by simp)).bind fun b' c' hbc' => ih (fun b'' c'' hb y hy => ?_) hbc'
    exact h b'' c'' hb y (List.mem_cons_of_mem _ hy)

theorem get {V : σ → τ → Prop} (h : ∀ s t, S s t → V s t) :
    InStep S E V (get : ExceptT ε (StateM σ) σ) (get : ExceptT ε' (StateM τ) τ) :=
  fun s t hs => ⟨h s t hs, hs⟩

theorem modify {f : σ → σ} {g : τ → τ} (h : ∀ s t, S s t → S (f s) (g t)) :
    InStep S E Eq (modify f : ExceptT ε (StateM σ) Unit) (modify g : ExceptT ε' (StateM τ) Unit) :=
  fun s t hs => ⟨rfl, h s t hs⟩

/-- What one of the two ends with from the states in question. -/
theorem ensures_from {P : α → Prop} {x : ExceptT ε (StateM σ) α} {y : ExceptT ε' (StateM τ) β}
    (h : InStep S E V x y) (hx : ∀ s t, S s t → ∀ a, outcome x s = .ok a → P a) :
    InStep S E (fun a b => V a b ∧ P a) x y := by
  intro s t hs
  obtain ⟨ho, ha⟩ := h s t hs
  exact ⟨ho.imp fun a b hxs _ hab => ⟨hab, hx s t hs a hxs⟩, ha⟩

/-- What one of the two ensures by itself. -/
theorem ensures {P : α → Prop} {x : ExceptT ε (StateM σ) α} {y : ExceptT ε' (StateM τ) β}
    (h : InStep S E V x y) (hx : Ensures P x) : InStep S E (fun a b => V a b ∧ P a) x y :=
  h.ensures_from fun s _ _ => hx s

/-- Two computations keep step with each other if both do with a third one. -/
theorem join {S : σ → σ → Prop} (hS : Equivalence S) {V : α → γ → Prop} {W : β → γ → Prop}
    {x : ExceptT ε (StateM σ) α} {y : ExceptT ε (StateM σ) β} {z : ExceptT ε (StateM σ) γ}
    (hx : InStep S Eq V x z) (hy : InStep S Eq W y z) :
    InStep S Eq (fun a b => ∃ c, V a c ∧ W b c) x y := by
  intro s t hs
  obtain ⟨hox, hax⟩ := hx s t hs
  obtain ⟨hoy, hay⟩ := hy t t (hS.refl t)
  exact ⟨hox.join hoy, hS.trans hax (hS.symm hay)⟩

theorem trans {S : σ → σ → Prop} (hS : Equivalence S) {V : α → β → Prop}
    {x : ExceptT ε (StateM σ) α} {y z : ExceptT ε (StateM σ) β}
    (hx : InStep S Eq V x y) (hy : InStep S Eq Eq y z) : InStep S Eq V x z := by
  intro s t hs
  obtain ⟨hox, hax⟩ := hx s t hs
  obtain ⟨hoy, hay⟩ := hy t t (hS.refl t)
  rw [related_eq] at hoy
  rw [← hoy]
  exact ⟨hox, hS.trans hax hay⟩

/-! Results that are the same. -/

theorem bind_eq {x : ExceptT ε (StateM σ) α} {y : ExceptT ε' (StateM τ) α}
    {f : α → ExceptT ε (StateM σ) γ} {g : α → ExceptT ε' (StateM τ) δ} (hx : InStep S E Eq x y)
    (hf : ∀ a, InStep S E W (f a) (g a)) : InStep S E W (x >>= f) (y >>= g) := by
  refine hx.bind fun a b hab => ?_
  subst hab
  exact hf a

theorem lift_eq (r : Except ε α) :
    InStep S Eq Eq (liftExcept r : ExceptT ε (StateM σ) α) (liftExcept r : ExceptT ε (StateM τ) α) := by
  refine InStep.lift ?_
  cases r
  · exact rfl
  · exact rfl

theorem mapM_eq {f : α → ExceptT ε (StateM σ) γ} {g : α → ExceptT ε' (StateM τ) γ} {xs : List α}
    (h : ∀ x ∈ xs, InStep S E Eq (f x) (g x)) : InStep S E Eq (xs.mapM f) (xs.mapM g) := by
  refine (InStep.mapM (List.forall₂_same.mpr h)).mono fun as bs hs => ?_
  rwa [List.forall₂_eq_eq_eq] at hs

end InStep

end Rulebook
