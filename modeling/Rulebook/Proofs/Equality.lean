-- Equality of values. Two values agree if they are one leaf, numbers at one
-- place of the number line, lists that agree item by item, or mappings with the
-- same keys whose entries agree, in whatever order. That is an equivalence, and
-- so is the equality of `eq`, which keeps booleans apart from numbers at the top.
-- Beneath the top a boolean is a number.
import Rulebook.Operation.Function
import Rulebook.Proofs.Computation
import Rulebook.Proofs.Scopes

namespace Rulebook

namespace Value

/-! ## Values that agree -/

/-- Leaves that are no numbers. -/
def isAtom : Value → Bool
  | .undefined | .null | .text _ | .foreign _ => true
  | _ => false

/-- How two values can agree. -/
inductive Agreement : Value → Value → Prop
  | atom {v : Value} (h : v.isAtom = true) : Agreement v v
  | rank {a b : Value} {r : Rank} (ha : a.rank? = some r) (hb : b.rank? = some r) : Agreement a b
  | nan {x y : Boxed Double} (h : x.value.isNaN = true) (heq : x.value = y.value) :
    Agreement (.float x) (.float y)
  | items {xs ys : List Value} (h : List.Forall₂ (fun x y => same x y = true) xs ys) :
      Agreement (.list xs) (.list ys)
  | entries {fs gs : Fields} (hlength : fs.length = gs.length)
      (h : ∀ e ∈ fs, ∃ w, Mapping.get? e.1 gs = some w ∧ same e.2 w = true) :
      Agreement (.object fs) (.object gs)

theorem sameItems_iff {xs ys : List Value} :
    sameItems xs ys = true ↔ List.Forall₂ (fun x y => same x y = true) xs ys := by
  induction xs generalizing ys with
  | nil => cases ys <;> simp [sameItems]
  | cons x xs ih => cases ys <;> simp [sameItems, ih]

theorem sameFields_iff {fs gs : Fields} :
    sameFields fs gs = true ↔ ∀ e ∈ fs, ∃ w, Mapping.get? e.1 gs = some w ∧ same e.2 w = true := by
  induction fs with
  | nil => simp [sameFields]
  | cons e fs ih =>
    cases hget : Mapping.get? e.1 gs <;> simp [sameFields, ih, hget]

theorem agreement_of_sameNumber {a b : Value} (h : sameNumber a b = true) : Agreement a b := by
  unfold sameNumber at h
  cases ha : a.rank? <;> cases hb : b.rank? <;> simp only [ha, hb] at h
  · unfold sameNaN at h
    split at h
    · simp only [Bool.and_eq_true, beq_iff_eq] at h
      exact .nan h.1 h.2
    · cases h
  · cases h
  · cases h
  · obtain rfl := eq_of_beq h
    exact .rank ha hb

theorem same_iff {a b : Value} : same a b = true ↔ Agreement a b := by
  constructor
  · intro h
    rw [same.eq_def] at h
    split at h
    · exact .atom rfl
    · exact .atom rfl
    · obtain rfl := eq_of_beq h
      exact .atom rfl
    · obtain rfl := eq_of_beq h
      exact .atom rfl
    · exact .items (sameItems_iff.mp h)
    · simp only [Bool.and_eq_true, beq_iff_eq] at h
      exact .entries h.1 (sameFields_iff.mp h.2)
    · exact agreement_of_sameNumber h
  · intro h
    cases h with
    | atom h => cases a <;> simp_all [isAtom, same]
    | rank ha hb =>
      have hnumber : sameNumber a b = true := by simp [sameNumber, ha, hb]
      cases a <;> cases b <;> simp_all [rank?, same]
    | nan h heq => simp [same, sameNumber, rank?, sameNaN, ← heq, h]
    | items h => simpa [same] using sameItems_iff.mpr h
    | entries hlength h => simpa [same, hlength] using sameFields_iff.mpr h

/-- Induction over two values that agree, with all pairs of parts at hand. -/
theorem same_induction {motive : Value → Value → Prop}
    (atom : ∀ v, v.isAtom = true → motive v v)
    (rank : ∀ a b r, a.rank? = some r → b.rank? = some r → motive a b)
    (nan : ∀ x y : Boxed Double, x.value.isNaN = true → x.value = y.value →
      motive (.float x) (.float y))
    (items : ∀ xs ys, List.Forall₂ (fun x y => same x y = true ∧ motive x y) xs ys →
      motive (.list xs) (.list ys))
    (entries : ∀ fs gs : Fields, fs.length = gs.length →
      (∀ e ∈ fs, ∃ w, Mapping.get? e.1 gs = some w ∧ same e.2 w = true ∧ motive e.2 w) →
      motive (.object fs) (.object gs))
    {a b : Value} (h : same a b = true) : motive a b := by
  induction hsize : a.size using Nat.strongRecOn generalizing a b with
  | ind n ih =>
    subst hsize
    cases same_iff.mp h with
    | atom hatom => exact atom _ hatom
    | rank ha hb => exact rank _ _ _ ha hb
    | nan hnan heq => exact nan _ _ hnan heq
    | items hall =>
      refine items _ _ (forall₂_of_mem hall fun x hx y _ hxy => ?_)
      exact ⟨hxy, ih x.size (size_lt_list hx) hxy rfl⟩
    | entries hlength hall =>
      refine entries _ _ hlength fun e he => ?_
      obtain ⟨w, hget, hw⟩ := hall e he
      exact ⟨w, hget, hw, ih e.2.size (size_lt_object he) hw rfl⟩

theorem rank?_of_same {a b : Value} (h : same a b = true) : a.rank? = b.rank? := by
  cases same_iff.mp h with
  | rank ha hb => exact ha.trans hb.symm
  | nan _ heq => simp only [rank?, heq]
  | _ => rfl

theorem isNaN_of_same {a b : Value} (h : same a b = true) : a.isNaN = b.isNaN := by
  cases same_iff.mp h with
  | rank ha hb => cases a <;> cases b <;> simp_all [rank?, isNaN]
  | nan _ heq => simp only [isNaN, heq]
  | _ => rfl

theorem kind_of_same {a b : Value} (h : same a b = true) (hbool : a.isBool = b.isBool) :
    a.kind = b.kind := by
  cases same_iff.mp h with
  | rank ha hb => cases a <;> cases b <;> simp_all [rank?, isBool, kind]
  | _ => rfl

/-! ## Mappings whose keys differ, at every depth -/

theorem keyed_iff {v : Value} :
    v.Keyed ↔ v.Throughout fun w => ∀ fs, w = .object fs → Mapping.Distinct fs := by
  constructor
  · rintro h _ hw fs rfl
    exact h fs hw
  · intro h fs hfs
    exact h _ hfs fs rfl

@[simp] theorem keyed_list {xs : List Value} : (Value.list xs).Keyed ↔ ∀ x ∈ xs, x.Keyed := by
  simp [keyed_iff, throughout_list]

@[simp] theorem keyed_object {fs : Fields} :
    (Value.object fs).Keyed ↔ Mapping.Distinct fs ∧ ∀ e ∈ fs, e.2.Keyed := by
  simp [keyed_iff, throughout_object]

theorem keyed_leaf {v : Value} (hlist : ∀ xs, v ≠ .list xs) (hobject : ∀ fs, v ≠ .object fs) : v.Keyed :=
  keyed_iff.mpr ((throughout_leaf hlist hobject).mpr fun fs hfs => absurd hfs (hobject fs))

theorem keyed_cons {x : Value} {xs : List Value} :
    (Value.list (x :: xs)).Keyed ↔ x.Keyed ∧ (Value.list xs).Keyed := by
  simp

theorem Keyed.item {xs : List Value} (h : (Value.list xs).Keyed) {x : Value} (hx : x ∈ xs) : x.Keyed :=
  keyed_list.mp h x hx

theorem Keyed.distinct {fs : Fields} (h : (Value.object fs).Keyed) : Mapping.Distinct fs :=
  (keyed_object.mp h).1

theorem Keyed.entry {fs : Fields} (h : (Value.object fs).Keyed) {e : Key × Value} (he : e ∈ fs) :
    e.2.Keyed :=
  (keyed_object.mp h).2 e he

/-- A mapping that has all entries of another one, and no more, has no other keys. -/
theorem same_keys {fs gs : Fields} (hfs : Mapping.Distinct fs) (hlength : fs.length = gs.length)
    {P : Key × Value → Value → Prop} (h : ∀ e ∈ fs, ∃ w, Mapping.get? e.1 gs = some w ∧ P e w)
    {e : Key × Value} (he : e ∈ gs) : ∃ u ∈ fs, (u.1 == e.1) = true := by
  have hkeys : ∀ e ∈ fs, ∃ w, Mapping.get? e.1 gs = some w := fun e he =>
    (h e he).imp fun w hw => hw.1
  obtain ⟨v, hv⟩ := Mapping.keys_agree hfs (Nat.le_of_eq hlength.symm) hkeys e he
  obtain ⟨u, hu, hkey, -⟩ := Mapping.entry_of_get? hv
  exact ⟨u, hu, hkey⟩

/-! ## An equivalence -/

theorem same_refl {v : Value} (h : v.Keyed) : same v v = true := by
  rw [same_iff]
  induction v with
  | undefined | null | text _ | foreign _ => exact .atom rfl
  | bool b => exact .rank rfl rfl
  | int n => exact .rank rfl rfl
  | float x =>
    by_cases hx : x.value.isNaN = true
    · exact .nan hx rfl
    · have hrank : (Value.float x).rank? = some (.ofDouble x) := by simp [rank?, hx]
      exact .rank hrank hrank
  | list xs ih =>
    refine .items ?_
    rw [List.forall₂_same]
    intro x hx
    exact same_iff.mpr (ih x hx (h.item hx))
  | object fs ih =>
    refine .entries rfl fun e he => ?_
    exact ⟨e.2, Mapping.get?_of_mem h.distinct he, same_iff.mpr (ih e he (h.entry he))⟩

theorem same_symm {a b : Value} (h : same a b = true) : a.Keyed → b.Keyed → same b a = true := by
  refine same_induction (motive := fun a b => a.Keyed → b.Keyed → same b a = true) ?_ ?_ ?_ ?_ ?_ h
  · intro v hatom _ _
    exact same_iff.mpr (.atom hatom)
  · intro a b r hra hrb _ _
    exact same_iff.mpr (.rank hrb hra)
  · intro x y hx heq _ _
    exact same_iff.mpr (.nan (heq ▸ hx) heq.symm)
  · intro xs ys hall ha hb
    have hback : List.Forall₂ (fun x y => same y x = true) xs ys :=
      forall₂_of_mem hall fun x hx y hy hxy => hxy.2 (ha.item hx) (hb.item hy)
    exact same_iff.mpr (.items hback.flip)
  · intro fs gs hlength hall ha hb
    refine same_iff.mpr (.entries hlength.symm fun e he => ?_)
    obtain ⟨u, hu, hkey⟩ := same_keys ha.distinct hlength hall he
    obtain ⟨w, hw, -, hback⟩ := hall u hu
    rw [Mapping.get?_congr hkey, Mapping.get?_of_mem hb.distinct he] at hw
    obtain rfl := Option.some.inj hw
    refine ⟨u.2, ?_, hback (ha.entry hu) (hb.entry he)⟩
    rw [← Mapping.get?_congr hkey]
    exact Mapping.get?_of_mem ha.distinct hu

theorem same_comm {a b : Value} (ha : a.Keyed) (hb : b.Keyed) : same a b = same b a := by
  rw [Bool.eq_iff_iff]
  exact ⟨fun h => same_symm h ha hb, fun h => same_symm h hb ha⟩

theorem same_trans {a b c : Value} (hab : same a b = true) (hbc : same b c = true) : same a c = true := by
  refine same_induction (motive := fun a b => ∀ c, same b c = true → same a c = true) ?_ ?_ ?_ ?_ ?_
    hab c hbc
  · intro v _ c hc
    exact hc
  · intro a b r ha hb c hc
    rw [rank?_of_same hc] at hb
    exact same_iff.mpr (.rank ha hb)
  · intro x y hx heq c hc
    cases same_iff.mp hc with
    | atom h => cases h
    | rank h _ => simp [rank?, ← heq, hx] at h
    | nan _ heq' => exact same_iff.mpr (.nan hx (heq.trans heq'))
  · intro xs ys hall c hc
    cases same_iff.mp hc with
    | atom h => cases h
    | rank h _ => cases h
    | @items _ zs hyz =>
      refine same_iff.mpr (.items ?_)
      clear hc
      induction hall generalizing zs with
      | nil => exact hyz
      | cons hxy _ ih =>
        cases hyz with
        | cons hy hys => exact .cons (hxy.2 _ hy) (ih hys)
  · intro fs gs hlength hall c hc
    cases same_iff.mp hc with
    | atom h => cases h
    | rank h _ => cases h
    | @entries _ hs hlength' hgh =>
      refine same_iff.mpr (.entries (hlength.trans hlength') fun e he => ?_)
      obtain ⟨w, hw, -, hstep⟩ := hall e he
      obtain ⟨u, hu, hkey, rfl⟩ := Mapping.entry_of_get? hw
      obtain ⟨t, ht, hut⟩ := hgh u hu
      exact ⟨t, (Mapping.get?_congr hkey hs).symm.trans ht, hstep t hut⟩

/-! ## The equality of `eq` -/

theorem strictEquals_iff {a b : Value} :
    a.strictEquals b = true ↔ a.isBool = b.isBool ∧ same a b = true ∧ a.isNaN = false := by
  simp only [strictEquals, equals, Bool.and_eq_true, beq_iff_eq, Bool.not_eq_true']

theorem strictEquals_symm {a b : Value} (ha : a.Keyed) (hb : b.Keyed) (h : a.strictEquals b = true) :
    b.strictEquals a = true := by
  obtain ⟨hbool, hsame, hnan⟩ := strictEquals_iff.mp h
  exact strictEquals_iff.mpr ⟨hbool.symm, same_symm hsame ha hb, (isNaN_of_same hsame).symm.trans hnan⟩

end Value

/-- The equality of `eq` is an equivalence of all values but NaN, and values
that it takes for equal have one type. -/
theorem strict_equality_is_an_equivalence {a b : Value} (c : Value) (ha : a.Keyed) (hb : b.Keyed) :
    (a.isNaN = false → a.strictEquals a = true)
      ∧ a.strictEquals b = b.strictEquals a
      ∧ (a.strictEquals b = true → b.strictEquals c = true → a.strictEquals c = true)
      ∧ (a.strictEquals b = true → Function.typeof a = Function.typeof b) := by
  refine ⟨fun hnan => ?_, ?_, fun hab hbc => ?_, fun h => ?_⟩
  · exact Value.strictEquals_iff.mpr ⟨rfl, Value.same_refl ha, hnan⟩
  · rw [Bool.eq_iff_iff]
    exact ⟨Value.strictEquals_symm ha hb, Value.strictEquals_symm hb ha⟩
  · obtain ⟨hbool, hsame, hnan⟩ := Value.strictEquals_iff.mp hab
    obtain ⟨hbool', hsame', -⟩ := Value.strictEquals_iff.mp hbc
    exact Value.strictEquals_iff.mpr ⟨hbool.trans hbool', Value.same_trans hsame hsame', hnan⟩
  · obtain ⟨hbool, hsame, -⟩ := Value.strictEquals_iff.mp h
    unfold Function.typeof
    rw [Value.kind_of_same hsame hbool]

/-- One mapping in three forms: with its entries in another order, and with its
numbers as a boolean, integers and a double. -/
theorem one_mapping_in_three_forms :
    ∃ a b c : Value, a.Keyed ∧ b.Keyed
      ∧ a = .object [(.text "x", .list [.bool true, .int 1]), (.text "y", .undefined)]
      ∧ b = .object [(.text "y", .undefined), (.text "x", .list [.int 1, .bool true])]
      ∧ c = .object [(.text "x", .list [.float (Double.mk 0x3FF0000000000000), .int 1]), (.text "y", .undefined)]
      ∧ a.strictEquals a = true ∧ a.strictEquals b = b.strictEquals a ∧ a.strictEquals c = true
      ∧ Function.typeof a = Function.typeof b := by
  let a : Value := .object [(.text "x", .list [.bool true, .int 1]), (.text "y", .undefined)]
  let b : Value := .object [(.text "y", .undefined), (.text "x", .list [.int 1, .bool true])]
  let c : Value :=
    .object [(.text "x", .list [.float (Double.mk 0x3FF0000000000000), .int 1]), (.text "y", .undefined)]
  have ha : a.Keyed := by
    refine Value.keyed_object.mpr ⟨by decide, ?_⟩
    simp [Value.keyed_leaf]
  have hb : b.Keyed := by
    refine Value.keyed_object.mpr ⟨by decide, ?_⟩
    simp [Value.keyed_leaf]
  have hab : a.strictEquals b = true := by decide +kernel
  have hbc : b.strictEquals c = true := by decide +kernel
  obtain ⟨hrefl, hcomm, htrans, htype⟩ := strict_equality_is_an_equivalence c ha hb
  exact ⟨a, b, c, ha, hb, rfl, rfl, rfl, hrefl rfl, hcomm, htrans hab hbc, htype hab⟩

/-! ## Places -/

section Rel

variable {α β γ δ : Type} {R : α → β → Prop} {S : γ → δ → Prop} {p : Option α} {q : Option β}

theorem rel_imp {R' : α → β → Prop} (h : Option.Rel R p q) (himp : ∀ x y, R x y → R' x y) :
    Option.Rel R' p q := by
  cases h with
  | none => exact .none
  | some hxy => exact .some (himp _ _ hxy)

theorem rel_bind {f : α → Option γ} {g : β → Option δ} (h : Option.Rel R p q)
    (hfg : ∀ x y, p = some x → R x y → Option.Rel S (f x) (g y)) :
    Option.Rel S (p >>= f) (q >>= g) := by
  cases h with
  | none => exact .none
  | some hxy => exact hfg _ _ rfl hxy

theorem rel_getElem? {xs : List α} {ys : List β} (h : List.Forall₂ R xs ys) (n : Nat) :
    Option.Rel R xs[n]? ys[n]? := by
  induction h generalizing n with
  | nil => exact .none
  | cons hxy _ ih =>
    cases n with
    | zero => exact .some hxy
    | succ n => exact ih n

end Rel

namespace Value

/-- A step from a value to a part of it. -/
inductive Step where
  | index (n : Nat)
  | key (k : Key)

/-- The part that one step leads to. -/
def part? : Value → Step → Option Value
  | .list xs, .index n => xs[n]?
  | .object fs, .key k => Mapping.get? k fs
  | _, _ => none

/-- What stands in a value at the place that some steps lead to. -/
def at? (v : Value) (place : List Step) : Option Value := place.foldlM part? v

theorem Keyed.part {v w : Value} {s : Step} (hv : v.Keyed) (h : v.part? s = some w) : w.Keyed := by
  cases v <;> cases s <;> simp only [part?, reduceCtorEq] at h
  · exact hv.item (List.mem_of_getElem? h)
  · obtain ⟨e, he, rfl⟩ := Mapping.mem_of_get? h
    exact hv.entry he

theorem part?_of_atom {v : Value} (h : v.isAtom = true) (s : Step) : v.part? s = none := by
  cases v <;> first | rfl | cases h

theorem part?_of_rank {v : Value} {r : Rank} (h : v.rank? = some r) (s : Step) : v.part? s = none := by
  cases v <;> first | rfl | cases h

/-- Where one of two values that agree has a part, the other one has a part that
agrees with it. -/
theorem part_same {a b : Value} (h : same a b = true) (ha : a.Keyed) (s : Step) :
    Option.Rel (fun x y => same x y = true) (a.part? s) (b.part? s) := by
  cases same_iff.mp h with
  | atom hatom =>
    rw [part?_of_atom hatom]
    exact .none
  | rank hra hrb =>
    rw [part?_of_rank hra, part?_of_rank hrb]
    exact .none
  | nan _ _ => exact .none
  | items hall =>
    cases s with
    | key k => exact .none
    | index n => exact rel_getElem? hall n
  | @entries fs gs hlength hall =>
    cases s with
    | index n => exact .none
    | key k =>
      simp only [part?]
      cases hfs : Mapping.get? k fs with
      | some x =>
        obtain ⟨e, he, hkey, rfl⟩ := Mapping.entry_of_get? hfs
        obtain ⟨y, hy, hxy⟩ := hall e he
        rw [← Mapping.get?_congr hkey, hy]
        exact .some hxy
      | none =>
        cases hgs : Mapping.get? k gs with
        | none => exact .none
        | some y =>
          -- the key is one of the first mapping, too
          obtain ⟨e, he, hkey, rfl⟩ := Mapping.entry_of_get? hgs
          obtain ⟨u, hu, hkey'⟩ := same_keys ha.distinct hlength hall he
          have hfound := Mapping.get?_of_mem ha.distinct hu
          rw [Mapping.get?_congr hkey', Mapping.get?_congr hkey, hfs] at hfound
          cases hfound

theorem at_same {a b : Value} (h : same a b = true) (ha : a.Keyed) (place : List Step) :
    Option.Rel (fun x y => same x y = true) (a.at? place) (b.at? place) := by
  unfold at?
  induction place generalizing a b with
  | nil => exact .some h
  | cons s rest ih =>
    simp only [List.foldlM_cons]
    exact rel_bind (part_same h ha s) fun x y hx hxy => ih hxy (ha.part hx)

/-- A boolean, and a number that it counts as. -/
def CountsAs (x y : Value) : Prop :=
  ∃ t, x = .bool t ∧ y.isBool = false ∧ y.rank? = some (.ofInt (if t then 1 else 0))

theorem countsAs_of_same {x y : Value} (h : same x y = true) :
    x.isBool = y.isBool ∨ x.CountsAs y ∨ y.CountsAs x := by
  have hrank := rank?_of_same h
  cases hx : x.isBool <;> cases hy : y.isBool
  · exact Or.inl rfl
  · cases y <;> simp only [isBool, Bool.false_eq_true] at hy
    exact Or.inr (Or.inr ⟨_, rfl, hx, hrank⟩)
  · cases x <;> simp only [isBool, Bool.false_eq_true] at hx
    exact Or.inr (Or.inl ⟨_, rfl, hy, hrank.symm⟩)
  · exact Or.inl rfl

end Value

/-- Values that are equal for `eq` have the same places. At each of them both
hold a boolean or none does, but for a boolean beneath the top of one value where
the other one has a number that it counts as. -/
theorem booleans_pass_for_numbers_beneath_alone {a b : Value} (ha : a.Keyed)
    (h : a.strictEquals b = true) (place : List Value.Step) :
    Option.Rel (fun x y => x.isBool = y.isBool ∨ place ≠ [] ∧ (x.CountsAs y ∨ y.CountsAs x))
      (a.at? place) (b.at? place) := by
  obtain ⟨hbool, hsame, -⟩ := Value.strictEquals_iff.mp h
  cases place with
  | nil => exact .some (Or.inl hbool)
  | cons s rest =>
    refine rel_imp (Value.at_same hsame ha (s :: rest)) fun x y hxy => ?_
    exact (Value.countsAs_of_same hxy).imp id fun hcounts => ⟨List.cons_ne_nil s rest, hcounts⟩

theorem true_counts_as_one_in_an_entry :
    ∃ a b : Value, a.Keyed ∧ a.strictEquals b = true
      ∧ a.at? [.key (.text "x"), .index 1] = some (.bool true)
      ∧ b.at? [.key (.text "x"), .index 1] = some (.int 1)
      ∧ Option.Rel
          (fun x y => x.isBool = y.isBool
            ∨ [Value.Step.key (.text "x"), .index 1] ≠ [] ∧ (x.CountsAs y ∨ y.CountsAs x))
          (a.at? [.key (.text "x"), .index 1]) (b.at? [.key (.text "x"), .index 1]) := by
  let a : Value := .object [(.text "x", .list [.bool false, .bool true])]
  let b : Value := .object [(.text "x", .list [.bool false, .int 1])]
  have ha : a.Keyed := by
    refine Value.keyed_object.mpr ⟨by decide, ?_⟩
    simp [Value.keyed_leaf]
  have hab : a.strictEquals b = true := by decide +kernel
  exact ⟨a, b, ha, hab, rfl, rfl, booleans_pass_for_numbers_beneath_alone ha hab _⟩

/-- A list of a boolean is equal to a list of a number. -/
theorem list_of_true_equals_list_of_one :
    ¬ ∀ a b : Value, a.strictEquals b = true → ∀ place x y,
      a.at? place = some x → b.at? place = some y → x.isBool = y.isBool := by
  intro h
  have hlists : (Value.list [.bool true]).strictEquals (.list [.int 1]) = true := by decide +kernel
  have hbools : (Value.bool true).isBool = (Value.int 1).isBool := h _ _ hlists [.index 0] _ _ rfl rfl
  cases hbools

end Rulebook
