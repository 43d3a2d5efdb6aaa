-- The order of values. Numbers and texts have a place each, and two lists are
-- settled by their first items that do not agree. What `gt`, `gte`, `lt` and
-- `lte` tell of two values is one order of them, which fits to their equality.
import Rulebook.Proofs.Equality
import Rulebook.Proofs.Operands

namespace Rulebook

namespace Rank

instance : Std.TransCmp Rank.compare :=
  inferInstanceAs (Std.TransCmp (compareLex (compareOn Rank.tier) (compareOn Rank.units)))

theorem compare_eq_iff {r s : Rank} : r.compare s = .eq ↔ r = s := by
  obtain ⟨t, u⟩ := r
  obtain ⟨t', u'⟩ := s
  simp [Rank.compare, Ordering.then_eq_eq]

end Rank

namespace Value

/-! ## Two values that are ordered -/

/-- Two lists whose order is settled by their first items that do not agree, or
else by their lengths. -/
inductive Lexicographic : List Value → List Value → Ordering → Prop
  | ended : Lexicographic [] [] .eq
  | shorter (y : Value) (ys : List Value) : Lexicographic [] (y :: ys) .lt
  | longer (x : Value) (xs : List Value) : Lexicographic (x :: xs) [] .gt
  | agree {x y : Value} {xs ys : List Value} {o : Ordering} (h : same x y = true)
      (hrest : Lexicographic xs ys o) : Lexicographic (x :: xs) (y :: ys) o
  | differ {x y : Value} {o : Ordering} (xs ys : List Value) (h : same x y = false)
      (ho : order x y = .ordered o) : Lexicographic (x :: xs) (y :: ys) o

/-- How two values can be ordered. -/
inductive Ordered : Value → Value → Ordering → Prop
  | texts (s t : String) : Ordered (.text s) (.text t) (Ord.compare s t)
  | ranks {a b : Value} {r s : Rank} (ha : a.rank? = some r) (hb : b.rank? = some s) :
      Ordered a b (r.compare s)
  | items {xs ys : List Value} {o : Ordering} (h : Lexicographic xs ys o) :
      Ordered (.list xs) (.list ys) o

theorem orderItems_iff {xs ys : List Value} {o : Ordering} :
    orderItems xs ys = .ordered o ↔ Lexicographic xs ys o := by
  constructor
  · intro h
    induction xs generalizing ys with
    | nil =>
      cases ys <;> obtain rfl := Comparison.ordered.inj h
      · exact .ended
      · exact .shorter _ _
    | cons x xs ih =>
      cases ys with
      | nil =>
        obtain rfl := Comparison.ordered.inj h
        exact .longer _ _
      | cons y ys =>
        rw [orderItems] at h
        split at h
        · rename_i hxy
          exact .agree hxy (ih h)
        · rename_i hxy
          exact .differ xs ys (by simpa using hxy) h
  · intro h
    induction h with
    | ended | shorter | longer => rfl
    | agree hxy _ ih => rwa [orderItems, if_pos hxy]
    | differ xs ys hxy ho => rwa [orderItems, if_neg (by simp [hxy])]

theorem isNumber_of_rank {v : Value} {r : Rank} (h : v.rank? = some r) : v.isNumber = true := by
  cases v <;> first | rfl | cases h

theorem order_iff {a b : Value} {o : Ordering} : order a b = .ordered o ↔ Ordered a b o := by
  constructor
  · intro h
    rw [order.eq_def] at h
    split at h
    · obtain rfl := Comparison.ordered.inj h
      exact .texts _ _
    · exact .items (orderItems_iff.mp h)
    · unfold orderNumbers at h
      split at h
      · split at h
        · rename_i r s ha hb
          obtain rfl := Comparison.ordered.inj h
          exact .ranks ha hb
        · cases h
      · cases h
  · intro h
    cases h with
    | texts s t => rfl
    | @ranks _ _ r s ha hb =>
      have hnumbers : orderNumbers a b = .ordered (r.compare s) := by
        simp [orderNumbers, isNumber_of_rank ha, isNumber_of_rank hb, ha, hb]
      cases a <;> first | exact hnumbers | cases ha
    | items h => exact orderItems_iff.mpr h

theorem rank_of_order {a b : Value} {o : Ordering} {r : Rank} (h : order a b = .ordered o)
    (ha : a.rank? = some r) : ∃ s, b.rank? = some s ∧ r.compare s = o := by
  cases order_iff.mp h with
  | texts => cases ha
  | ranks ha' hb =>
    obtain rfl := Option.some.inj (ha.symm.trans ha')
    exact ⟨_, hb, rfl⟩
  | items => cases ha

theorem list_of_order {xs : List Value} {b : Value} {o : Ordering} (h : order (.list xs) b = .ordered o) :
    ∃ ys, b = .list ys ∧ Lexicographic xs ys o := by
  cases order_iff.mp h with
  | ranks ha => cases ha
  | items hlist => exact ⟨_, rfl, hlist⟩

/-- Induction over two values that are ordered, with all items at hand. -/
theorem order_induction {motive : Value → Value → Ordering → Prop}
    (texts : ∀ s t, motive (.text s) (.text t) (Ord.compare s t))
    (ranks : ∀ a b r s, a.rank? = some r → b.rank? = some s → motive a b (r.compare s))
    (items : ∀ xs ys o, Lexicographic xs ys o →
      (∀ x ∈ xs, ∀ y o, order x y = .ordered o → motive x y o) → motive (.list xs) (.list ys) o)
    {a b : Value} {o : Ordering} (h : order a b = .ordered o) : motive a b o := by
  induction hsize : a.size using Nat.strongRecOn generalizing a b o with
  | ind n ih =>
    subst hsize
    cases order_iff.mp h with
    | texts s t => exact texts s t
    | ranks ha hb => exact ranks _ _ _ _ ha hb
    | items hlist => exact items _ _ _ hlist fun x hx y o ho => ih x.size (size_lt_list hx) ho rfl

/-! ## Order and equality -/

theorem same_iff_rank {a b : Value} {r s : Rank} (ha : a.rank? = some r) (hb : b.rank? = some s) :
    same a b = true ↔ r = s := by
  constructor
  · intro h
    rw [rank?_of_same h, hb] at ha
    exact (Option.some.inj ha).symm
  · rintro rfl
    exact same_iff.mpr (.rank ha hb)

/-- Two values are ordered as equal if they agree. -/
theorem same_iff_order {a b : Value} {o : Ordering} (h : order a b = .ordered o) :
    same a b = true ↔ o = .eq := by
  refine order_induction (motive := fun a b o => same a b = true ↔ o = .eq) ?_ ?_ ?_ h
  · intro s t
    simp [same, Std.LawfulEqCmp.compare_eq_iff_eq]
  · intro a b r s ha hb
    rw [same_iff_rank ha hb, Rank.compare_eq_iff]
  · intro xs ys o hlist ih
    rw [same]
    induction hlist with
    | ended | shorter | longer => simp [sameItems]
    | agree hxy _ ihrest =>
      simpa [sameItems, hxy] using ihrest fun z hz => ih z (List.mem_cons_of_mem _ hz)
    | differ xs ys hxy ho => simpa [sameItems, hxy] using ih _ (by simp) _ _ ho

theorem not_same_of_lt {a b : Value} (h : order a b = .ordered .lt) : same a b = false := by
  rw [Bool.eq_false_iff]
  intro hsame
  cases (same_iff_order h).mp hsame

/-- Values that agree are ordered alike. -/
theorem order_congr_right {a b c : Value} {o : Ordering} (h : order a b = .ordered o)
    (hbc : same b c = true) (hb : b.Keyed) (hc : c.Keyed) : order a c = .ordered o := by
  refine order_induction (motive := fun a b o => ∀ c, same b c = true → b.Keyed → c.Keyed →
    order a c = .ordered o) ?_ ?_ ?_ h c hbc hb hc
  · intro s t c hc _ _
    cases same_iff.mp hc with
    | atom => rfl
    | rank ht => cases ht
  · intro a b r s ha hb c hc _ _
    rw [rank?_of_same hc] at hb
    exact order_iff.mpr (.ranks ha hb)
  · intro xs ys o hlist ih c hc hys hcs
    cases same_iff.mp hc with
    | atom h => cases h
    | rank h => cases h
    | @items _ zs hyz =>
      refine order_iff.mpr (.items ?_)
      clear hc
      induction hlist generalizing zs with
      | ended =>
        cases hyz
        exact .ended
      | shorter y ys =>
        cases hyz
        exact .shorter _ _
      | longer x xs =>
        cases hyz
        exact .longer x xs
      | agree hxy _ ihrest =>
        cases hyz with
        | cons hy hrest =>
          refine .agree (same_trans hxy hy) ?_
          exact ihrest (fun z hz => ih z (List.mem_cons_of_mem _ hz)) (keyed_cons.mp hys).2 hrest
            (keyed_cons.mp hcs).2
      | @differ x y o xs ys hxy ho =>
        cases hyz with
        | @cons _ z _ zs hy hrest =>
          have hky := (keyed_cons.mp hys).1
          have hkz := (keyed_cons.mp hcs).1
          refine .differ xs zs ?_ (ih x (by simp) y o ho z hy hky hkz)
          -- an item that agreed with the third one would agree with the second
          rw [Bool.eq_false_iff]
          intro hxz
          have hback := same_trans hxz (same_symm hy hky hkz)
          rw [hxy] at hback
          cases hback

/-! ## The other way round -/

/-- The comparison of the same values the other way round. -/
def Comparison.swap : Comparison → Comparison
  | .ordered o => .ordered o.swap
  | .unordered => .unordered
  | .mismatch left right => .mismatch right left

theorem orderNumbers_swap (a b : Value) : orderNumbers b a = (orderNumbers a b).swap := by
  unfold orderNumbers
  rw [Bool.and_comm]
  split
  · cases ha : a.rank? <;> cases hb : b.rank? <;> simp only [Comparison.swap]
    exact congrArg Comparison.ordered Std.OrientedCmp.eq_swap
  · rfl

theorem order_swap {a b : Value} (ha : a.Keyed) (hb : b.Keyed) : order b a = (order a b).swap := by
  induction a generalizing b with
  | list xs ih =>
    cases b with
    | list ys =>
      rw [order, order]
      induction xs generalizing ys with
      | nil => cases ys <;> rfl
      | cons x xs ihxs =>
        cases ys with
        | nil => rfl
        | cons y ys =>
          obtain ⟨hx, hxs⟩ := keyed_cons.mp ha
          obtain ⟨hy, hys⟩ := keyed_cons.mp hb
          simp only [orderItems, same_comm hy hx]
          split
          · exact ihxs (fun z hz => ih z (List.mem_cons_of_mem _ hz)) hxs ys hys
          · exact ih x (by simp) hx hy
    | _ => exact orderNumbers_swap _ _
  | text s =>
    cases b with
    | text t => exact congrArg Comparison.ordered Std.OrientedCmp.eq_swap
    | _ => exact orderNumbers_swap _ _
  | _ => cases b <;> exact orderNumbers_swap _ _

theorem order_congr_left {a b c : Value} {o : Ordering} (h : order a b = .ordered o)
    (hac : same a c = true) (ha : a.Keyed) (hb : b.Keyed) (hc : c.Keyed) : order c b = .ordered o := by
  have hba : order b a = .ordered o.swap := by rw [order_swap ha hb, h]; rfl
  have hbc : order b c = .ordered o.swap := order_congr_right hba hac ha hc
  rw [order_swap hb hc, hbc, Comparison.swap, Ordering.swap_swap]

/-! ## Three values -/

theorem lexicographic_trans {xs ys zs : List Value}
    (h : ∀ x ∈ xs, ∀ y z, order x y = .ordered .lt → order y z = .ordered .lt →
      x.Keyed → y.Keyed → z.Keyed → order x z = .ordered .lt)
    (hxy : Lexicographic xs ys .lt) (hyz : Lexicographic ys zs .lt) (hxs : (Value.list xs).Keyed)
    (hys : (Value.list ys).Keyed) (hzs : (Value.list zs).Keyed) : Lexicographic xs zs .lt := by
  induction xs generalizing ys zs with
  | nil =>
    cases hxy
    cases hyz <;> exact .shorter _ _
  | cons x xs ih =>
    obtain ⟨hkx, hkxs⟩ := keyed_cons.mp hxs
    -- the first place where two neighbours differ settles the outer two
    cases hxy with
    | @agree _ y _ ys _ hsame hrest =>
      obtain ⟨hky, hkys⟩ := keyed_cons.mp hys
      cases hyz with
      | agree hsame' hrest' =>
        refine .agree (same_trans hsame hsame') ?_
        exact ih (fun w hw => h w (List.mem_cons_of_mem _ hw)) hrest hrest' hkxs hkys (keyed_cons.mp hzs).2
      | differ _ zs _ hlt =>
        have hxz := order_congr_left hlt (same_symm hsame hkx hky) hky (keyed_cons.mp hzs).1 hkx
        exact .differ xs zs (not_same_of_lt hxz) hxz
    | @differ _ y _ _ ys _ hlt =>
      have hky := (keyed_cons.mp hys).1
      cases hyz with
      | @agree _ z _ zs _ hsame _ =>
        have hxz := order_congr_right hlt hsame hky (keyed_cons.mp hzs).1
        exact .differ xs zs (not_same_of_lt hxz) hxz
      | @differ _ z _ _ zs _ hlt' =>
        have hxz := h x (by simp) y z hlt hlt' hkx hky (keyed_cons.mp hzs).1
        exact .differ xs zs (not_same_of_lt hxz) hxz

theorem order_trans {a b c : Value} (hab : order a b = .ordered .lt) (hbc : order b c = .ordered .lt)
    (ha : a.Keyed) (hb : b.Keyed) (hc : c.Keyed) : order a c = .ordered .lt := by
  refine order_induction (motive := fun a b o => o = .lt → ∀ c, order b c = .ordered .lt → a.Keyed →
    b.Keyed → c.Keyed → order a c = .ordered .lt) ?_ ?_ ?_ hab rfl c hbc ha hb hc
  · intro s t hst c htc _ _ _
    cases c with
    | text u => exact congrArg Comparison.ordered (Std.TransCmp.lt_trans hst (Comparison.ordered.inj htc))
    | _ => cases htc
  · intro a b r s ha hb hrs c hc _ _ _
    obtain ⟨t, ht, hst⟩ := rank_of_order hc hb
    have hrt : r.compare t = .lt := Std.TransCmp.lt_trans hrs hst
    exact hrt ▸ order_iff.mpr (.ranks ha ht)
  · rintro xs ys o hxy ih rfl c hc hxs hys hzs
    obtain ⟨zs, rfl, hyz⟩ := list_of_order hc
    refine order_iff.mpr (.items (lexicographic_trans ?_ hxy hyz hxs hys hzs))
    exact fun x hx y z hlt => ih x hx y .lt hlt rfl z

/-! ## Values without NaN -/

/-- No NaN stands in a value. -/
def NaNFree : Value → Prop := Throughout fun w => w.isNaN = false

theorem nanFree_cons {x : Value} {xs : List Value} :
    (Value.list (x :: xs)).NaNFree ↔ x.NaNFree ∧ (Value.list xs).NaNFree := by
  simp [NaNFree, throughout_list, isNaN]

theorem NaNFree.isNaN {v : Value} (h : v.NaNFree) : v.isNaN = false := h v .here

theorem NaNFree.rank {v : Value} (h : v.NaNFree) (hv : v.isNumber = true) : ∃ r, v.rank? = some r := by
  have hnan := h.isNaN
  cases v <;> simp_all [isNumber, rank?, Value.isNaN]

theorem orderNumbers_ne_unordered {a b : Value} (ha : a.NaNFree) (hb : b.NaNFree) :
    orderNumbers a b ≠ .unordered := by
  unfold orderNumbers
  split
  · rename_i hnumbers
    rw [Bool.and_eq_true] at hnumbers
    obtain ⟨r, hr⟩ := ha.rank hnumbers.1
    obtain ⟨s, hs⟩ := hb.rank hnumbers.2
    simp [hr, hs]
  · simp

/-- But for NaN all values have an order or are of unlike types. -/
theorem order_ne_unordered {a b : Value} (ha : a.NaNFree) (hb : b.NaNFree) : order a b ≠ .unordered := by
  induction a generalizing b with
  | list xs ih =>
    cases b with
    | list ys =>
      rw [order]
      induction xs generalizing ys with
      | nil => cases ys <;> simp [orderItems]
      | cons x xs ihxs =>
        cases ys with
        | nil => simp [orderItems]
        | cons y ys =>
          obtain ⟨hx, hxs⟩ := nanFree_cons.mp ha
          obtain ⟨hy, hys⟩ := nanFree_cons.mp hb
          rw [orderItems]
          split
          · exact ihxs (fun z hz => ih z (List.mem_cons_of_mem _ hz)) hxs ys hys
          · exact ih x (by simp) hx hy
    | _ => exact orderNumbers_ne_unordered ha hb
  | text s =>
    cases b with
    | text t => simp [order]
    | _ => exact orderNumbers_ne_unordered ha hb
  | _ => cases b <;> exact orderNumbers_ne_unordered ha hb

end Value

/-! ## The four relations -/

namespace Relation

/-- The operation that tells whether the relation holds. -/
def name : Relation → String
  | .gt => "gt"
  | .gte => "gte"
  | .lt => "lt"
  | .lte => "lte"

theorem factory (r : Relation) :
    Registry.standard.factory? (.text r.name) = some (.binary r.name (Function.relate r)) := by
  cases r <;> rfl

/-- The operation tells that the relation holds. -/
def Holds (r : Relation) (a b : Value) : Prop := Function.relate r a b = .ok (.bool true)

/-- The operation fails for values of unlike types. -/
def Refuses (r : Relation) (a b : Value) : Prop :=
  ∃ e, Function.relate r a b = .error e ∧ e.classOf = .type

section Relate

variable {a b : Value}

theorem relate_undefined (r : Relation) (h : a.isUndefined = true ∨ b.isUndefined = true) :
    Function.relate r a b = .ok (.bool false) := by
  rw [Function.relate, if_pos (Bool.or_eq_true_iff.mpr h)]

theorem relate_defined (r : Relation) (ha : a.isUndefined = false) (hb : b.isUndefined = false) :
    Function.relate r a b = (Function.holds r a b).map .bool := by
  rw [Function.relate, ha, hb]
  rfl

theorem defined_of_rank {v : Value} {k : Rank} (h : v.rank? = some k) : v.isUndefined = false := by
  cases v <;> first | rfl | cases h

theorem defined_of_order {o : Ordering} (h : a.order b = .ordered o) :
    a.isUndefined = false ∧ b.isUndefined = false := by
  cases Value.order_iff.mp h with
  | texts => exact ⟨rfl, rfl⟩
  | ranks ha hb => exact ⟨defined_of_rank ha, defined_of_rank hb⟩
  | items => exact ⟨rfl, rfl⟩

theorem relate_ordered (r : Relation) {o : Ordering} (h : a.order b = .ordered o) :
    Function.relate r a b = .ok (.bool (r.accepts o)) := by
  obtain ⟨ha, hb⟩ := defined_of_order h
  rw [relate_defined r ha hb, Function.holds, h]
  rfl

/-- A relation is refused for values that have no order, and tells true or false
of all others. -/
theorem relate_cases (r : Relation) (a b : Value) :
    (∃ t, Function.relate r a b = .ok (.bool t))
      ∨ a.isUndefined = false ∧ b.isUndefined = false ∧ r.Refuses a b
        ∧ ∃ left right, a.order b = .mismatch left right := by
  cases ha : a.isUndefined with
  | true => exact Or.inl ⟨false, relate_undefined r (Or.inl ha)⟩
  | false =>
    cases hb : b.isUndefined with
    | true => exact Or.inl ⟨false, relate_undefined r (Or.inr hb)⟩
    | false =>
      have hrelate := relate_defined r ha hb
      rw [Function.holds] at hrelate
      cases hcompare : a.order b with
      | ordered o =>
        rw [hcompare] at hrelate
        exact Or.inl ⟨_, hrelate⟩
      | unordered =>
        rw [hcompare] at hrelate
        exact Or.inl ⟨_, hrelate⟩
      | mismatch left right =>
        rw [hcompare] at hrelate
        exact Or.inr ⟨rfl, rfl, ⟨_, hrelate, rfl⟩, left, right, rfl⟩

theorem refuses_iff (r : Relation) : r.Refuses a b
    ↔ a.isUndefined = false ∧ b.isUndefined = false ∧ ∃ left right, a.order b = .mismatch left right := by
  rcases relate_cases r a b with ⟨t, ht⟩ | ⟨ha, hb, hrefuses, hmismatch⟩
  · constructor
    · rintro ⟨e, he, -⟩
      rw [ht] at he
      cases he
    · rintro ⟨ha, hb, left, right, hmismatch⟩
      rw [relate_defined r ha hb, Function.holds, hmismatch] at ht
      cases ht
  · exact iff_of_true hrefuses ⟨ha, hb, hmismatch⟩

/-- A relation holds where values are ordered in a way that it accepts. -/
theorem holds_iff (r : Relation) : r.Holds a b ↔ ∃ o, a.order b = .ordered o ∧ r.accepts o = true := by
  constructor
  · intro h
    unfold Holds Function.relate Function.holds at h
    split at h
    · cases h
    · split at h
      · rename_i o ho
        exact ⟨o, ho, Value.bool.inj (Except.ok.inj h)⟩
      · cases h
      · cases h
  · rintro ⟨o, ho, haccepts⟩
    rw [Holds, relate_ordered r ho, haccepts]

theorem refuses_swap (r s : Relation) (ha : a.Keyed) (hb : b.Keyed) : r.Refuses a b ↔ s.Refuses b a := by
  rw [refuses_iff, refuses_iff, Value.order_swap ha hb]
  constructor
  · rintro ⟨ha', hb', left, right, h⟩
    exact ⟨hb', ha', right, left, by rw [h]; rfl⟩
  · rintro ⟨hb', ha', left, right, h⟩
    cases hcompare : a.order b with
    | mismatch x y => exact ⟨ha', hb', x, y, rfl⟩
    | _ => rw [hcompare] at h; cases h

/-- Values that are there and not refused have an order, but for NaN. -/
theorem ordered_of_not_refused {r : Relation} (ha : a.isUndefined = false) (hb : b.isUndefined = false)
    (hnan : a.NaNFree) (hnan' : b.NaNFree) (h : ¬ r.Refuses a b) : ∃ o, a.order b = .ordered o := by
  cases hcompare : a.order b with
  | ordered o => exact ⟨o, rfl⟩
  | unordered => exact absurd hcompare (Value.order_ne_unordered hnan hnan')
  | mismatch left right => exact absurd ((refuses_iff r).mpr ⟨ha, hb, left, right, hcompare⟩) h

theorem holds_of_ordered (r : Relation) {o : Ordering} (h : a.order b = .ordered o) :
    r.Holds a b ↔ r.accepts o = true := by
  rw [Holds, relate_ordered r h, Except.ok.injEq, Value.bool.injEq]

theorem equals_of_ordered {o : Ordering} (h : a.order b = .ordered o) (hnan : a.isNaN = false) :
    a.equals b = true ↔ o = .eq := by
  rw [Value.equals, hnan, Bool.not_false, Bool.and_true, Value.same_iff_order h]

/-- Of two values with an order the first is less, equal or greater. -/
theorem trichotomy {o : Ordering} (h : a.order b = .ordered o) (hnan : a.isNaN = false) :
    (lt.Holds a b ∧ a.equals b = false ∧ ¬ gt.Holds a b
        ∨ ¬ lt.Holds a b ∧ a.equals b = true ∧ ¬ gt.Holds a b
        ∨ ¬ lt.Holds a b ∧ a.equals b = false ∧ gt.Holds a b)
      ∧ (lte.Holds a b ↔ lt.Holds a b ∨ a.equals b = true)
      ∧ (gte.Holds a b ↔ gt.Holds a b ∨ a.equals b = true) := by
  simp only [holds_of_ordered _ h, ← Bool.not_eq_true, equals_of_ordered h hnan]
  cases o <;> decide

end Relate

end Relation

/-- The operation on two definitions that have values. -/
theorem relation_means {around : Surroundings} {base x y : Value} {j : Journal} {context a b : Value}
    (r : Relation) (hx : Logic.alone around base x j context = .ok a)
    (hy : Logic.alone around base y j context = .ok b) (draft : Draft) :
    ∃ l, outcome (Logic.build around [] base (Compile.longForm r.name (.list [x, y]))) draft = .ok l
      ∧ outcome (l.eval context) j = Function.relate r a b := by
  obtain ⟨lx, hlx, -⟩ := bind_ok hx
  obtain ⟨ly, hly, -⟩ := bind_ok hy
  have hbuilt : ∀ d ∈ [x, y], ∃ l, outcome (Logic.build around [] base d) ⟨0, [], false⟩ = .ok l := by
    simp only [List.forall_mem_cons]
    exact ⟨⟨lx, hlx⟩, ⟨ly, hly⟩, by simp⟩
  obtain ⟨l, hl⟩ := Logic.binary_builds r.factory (by simp) hbuilt draft
  obtain ⟨ls, -, -, heval⟩ := Logic.binary_means r.factory (by simp) hl
  refine ⟨l, hl, ?_⟩
  simp [heval, hx, hy, ok_bind, Node.reduce]

/-- The four ordering operations tell of one order. They are false for a missing
operand, and refuse the same pairs of others, whichever comes first. Any other pair
is less, equal or greater, and less than carries over. -/
theorem ordering_operations_are_one_order {a b : Value} (c : Value) (ha : a.Keyed) (hb : b.Keyed)
    (hc : c.Keyed) (hnan : a.NaNFree) (hnan' : b.NaNFree) :
    (∀ (r : Relation) around base x y j context, Logic.alone around base x j context = .ok a →
        Logic.alone around base y j context = .ok b → ∀ draft,
          ∃ l, outcome (Logic.build around [] base (Compile.longForm r.name (.list [x, y]))) draft = .ok l
            ∧ outcome (l.eval context) j = Function.relate r a b)
      ∧ (a.isUndefined = true ∨ b.isUndefined = true →
          ∀ r, Function.relate r a b = .ok (.bool false))
      ∧ (∀ r : Relation, (∃ t, Function.relate r a b = .ok (.bool t)) ∨ r.Refuses a b)
      ∧ (∀ r s : Relation, (r.Refuses a b ↔ s.Refuses a b) ∧ (r.Refuses a b ↔ s.Refuses b a))
      ∧ (a.isUndefined = false → b.isUndefined = false → ∀ r : Relation, ¬ r.Refuses a b →
          (Relation.lt.Holds a b ∧ a.equals b = false ∧ ¬ Relation.gt.Holds a b
              ∨ ¬ Relation.lt.Holds a b ∧ a.equals b = true ∧ ¬ Relation.gt.Holds a b
              ∨ ¬ Relation.lt.Holds a b ∧ a.equals b = false ∧ Relation.gt.Holds a b)
            ∧ (Relation.lte.Holds a b ↔ Relation.lt.Holds a b ∨ a.equals b = true)
            ∧ (Relation.gte.Holds a b ↔ Relation.gt.Holds a b ∨ a.equals b = true)
            ∧ Function.relate .gt a b = Function.relate .lt b a)
      ∧ (a.isBool = false → b.isBool = false → Function.eq a b = .ok (.bool (a.equals b)))
      ∧ (Relation.lt.Holds a b → Relation.lt.Holds b c → Relation.lt.Holds a c) := by
  refine ⟨fun r around base x y j context hx hy draft => ?_, fun hmissing r => ?_, fun r => ?_,
    fun r s => ⟨?_, Relation.refuses_swap r s ha hb⟩, fun hda hdb r hr => ?_, fun hbool hbool' => ?_,
    fun hab hbc => ?_⟩
  · exact relation_means r hx hy draft
  · exact Relation.relate_undefined r hmissing
  · exact (Relation.relate_cases r a b).imp id fun h => h.2.2.1
  · rw [Relation.refuses_iff, Relation.refuses_iff]
  · obtain ⟨o, ho⟩ := Relation.ordered_of_not_refused hda hdb hnan hnan' hr
    have hback : b.order a = .ordered o.swap := by
      rw [Value.order_swap ha hb, ho]
      rfl
    obtain ⟨hthree, hlte, hgte⟩ := Relation.trichotomy ho hnan.isNaN
    refine ⟨hthree, hlte, hgte, ?_⟩
    rw [Relation.relate_ordered .gt ho, Relation.relate_ordered .lt hback]
    cases o <;> rfl
  · rw [Function.eq, Value.strictEquals, hbool, hbool']
    rfl
  · obtain ⟨o, ho, hlt⟩ := (Relation.holds_iff .lt).mp hab
    obtain ⟨o', ho', hlt'⟩ := (Relation.holds_iff .lt).mp hbc
    obtain rfl : o = .lt := by simpa [Relation.accepts] using hlt
    obtain rfl : o' = .lt := by simpa [Relation.accepts] using hlt'
    exact (Relation.holds_iff .lt).mpr ⟨.lt, Value.order_trans ho ho' ha hb hc, rfl⟩

/-- Three lists that begin alike: the second one has a greater item, the third
one more items. -/
theorem three_lists_in_order :
    ∃ a b c : Value, a = .list [.null, .bool true, .int 2]
      ∧ b = .list [.null, .int 1, .float (Double.mk 0x4004000000000000)]
      ∧ c = .list [.null, .float (Double.mk 0x3FF0000000000000), .float (Double.mk 0x4004000000000000), .text "x"]
      ∧ Relation.lt.Holds a b ∧ Relation.lt.Holds b c ∧ Relation.lt.Holds a c
      ∧ (∀ r : Relation, ¬ r.Refuses a b) ∧ Function.relate .gt a b = Function.relate .lt b a := by
  let a : Value := .list [.null, .bool true, .int 2]
  let b : Value := .list [.null, .int 1, .float (Double.mk 0x4004000000000000)]
  let c : Value :=
    .list [.null, .float (Double.mk 0x3FF0000000000000), .float (Double.mk 0x4004000000000000), .text "x"]
  have hkeyed : a.Keyed ∧ b.Keyed ∧ c.Keyed := by simp [a, b, c, Value.keyed_leaf]
  have hleaf : (⟨0x4004000000000000⟩ : Double).isNaN = false := by decide +kernel
  have hnan : a.NaNFree ∧ b.NaNFree := by
    simp [a, b, Value.NaNFree, Value.throughout_list, Value.throughout_leaf, Value.isNaN, hleaf]
  have hab : a.order b = .ordered .lt := by decide +kernel
  have hbc : b.order c = .ordered .lt := by decide +kernel
  obtain ⟨-, -, -, -, hlaws, -, htrans⟩ :=
    ordering_operations_are_one_order c hkeyed.1 hkeyed.2.1 hkeyed.2.2 hnan.1 hnan.2
  have hlt : Relation.lt.Holds a b := (Relation.holds_of_ordered .lt hab).mpr rfl
  have hlt' : Relation.lt.Holds b c := (Relation.holds_of_ordered .lt hbc).mpr rfl
  have hnone (r : Relation) : ¬ r.Refuses a b := by
    rw [Relation.refuses_iff, hab]
    simp
  exact ⟨a, b, c, rfl, rfl, rfl, hlt, hlt', htrans hlt hlt', hnone, (hlaws rfl rfl .lt (hnone .lt)).2.2.2⟩

end Rulebook
