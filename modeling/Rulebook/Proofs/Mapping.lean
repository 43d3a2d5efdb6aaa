-- The laws of ordered mappings: what a stored entry changes, and what a
-- mapping stored over another one leaves. Storing all entries of a list is
-- the same as storing the mapping that the list describes.
import Rulebook.Value.Basic

namespace Rulebook

instance : EquivBEq Key where
  rfl := by intro a; simp [BEq.beq]
  symm := by intro a b h; simpa [BEq.beq, eq_comm] using h
  trans := by
    intro a b c hab hbc
    simp only [BEq.beq, decide_eq_true_eq] at hab hbc ⊢
    rw [hab, hbc]

namespace Mapping

variable {κ : Type} {α : Type} [BEq κ]

/-- No two keys of a mapping agree. -/
def Distinct (m : List (κ × α)) : Prop := m.Pairwise fun a b => (a.1 == b.1) = false

instance (m : List (κ × α)) : Decidable (Distinct m) :=
  inferInstanceAs (Decidable (m.Pairwise fun a b => (a.1 == b.1) = false))

/-! ## What is stored -/

/-- The entries after storing one: the same ones, the new one, or one with
another value. -/
theorem mem_put {k : κ} {v : α} {m : List (κ × α)} {e : κ × α} (h : e ∈ put k v m) :
    e ∈ m ∨ e = (k, v) ∨ ∃ u ∈ m, e = (u.1, v) := by
  induction m with
  | nil => exact Or.inr (Or.inl (by simpa [put] using h))
  | cons e' rest ih =>
    obtain ⟨k', w⟩ := e'
    unfold put at h
    split at h
    · rcases List.mem_cons.mp h with rfl | h
      · exact Or.inr (Or.inr ⟨(k', w), by simp, rfl⟩)
      · exact Or.inl (List.mem_cons_of_mem _ h)
    · rcases List.mem_cons.mp h with rfl | h
      · exact Or.inl (by simp)
      · rcases ih h with h | h | ⟨u, hu, rfl⟩
        · exact Or.inl (List.mem_cons_of_mem _ h)
        · exact Or.inr (Or.inl h)
        · exact Or.inr (Or.inr ⟨u, List.mem_cons_of_mem _ hu, rfl⟩)

/-- Overlaying makes no new values. -/
theorem mem_overlay {m d : List (κ × α)} {e : κ × α} (h : e ∈ overlay m d) :
    ∃ u ∈ m ++ d, u.2 = e.2 := by
  induction d generalizing m with
  | nil => exact ⟨e, List.mem_append_left _ h, rfl⟩
  | cons e' rest ih =>
    obtain ⟨u, hu, heq⟩ := ih h
    rw [← heq]
    rcases List.mem_append.mp hu with hu | hu
    · rcases mem_put hu with hu | rfl | ⟨w, _, rfl⟩
      · exact ⟨u, by simp [hu], rfl⟩
      · exact ⟨e', by simp, rfl⟩
      · exact ⟨e', by simp, rfl⟩
    · exact ⟨u, by simp [hu], rfl⟩

/-- What is found is stored under a key that agrees. -/
theorem entry_of_get? {k : κ} {v : α} {m : List (κ × α)} (h : get? k m = some v) :
    ∃ e ∈ m, (e.1 == k) = true ∧ e.2 = v := by
  induction m with
  | nil => cases h
  | cons e rest ih =>
    unfold get? at h
    split at h
    · rename_i hk
      exact ⟨e, by simp, hk, Option.some.inj h⟩
    · obtain ⟨u, hu, hk, heq⟩ := ih h
      exact ⟨u, List.mem_cons_of_mem _ hu, hk, heq⟩

theorem mem_of_get? {k : κ} {v : α} {m : List (κ × α)} (h : get? k m = some v) :
    ∃ e ∈ m, e.2 = v := by
  obtain ⟨e, he, -, heq⟩ := entry_of_get? h
  exact ⟨e, he, heq⟩

theorem not_mem_of_get? {k : κ} {m : List (κ × α)} (h : get? k m = none) :
    ∀ e ∈ m, (e.1 == k) = false := by
  induction m with
  | nil => simp
  | cons e rest ih =>
    unfold get? at h
    split at h
    · cases h
    · rename_i hk
      intro x hx
      rcases List.mem_cons.mp hx with rfl | hx
      · simpa using hk
      · exact ih h x hx

theorem put_of_not_contains {k : κ} {v : α} {m : List (κ × α)}
    (h : ∀ e ∈ m, (e.1 == k) = false) : put k v m = m ++ [(k, v)] := by
  induction m with
  | nil => rfl
  | cons e rest ih =>
    have he := h e (by simp)
    simp [put, he, ih (fun x hx => h x (List.mem_cons_of_mem _ hx))]

theorem distinct_put (k : κ) (v : α) {m : List (κ × α)} (h : Distinct m) :
    Distinct (put k v m) := by
  induction m with
  | nil => simp [put, Distinct]
  | cons e rest ih =>
    obtain ⟨k', w⟩ := e
    unfold Distinct at h ih
    rw [List.pairwise_cons] at h
    unfold put
    by_cases hk : k' == k
    · rw [if_pos hk]
      exact List.pairwise_cons.mpr h
    · rw [if_neg hk]
      refine List.pairwise_cons.mpr ⟨?_, ih h.2⟩
      intro b hb
      rcases mem_put hb with hb | rfl | ⟨u, hu, heq⟩
      · exact h.1 b hb
      · simpa using hk
      · simpa [heq] using h.1 u hu

theorem distinct_overlay {m : List (κ × α)} (d : List (κ × α)) (h : Distinct m) :
    Distinct (overlay m d) := by
  induction d generalizing m with
  | nil => exact h
  | cons e rest ih => exact ih (distinct_put e.1 e.2 h)

theorem distinct_ofEntries (d : List (κ × α)) : Distinct (ofEntries d) :=
  distinct_overlay d List.Pairwise.nil

theorem overlay_disjoint {m d : List (κ × α)} (h : Distinct (m ++ d)) :
    overlay m d = m ++ d := by
  induction d generalizing m with
  | nil => simp [overlay]
  | cons e rest ih =>
    have hput : put e.1 e.2 m = m ++ [e] := by
      apply put_of_not_contains
      unfold Distinct at h
      rw [List.pairwise_append] at h
      intro x hx
      exact h.2.2 x hx e (by simp)
    have := ih (m := m ++ [e]) (by simpa using h)
    simp only [overlay, List.foldl_cons] at this ⊢
    rw [hput, this]
    simp

/-- A mapping stored into the empty one is that mapping. -/
theorem ofEntries_of_distinct {d : List (κ × α)} (h : Distinct d) : ofEntries d = d :=
  overlay_disjoint (m := []) h

theorem get?_append (k : κ) (a b : List (κ × α)) :
    get? k (a ++ b) = (get? k a).or (get? k b) := by
  induction a with
  | nil => simp [get?]
  | cons e rest ih =>
    obtain ⟨k', v⟩ := e
    simp only [List.cons_append, get?, ih]
    split <;> simp

/-! ## One entry stored -/

variable [EquivBEq κ]

@[simp]
theorem get?_put (k key : κ) (v : α) (m : List (κ × α)) :
    get? k (put key v m) = if key == k then some v else get? k m := by
  induction m with
  | nil => simp [put, get?]
  | cons e rest ih =>
    obtain ⟨k', w⟩ := e
    unfold put
    by_cases hk : k' == key
    · rw [if_pos hk]
      simp only [get?, BEq.congr_left hk]
      split <;> rfl
    · rw [if_neg hk]
      simp only [get?, ih]
      by_cases hk' : k' == k
      · have hne : (key == k) = false := by
          rw [← BEq.congr_right hk', BEq.comm]
          simpa using hk
        simp [hk', hne]
      · simp [hk']

theorem get?_erase {k key : κ} (h : (key == k) = false) (m : List (κ × α)) :
    get? k (erase key m) = get? k m := by
  induction m with
  | nil => rfl
  | cons e rest ih =>
    obtain ⟨k', w⟩ := e
    unfold erase at ih ⊢
    by_cases hk : k' == key
    · have hne : (k' == k) = false := by rwa [BEq.congr_left hk]
      simp only [List.filter_cons, hk, Bool.not_true, Bool.false_eq_true, if_false, get?, hne]
      exact ih
    · simp only [List.filter_cons, hk, Bool.not_false, if_true, get?, ih]

theorem contains_put (k key : κ) (v : α) (m : List (κ × α)) :
    contains k (put key v m) = (key == k || contains k m) := by
  induction m with
  | nil => simp [put, contains]
  | cons e rest ih =>
    obtain ⟨k', w⟩ := e
    unfold put
    by_cases hk : k' == key
    · rw [if_pos hk]
      simp [contains, BEq.congr_left hk]
    · rw [if_neg hk]
      simp only [contains, List.any_cons] at ih ⊢
      rw [ih]
      exact Bool.or_left_comm _ _ _

/-- Of two values stored under one key the later one counts. -/
theorem put_put {k key : κ} (h : k == key) (v w : α) (m : List (κ × α)) :
    put key v (put k w m) = put k v m := by
  induction m with
  | nil => simp [put, h]
  | cons e rest ih =>
    obtain ⟨k', u⟩ := e
    have hk : (k' == k) = (k' == key) := BEq.congr_right h
    by_cases hk' : k' == key
    · simp [put, hk, hk']
    · simp [put, hk, hk', ih]

/-- Entries under other keys can be stored later, once the key has a place. -/
theorem put_comm {k key : κ} (hne : (k == key) = false) (v w : α) (m : List (κ × α))
    (h : contains k m = true) : put k v (put key w m) = put key w (put k v m) := by
  induction m with
  | nil => simp [contains] at h
  | cons e rest ih =>
    obtain ⟨k', u⟩ := e
    by_cases hk : k' == k
    · have hk' : (k' == key) = false := by rw [BEq.congr_left hk, hne]
      simp [put, hk, hk']
    · by_cases hk' : k' == key
      · simp [put, hk, hk']
      · simp only [contains, List.any_cons, hk, Bool.false_or] at h
        simp [put, hk, hk', ih h]

/-! ## One mapping over another -/

theorem overlay_put_left {k : κ} (v : α) {m : List (κ × α)} (d : List (κ × α))
    (h : contains k m = true) (hd : ∀ e ∈ d, (k == e.1) = false) :
    overlay (put k v m) d = put k v (overlay m d) := by
  induction d generalizing m with
  | nil => rfl
  | cons e rest ih =>
    have he := hd e (by simp)
    have hrest := ih (m := put e.1 e.2 m) (by simp [contains_put, h])
      (fun x hx => hd x (List.mem_cons_of_mem _ hx))
    simp only [overlay, List.foldl_cons] at hrest ⊢
    rw [← hrest, put_comm he v e.2 m h]

theorem overlay_put {k : κ} (v : α) (m : List (κ × α)) {d : List (κ × α)} (h : Distinct d) :
    overlay m (put k v d) = put k v (overlay m d) := by
  induction d generalizing m with
  | nil => rfl
  | cons e rest ih =>
    obtain ⟨k', w⟩ := e
    unfold Distinct at h ih
    rw [List.pairwise_cons] at h
    by_cases hk : k' == k
    · -- the entry keeps its place, and nothing after it has its key
      have hrest : ∀ e ∈ rest, (k == e.1) = false := by
        intro e he
        rw [← BEq.congr_left hk]
        exact h.1 e he
      have hput := overlay_put_left v (m := put k' w m) rest
        (by simp [contains_put, hk]) hrest
      simp only [put, hk, if_true, overlay, List.foldl_cons] at hput ⊢
      rw [← hput, put_put hk]
    · simp only [put, hk, Bool.false_eq_true, if_false, overlay, List.foldl_cons] at ih ⊢
      exact ih _ h.2

/-- Overlaying is associative. -/
theorem overlay_assoc (a : List (κ × α)) {b : List (κ × α)} (c : List (κ × α)) (h : Distinct b) :
    overlay a (overlay b c) = overlay (overlay a b) c := by
  induction c generalizing b with
  | nil => rfl
  | cons e rest ih =>
    have := ih (distinct_put e.1 e.2 h)
    simp only [overlay, List.foldl_cons] at this ⊢
    rw [this]
    exact congrArg (fun m => List.foldl _ m rest) (overlay_put e.2 a h)

theorem overlay_ofEntries (m d : List (κ × α)) : overlay m (ofEntries d) = overlay m d :=
  overlay_assoc m d List.Pairwise.nil

/-! ## Looking up -/

/-- The last entry stored under a key is the one that is found. -/
theorem get?_overlay (k : κ) (m d : List (κ × α)) :
    get? k (overlay m d) = (get? k d.reverse).or (get? k m) := by
  induction d generalizing m with
  | nil => simp [overlay, get?]
  | cons e rest ih =>
    have := ih (put e.1 e.2 m)
    simp only [overlay, List.foldl_cons] at this ⊢
    rw [this, get?_put, List.reverse_cons, get?_append]
    simp only [get?]
    cases get? k rest.reverse <;> split <;> simp

theorem get?_ofEntries (k : κ) (d : List (κ × α)) : get? k (ofEntries d) = get? k d.reverse := by
  rw [ofEntries, get?_overlay]
  simp [get?]

/-- In a mapping the first entry under a key is also the last one. -/
theorem get?_reverse (k : κ) {m : List (κ × α)} (h : Distinct m) : get? k m.reverse = get? k m := by
  rw [← get?_ofEntries, ofEntries_of_distinct h]

theorem get?_congr {k k' : κ} (h : (k == k') = true) (m : List (κ × α)) : get? k m = get? k' m := by
  induction m with
  | nil => rfl
  | cons e rest ih => simp only [get?, BEq.congr_right h, ih]

theorem get?_of_mem {m : List (κ × α)} (h : Distinct m) {e : κ × α} (he : e ∈ m) :
    get? e.1 m = some e.2 := by
  unfold Distinct at h
  induction m with
  | nil => cases he
  | cons e' rest ih =>
    rw [List.pairwise_cons] at h
    rcases List.mem_cons.mp he with rfl | he
    · simp [get?]
    · simp [get?, h.1 e he, ih h.2 he]

/-- A mapping with all keys of another one, but no more entries than that, has
no other keys. -/
theorem keys_agree {β : Type} {m : List (κ × α)} (hm : Distinct m) {d : List (κ × β)}
    (hlength : d.length ≤ m.length) (h : ∀ e ∈ m, ∃ w, get? e.1 d = some w) :
    ∀ e ∈ d, ∃ v, get? e.1 m = some v := by
  unfold Distinct at hm
  -- each entry of the first mapping takes its key out of the second one
  induction m generalizing d with
  | nil =>
    intro x hx
    rw [List.length_eq_zero_iff.mp (Nat.le_zero.mp hlength)] at hx
    cases hx
  | cons e rest ih =>
    rw [List.pairwise_cons] at hm
    intro x hx
    by_cases hk : (e.1 == x.1) = true
    · exact ⟨e.2, by simp [get?, hk]⟩
    · obtain ⟨w, hw⟩ := h e (by simp)
      obtain ⟨u, hu, hue, -⟩ := entry_of_get? hw
      have hshort : (erase e.1 d).length < d.length :=
        List.length_filter_lt_length_iff_exists.mpr ⟨u, hu, by simp [hue]⟩
      have hle : (erase e.1 d).length ≤ rest.length := by
        rw [List.length_cons] at hlength
        omega
      have hrest : ∀ e' ∈ rest, ∃ w, get? e'.1 (erase e.1 d) = some w := by
        intro e' he'
        rw [get?_erase (hm.1 e' he')]
        exact h e' (List.mem_cons_of_mem _ he')
      have hkept : x ∈ erase e.1 d := by
        refine List.mem_filter.mpr ⟨hx, ?_⟩
        rw [BEq.comm]
        simpa using hk
      obtain ⟨v, hv⟩ := ih hm.2 hle hrest x hkept
      exact ⟨v, by simp [get?, hk, hv]⟩

omit [EquivBEq κ] in
theorem get?_eq_none {k : κ} {m : List (κ × α)} (h : ∀ e ∈ m, (e.1 == k) = false) :
    get? k m = none := by
  induction m with
  | nil => rfl
  | cons e rest ih =>
    rw [get?, h e (by simp), if_neg (by simp)]
    exact ih fun x hx => h x (List.mem_cons_of_mem _ hx)

omit [EquivBEq κ] in
theorem get?_of_not_contains {k : κ} {m : List (κ × α)} (h : contains k m = false) : get? k m = none := by
  apply get?_eq_none
  simpa [contains] using h

theorem put_of_contains {k : κ} (v : α) {m : List (κ × α)} (hm : Distinct m)
    (h : contains k m = true) : put k v m = m.map fun e => if e.1 == k then (e.1, v) else e := by
  induction m with
  | nil => simp [contains] at h
  | cons e rest ih =>
    obtain ⟨k', w⟩ := e
    unfold Distinct at hm ih
    rw [List.pairwise_cons] at hm
    by_cases hk : k' == k
    · -- no other entry has this key
      have hrest : rest.map (fun e => if e.1 == k then (e.1, v) else e) = rest.map id := by
        refine List.map_congr_left fun e he => ?_
        have hne : (e.1 == k) = false := by
          rw [BEq.comm, ← BEq.congr_left hk]
          exact hm.1 e he
        rw [if_neg (by simp [hne])]
        rfl
      simp [put, hk, hrest]
    · simp only [contains, List.any_cons, hk, Bool.false_or] at h
      simp [put, hk, ih hm.2 h]

/-- A key of both mappings keeps its place and takes the value of the second;
the other entries of the second follow in their order. -/
theorem overlay_eq {m d : List (κ × α)} (hm : Distinct m) (hd : Distinct d) :
    overlay m d = (m.map fun e => (e.1, (get? e.1 d).getD e.2))
      ++ d.filter fun e => !contains e.1 m := by
  induction d generalizing m with
  | nil => simp [overlay, get?]
  | cons e d ih =>
    obtain ⟨k, v⟩ := e
    unfold Distinct at hd ih
    rw [List.pairwise_cons] at hd
    have hstep : overlay m ((k, v) :: d) = overlay (put k v m) d := rfl
    have hfresh (x : κ) (hx : x == k) : get? x d = none := by
      refine get?_eq_none fun e he => ?_
      rw [BEq.congr_right hx, BEq.comm]
      exact hd.1 e he
    have hkeep : d.filter (fun e => !contains e.1 (put k v m)) = d.filter fun e => !contains e.1 m := by
      refine List.filter_congr fun e he => ?_
      rw [contains_put, hd.1 e he, Bool.false_or]
    rw [hstep, ih (distinct_put k v hm) hd.2, hkeep]
    by_cases hk : contains k m = true
    · have hmap : (put k v m).map (fun e => (e.1, (get? e.1 d).getD e.2))
          = m.map fun e => (e.1, (get? e.1 ((k, v) :: d)).getD e.2) := by
        rw [put_of_contains v hm hk, List.map_map]
        refine List.map_congr_left fun e _ => ?_
        by_cases he : e.1 == k
        · simp [get?, he, hfresh e.1 he, BEq.symm he]
        · have hne : (k == e.1) = false := by rw [BEq.comm]; simpa using he
          simp [get?, he, hne]
      rw [hmap, List.filter_cons_of_neg (by simp [hk])]
    · have hnot : ∀ e ∈ m, (e.1 == k) = false := by
        simpa [contains] using hk
      have hmap : m.map (fun e => (e.1, (get? e.1 d).getD e.2))
          = m.map fun e => (e.1, (get? e.1 ((k, v) :: d)).getD e.2) := by
        refine List.map_congr_left fun e he => ?_
        have hne : (k == e.1) = false := by rw [BEq.comm]; exact hnot e he
        simp [get?, hne]
      rw [put_of_not_contains hnot, List.map_append, hmap, List.filter_cons_of_pos (by simp [hk])]
      simp [hfresh k BEq.rfl]

/-! ## Many mappings, each over those before it -/

/-- All mappings of a list, each stored over those before it. -/
def merge (ms : List (List (κ × α))) : List (κ × α) := ms.foldl overlay []

omit [EquivBEq κ] in
theorem distinct_merge (ms : List (List (κ × α))) : Distinct (merge ms) := by
  have hfold (m : List (κ × α)) (hm : Distinct m) : Distinct (ms.foldl overlay m) := by
    induction ms generalizing m with
    | nil => exact hm
    | cons s ms ih => exact ih _ (distinct_overlay s hm)
  exact hfold [] List.Pairwise.nil

/-- Merging onto a mapping is storing the merged ones over it. -/
theorem foldl_overlay (m : List (κ × α)) (ms : List (List (κ × α))) :
    ms.foldl overlay m = overlay m (merge ms) := by
  induction ms generalizing m with
  | nil => rfl
  | cons s ms ih =>
    calc (s :: ms).foldl overlay m = overlay (overlay m s) (merge ms) := ih (overlay m s)
      _ = overlay (overlay m (ofEntries s)) (merge ms) := by rw [overlay_ofEntries]
      _ = overlay m (overlay (ofEntries s) (merge ms)) :=
        (overlay_assoc m (merge ms) (distinct_ofEntries s)).symm
      _ = overlay m (merge (s :: ms)) := by rw [← ih]; rfl

theorem merge_append (as bs : List (List (κ × α))) :
    merge (as ++ bs) = overlay (merge as) (merge bs) := by
  rw [merge, List.foldl_append, foldl_overlay]
  rfl

/-- A run of mappings can be merged first. -/
theorem merge_nested (as bs cs : List (List (κ × α))) :
    merge (as ++ [merge bs] ++ cs) = merge (as ++ bs ++ cs) := by
  have hone : merge [merge bs] = merge bs := ofEntries_of_distinct (distinct_merge bs)
  rw [merge_append, merge_append, merge_append, merge_append, hone]

/-- The last mapping that has a key decides its value. -/
theorem get?_merge (k : κ) (ms : List (List (κ × α))) :
    get? k (merge ms) = ms.reverse.findSome? fun m => get? k m.reverse := by
  induction ms with
  | nil => rfl
  | cons s ms ih =>
    have hcons : merge (s :: ms) = overlay (ofEntries s) (merge ms) := by
      rw [← foldl_overlay]
      rfl
    rw [hcons, get?_overlay, get?_reverse k (distinct_merge ms), get?_ofEntries, ih,
      List.reverse_cons, List.findSome?_append]
    simp

end Mapping
end Rulebook
