-- Operations stored over those of a registry. Entries of a mapping go by their
-- keys: one that is there keeps its place, the others follow, and storing two
-- mappings one after the other is storing one over the other first. The operations
-- of a registry go by the names that they carry, whatever they are registered under.
import Rulebook.Proofs.Extending

namespace Rulebook

namespace Mapping

variable {κ α β : Type} [BEq κ]

/-- Two mappings with the same keys in the same order, and related values. -/
def Parallel (R : κ → α → β → Prop) (m : List (κ × α)) (d : List (κ × β)) : Prop :=
  List.Forall₂ (fun e f => e.1 = f.1 ∧ R f.1 e.2 f.2) m d

namespace Parallel

variable {R : κ → α → β → Prop} {m m' : List (κ × α)} {d d' : List (κ × β)}

theorem put [LawfulBEq κ] (h : Parallel R m d) {k : κ} {v : α} {w : β} (hvw : R k v w) :
    Parallel R (put k v m) (put k w d) := by
  unfold Parallel at h
  induction h with
  | nil => exact .cons ⟨rfl, hvw⟩ .nil
  | @cons e f m d hef hrest ih =>
    obtain ⟨k', x⟩ := e
    obtain ⟨l', y⟩ := f
    obtain ⟨rfl, hxy⟩ := hef
    unfold Mapping.put
    by_cases hk : k' == k
    · obtain rfl := eq_of_beq hk
      rw [if_pos hk, if_pos hk]
      exact .cons ⟨rfl, hvw⟩ hrest
    · rw [if_neg hk, if_neg hk]
      exact .cons ⟨rfl, hxy⟩ ih

theorem overlay [LawfulBEq κ] (h : Parallel R m d) (h' : Parallel R m' d') :
    Parallel R (overlay m m') (overlay d d') := by
  unfold Parallel at h'
  induction h' generalizing m d with
  | nil => exact h
  | @cons e f m' d' hef _ ih =>
    obtain ⟨k, v⟩ := e
    obtain ⟨l, w⟩ := f
    obtain ⟨rfl, hvw⟩ := hef
    exact ih (h.put hvw)

theorem ofEntries [LawfulBEq κ] (h : Parallel R m d) : Parallel R (ofEntries m) (ofEntries d) := by
  have hnone : Parallel R ([] : List (κ × α)) ([] : List (κ × β)) := .nil
  exact hnone.overlay h

omit [BEq κ] in
theorem keys_eq (h : Parallel R m d) : keys m = keys d :=
  map_eq_of_forall₂ h fun _ _ hef => hef.1

theorem distinct (h : Parallel R m d) (hm : Distinct m) : Distinct d := by
  have hkeys : (keys d).Pairwise fun a b => (a == b) = false := by
    rw [← h.keys_eq]
    exact List.pairwise_map.mpr hm
  exact List.pairwise_map.mp hkeys

theorem get? [LawfulBEq κ] (h : Parallel R m d) (k : κ) :
    Option.Rel (R k) (get? k m) (get? k d) := by
  unfold Parallel at h
  induction h with
  | nil => exact .none
  | @cons e f m d hef _ ih =>
    obtain ⟨k', v⟩ := e
    obtain ⟨l', w⟩ := f
    obtain ⟨rfl, hvw⟩ := hef
    unfold Mapping.get?
    by_cases hk : k' == k
    · rw [if_pos hk, if_pos hk]
      obtain rfl := eq_of_beq hk
      exact .some hvw
    · rw [if_neg hk, if_neg hk]
      exact ih

end Parallel

theorem keys_put (k : κ) (v : α) (m : List (κ × α)) :
    keys (put k v m) = if contains k m then keys m else keys m ++ [k] := by
  induction m with
  | nil => rfl
  | cons e rest ih =>
    obtain ⟨k', w⟩ := e
    unfold Mapping.put
    by_cases hk : k' == k
    · simp [keys, contains, hk]
    · unfold keys contains at ih ⊢
      simp only [hk, Bool.false_eq_true, if_false, List.map_cons, List.any_cons, Bool.false_or]
      rw [ih]
      split <;> rfl

/-- Keys keep their places, and new ones follow in their order. -/
theorem keys_overlay [EquivBEq κ] (m : List (κ × α)) {d : List (κ × α)} (hd : Distinct d) :
    keys (overlay m d) = keys m ++ (keys d).filter fun k => !contains k m := by
  induction d generalizing m with
  | nil => exact (List.append_nil _).symm
  | cons e d ih =>
    obtain ⟨k, v⟩ := e
    unfold Distinct at hd ih
    rw [List.pairwise_cons] at hd
    have hstep : overlay m ((k, v) :: d) = overlay (put k v m) d := rfl
    have hcons : keys ((k, v) :: d) = k :: keys d := rfl
    -- none of the later keys is the one that has just been stored
    have hlater : (keys d).filter (fun k' => !contains k' (put k v m))
        = (keys d).filter fun k' => !contains k' m := by
      refine List.filter_congr fun k' hk' => ?_
      obtain ⟨e, he, rfl⟩ := List.mem_map.mp hk'
      rw [contains_put, hd.1 e he, Bool.false_or]
    rw [hstep, ih _ hd.2, hlater, keys_put, hcons]
    by_cases hk : contains k m = true
    · simp [hk]
    · simp [hk]

end Mapping

namespace Entry

/-- The factory that an entry offers, if it offers one. -/
def factory? : Entry → Option Factory
  | .factory f _ => some f
  | .operation o => some o.factory
  | .other _ => none

/-- The name that an entry carries under a key: an operation has its own. -/
def carried (name : String) : Entry → String
  | .operation o => o.name
  | _ => name

/-- The entries of a mapping under the names that they carry. -/
def asCarried (entries : List (String × Entry)) : List (String × Entry) :=
  Mapping.ofEntries (entries.map fun e => (e.2.carried e.1, e.2))

end Entry

namespace Registry

/-! ## Entries as operations -/

/-- A mapping of entries that is accepted as one of operations. -/
abbrev Accepts : List (String × Entry) → List (String × Operation) → Prop :=
  Mapping.Parallel fun name e o => accept name e = .ok o

section Accepts

variable {name : String} {e : Entry} {o : Operation} {a : List (String × Entry)}
  {ops : List (String × Operation)}

theorem factory_of_accept (h : accept name e = .ok o) : e.factory? = some o.factory := by
  cases e with
  | factory f description =>
    obtain rfl := Except.ok.inj h
    rfl
  | operation o' =>
    obtain rfl := Except.ok.inj h
    rfl
  | other t => cases h

theorem carried_of_accept (h : accept name e = .ok o) :
    o.name = e.carried name ∧ accept o.name e = .ok o := by
  cases e with
  | factory f description =>
    obtain rfl := Except.ok.inj h
    exact ⟨rfl, rfl⟩
  | operation o' =>
    obtain rfl := Except.ok.inj h
    exact ⟨rfl, rfl⟩
  | other t => cases h

theorem accepts_entries (r : Registry) : Accepts r.entries r.operations := by
  unfold Accepts Mapping.Parallel entries
  rw [List.forall₂_map_left_iff]
  exact List.forall₂_same.mpr fun _ _ => ⟨rfl, rfl⟩

theorem accepts_of_ofEntries (h : ofEntries a = .ok ⟨ops⟩) : Accepts a ops := by
  unfold ofEntries at h
  obtain ⟨ops', hops, hr⟩ := bind_ok h
  obtain rfl := Registry.mk.inj (Except.ok.inj hr)
  refine (mapM_ok hops).imp fun e o heo => ?_
  obtain ⟨o', ho', ho⟩ := bind_ok heo
  obtain rfl := Except.ok.inj ho
  exact ⟨rfl, ho'⟩

theorem ofEntries_accepts (h : Accepts a ops) : ofEntries a = .ok ⟨ops⟩ := by
  have hops : (a.mapM fun e => do return (e.1, ← accept e.1 e.2)) = ops.mapM pure := by
    refine mapM_eq_of_forall₂ h fun e o heo => ?_
    obtain ⟨hname, haccept⟩ := heo
    rw [hname, haccept]
    rfl
  unfold ofEntries
  rw [hops, List.mapM_pure, List.map_id']
  rfl

/-- Entries are stored as operations. -/
theorem merged_accepts (r : Registry) (h : Accepts a ops) :
    r.merged a = .ok ⟨Mapping.overlay r.operations ops⟩ := by
  unfold merged
  split
  · rename_i hempty
    obtain rfl := List.isEmpty_iff.mp hempty
    cases h
    rfl
  · exact ofEntries_accepts (r.accepts_entries.overlay h)

theorem accepts_asCarried (h : Accepts a ops) :
    Accepts (Entry.asCarried a) (Mapping.ofEntries (ops.map fun e => (e.2.name, e.2))) := by
  have hnamed : Accepts (a.map fun e => (e.2.carried e.1, e.2)) (ops.map fun e => (e.2.name, e.2)) := by
    unfold Accepts Mapping.Parallel
    rw [List.forall₂_map_left_iff, List.forall₂_map_right_iff]
    refine h.imp fun e o heo => ?_
    obtain ⟨hname, haccept⟩ := heo
    obtain ⟨hcarried, hagain⟩ := carried_of_accept haccept
    exact ⟨by rw [hname, hcarried], hagain⟩
  exact hnamed.ofEntries

/-- The operations of a registry are stored under the names that they carry. -/
theorem mergedWith_accepts (r : Registry) (h : Accepts a ops) :
    r.mergedWith ⟨ops⟩ = r.merged (Entry.asCarried a) := by
  have hops : Accepts (ops.map fun e => (e.2.name, .operation e.2)) (ops.map fun e => (e.2.name, e.2)) := by
    unfold Accepts Mapping.Parallel
    rw [List.forall₂_map_left_iff, List.forall₂_map_right_iff]
    exact List.forall₂_same.mpr fun _ _ => ⟨rfl, rfl⟩
  unfold mergedWith
  rw [merged_accepts r hops.ofEntries, merged_accepts r (accepts_asCarried h)]

theorem asCarried_eq (ha : Mapping.Distinct a) (h : ∀ e ∈ a, e.2.carried e.1 = e.1) :
    Entry.asCarried a = a := by
  have hsame : (a.map fun e => (e.2.carried e.1, e.2)) = a.map id := by
    refine List.map_congr_left fun e he => ?_
    rw [h e he]
    rfl
  rw [Entry.asCarried, hsame, List.map_id, Mapping.ofEntries_of_distinct ha]

end Accepts

theorem factory?_eq (r : Registry) (name : String) :
    r.factory? (.text name) = (Mapping.get? name r.operations).map Operation.factory := rfl

theorem contains_keys (name : String) (ops : List (String × Operation)) :
    Mapping.contains name ops = (Mapping.keys ops).contains name := by
  unfold Mapping.contains Mapping.keys
  rw [List.contains_eq_any_beq, List.any_map]
  exact congrArg (List.any ops) (funext fun e => BEq.comm)

/-- Operations of a mapping are stored under its keys: they are found there, all
others are found as before, and names keep their order with the new ones behind them.
Storing two mappings one after the other is storing the second over the first. Out of
a registry of the same entries they are stored under the names that they carry, which
comes to the same where each is registered under its own name. -/
theorem overriding_goes_by_name (r : Registry) (a : List (String × Entry)) (ha : Mapping.Distinct a)
    (hvalid : ∀ e ∈ a, e.2.Valid) :
    ∃ s m, ofEntries a = .ok s ∧ r.merged a = .ok m
      ∧ s.names = Mapping.keys a
      ∧ (∀ n, s.factory? (.text n) = (Mapping.get? n a).bind Entry.factory?)
      ∧ (∀ n, m.factory? (.text n) = (s.factory? (.text n)).or (r.factory? (.text n)))
      ∧ m.names = r.names ++ s.names.filter (fun n => !r.names.contains n)
      ∧ r.mergedWith s = r.merged (Entry.asCarried a)
      ∧ ((∀ e ∈ a, e.2.carried e.1 = e.1) → r.mergedWith s = .ok m)
      ∧ ∀ b, Mapping.Distinct b → (∀ e ∈ b, e.2.Valid) →
        ∃ m', m.merged b = .ok m' ∧ r.merged (Mapping.overlay a b) = .ok m' := by
  obtain ⟨⟨ops⟩, hs⟩ := ofEntries_valid hvalid
  have hops := accepts_of_ofEntries hs
  have hdistinct := hops.distinct ha
  refine ⟨⟨ops⟩, ⟨Mapping.overlay r.operations ops⟩, hs, r.merged_accepts hops, hops.keys_eq.symm,
    fun n => ?_, fun n => ?_, ?_, r.mergedWith_accepts hops, fun hcarried => ?_, fun b hb hbvalid => ?_⟩
  · have hfound := hops.get? n
    rw [factory?_eq]
    cases hentry : Mapping.get? n a <;> cases hop : Mapping.get? n ops <;> rw [hentry, hop] at hfound
    · rfl
    · cases hfound
    · cases hfound
    · cases hfound with
      | some haccept => exact (factory_of_accept haccept).symm
  · simp only [factory?_eq, Mapping.get?_overlay, Mapping.get?_reverse n hdistinct]
    cases Mapping.get? n ops <;> rfl
  · unfold names
    rw [Mapping.keys_overlay _ hdistinct]
    simp only [contains_keys]
  · rw [r.mergedWith_accepts hops, asCarried_eq ha hcarried, r.merged_accepts hops]
  · obtain ⟨⟨ops'⟩, hs'⟩ := ofEntries_valid hbvalid
    have hops' := accepts_of_ofEntries hs'
    refine ⟨_, merged_accepts _ hops', ?_⟩
    rw [r.merged_accepts (hops.overlay hops'), Mapping.overlay_assoc _ _ hdistinct]

/-- An operation that is registered under its own name, and one that takes the
place of a standard one. -/
theorem one_operation_replaced_and_one_added :
    ∃ s m, ofEntries [("upper", .operation ⟨"upper", true, .string, Extension.upperFactory, ""⟩),
          ("concat", .factory (.complex "count" none Extension.count) "")] = .ok s
      ∧ standard.mergedWith s = .ok m
      ∧ m.factory? (.text "upper") = some Extension.upperFactory
      ∧ m.factory? (.text "concat") = some (.complex "count" none Extension.count)
      ∧ m.factory? (.text "join") = standard.factory? (.text "join")
      ∧ m.names = standard.names ++ ["upper"]
      ∧ ∃ m', m.merged [("upper", .factory (.debug none) "")] = .ok m'
        ∧ m'.factory? (.text "upper") = some (.debug none) := by
  obtain ⟨s, m, hs, -, hnames, hfound, hlookup, horder, -, hsame, -⟩ := overriding_goes_by_name standard
    [("upper", .operation ⟨"upper", true, .string, Extension.upperFactory, ""⟩),
      ("concat", .factory (.complex "count" none Extension.count) "")] (by decide) (by simp [Entry.Valid])
  obtain ⟨s', m', hs', hm', -, hfound', hlookup', -⟩ := overriding_goes_by_name m
    [("upper", .factory (.debug none) "")] (by decide) (by simp [Entry.Valid])
  refine ⟨s, m, hs, hsame (by simp [Entry.carried]), ?_, ?_, ?_, ?_, m', hm', ?_⟩
  · rw [hlookup, hfound]
    rfl
  · rw [hlookup, hfound]
    rfl
  · rw [hlookup, hfound]
    rfl
  · rw [horder, hnames]
    rfl
  · rw [hlookup', hfound']
    rfl

/-- What is registered under another name than its own cannot be found there any
more once its registry is stored over another one. -/
theorem operation_under_another_name_is_not_found :
    ∃ s m, ofEntries [("shout", .operation ⟨"upper", true, .string, Extension.upperFactory, "Upper-case"⟩)]
          = .ok s
      ∧ s.factory? (.text "shout") = some Extension.upperFactory
      ∧ standard.mergedWith s = .ok m
      ∧ m.factory? (.text "shout") = none
      ∧ m.factory? (.text "upper") = some Extension.upperFactory
      ∧ m.names = standard.names ++ ["upper"] := by
  exact ⟨_, _, rfl, rfl, rfl, rfl, rfl, rfl⟩

end Registry

end Rulebook
