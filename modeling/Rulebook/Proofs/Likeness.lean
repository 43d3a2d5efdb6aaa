-- How closely two evaluations are compared: object by object, or as data. As
-- data they are alike if the origins of their numbers are all that differs. A
-- method tells the numbers it belongs to apart, so that a path from alike values
-- leads to alike ones or ends in a method on both sides.
import Rulebook.Node.Evaluate
import Rulebook.Operation.Function
import Rulebook.Proofs.Computation
import Rulebook.Proofs.Unboxed

namespace Rulebook

/-- How closely two evaluations are compared. -/
inductive Likeness where
  /-- Object by object: nothing differs. -/
  | objects
  /-- As data: the origins of numbers may differ, and so may the values inside a
  fault that its message does not tell apart. -/
  | data
deriving DecidableEq

namespace Likeness

def Values : Likeness → Value → Value → Prop
  | .objects, v, w => v = w
  | .data, v, w => v.unboxed = w.unboxed

def Keys : Likeness → Key → Key → Prop
  | .objects, k, l => k = l
  | .data, k, l => k.unboxed = l.unboxed

def Faults : Likeness → Fault → Fault → Prop
  | .objects, e, f => e = f
  | .data, e, f => e.classOf = f.classOf ∧ e.message = f.message

/-- Two entries with alike keys and alike values. -/
def Entries (L : Likeness) (e d : Key × Value) : Prop := L.Keys e.1 d.1 ∧ L.Values e.2 d.2

/-- What can be read in alike values: alike values, or methods. -/
def Reads (L : Likeness) (v w : Value) : Prop :=
  L.Values v w ∨ L = .data ∧ (∃ f, v = .foreign f) ∧ ∃ g, w = .foreign g

variable {L : Likeness}

/-! ## Values -/

theorem values_data {v w : Value} : Likeness.data.Values v w ↔ v.unboxed = w.unboxed := Iff.rfl

theorem values_equivalence (L : Likeness) : Equivalence L.Values := by
  cases L with
  | objects => exact eq_equivalence
  | data => exact ⟨fun _ => rfl, Eq.symm, Eq.trans⟩

theorem faults_equivalence (L : Likeness) : Equivalence L.Faults := by
  cases L with
  | objects => exact eq_equivalence
  | data =>
    refine ⟨fun _ => ⟨rfl, rfl⟩, fun h => ⟨h.1.symm, h.2.symm⟩, fun h h' => ?_⟩
    exact ⟨h.1.trans h'.1, h.2.trans h'.2⟩

theorem Values.refl (v : Value) : L.Values v v := L.values_equivalence.refl v

theorem Values.symm {v w : Value} (h : L.Values v w) : L.Values w v := L.values_equivalence.symm h

theorem Faults.refl (e : Fault) : L.Faults e e := L.faults_equivalence.refl e

theorem Faults.symm {e f : Fault} (h : L.Faults e f) : L.Faults f e := L.faults_equivalence.symm h

theorem Keys.refl (k : Key) : L.Keys k k := by cases L <;> rfl

theorem Keys.toValue {k l : Key} (h : L.Keys k l) : L.Values k.toValue l.toValue := by
  cases L with
  | objects => exact congrArg Key.toValue h
  | data =>
    simp only [Values, Value.unboxed_toValue]
    exact congrArg Key.toValue h

theorem unboxed_alike (v : Value) : Likeness.data.Values v v.unboxed := v.unboxed_unboxed.symm

/-- What does not depend on origins is the same for alike values. -/
theorem Values.congr {α : Type} {f : Value → α} (hf : ∀ v, f v.unboxed = f v) {v w : Value}
    (h : L.Values v w) : f v = f w := by
  cases L with
  | objects => exact congrArg f h
  | data => rw [← hf v, ← hf w, h]

theorem values_list {xs ys : List Value} :
    L.Values (.list xs) (.list ys) ↔ List.Forall₂ L.Values xs ys := by
  cases L with
  | objects =>
    have hvalues : Likeness.objects.Values = Eq := rfl
    rw [hvalues, List.forall₂_eq_eq_eq, Value.list.injEq]
  | data =>
    simp only [Values, Value.unboxed_list, Value.list.injEq]
    rw [← List.forall₂_eq_eq_eq, List.forall₂_map_left_iff, List.forall₂_map_right_iff]
    exact Iff.rfl

theorem values_object {fs gs : Fields} :
    L.Values (.object fs) (.object gs) ↔ List.Forall₂ L.Entries fs gs := by
  cases L with
  | objects =>
    have hentries : Likeness.objects.Entries = Eq := by
      funext e d
      exact propext Prod.ext_iff.symm
    rw [hentries, List.forall₂_eq_eq_eq]
    exact Value.object.injEq fs gs ▸ Iff.rfl
  | data =>
    simp only [Values, Value.unboxed_object, Value.object.injEq]
    rw [← List.forall₂_eq_eq_eq, List.forall₂_map_left_iff, List.forall₂_map_right_iff]
    simp only [Prod.mk.injEq]
    exact Iff.rfl

theorem entries_put {fs gs : Fields} (h : List.Forall₂ L.Entries fs gs) {k l : Key} {v w : Value}
    (hkey : L.Keys k l) (hv : L.Values v w) :
    List.Forall₂ L.Entries (Mapping.put k v fs) (Mapping.put l w gs) := by
  rw [← values_object] at h ⊢
  cases L with
  | objects =>
    obtain rfl := Value.object.inj h
    obtain rfl : k = l := hkey
    obtain rfl : v = w := hv
    rfl
  | data =>
    have hkeys : k.unboxed = l.unboxed := hkey
    simp only [values_data, Value.unboxed, Value.object.injEq] at h hv ⊢
    rw [Value.put_unboxed, Value.put_unboxed, h, hkeys, hv]

/-- Neither a list nor a mapping. -/
def isLeaf : Value → Bool
  | .list _ | .object _ => false
  | _ => true

/-- The forms of alike values. -/
inductive Form (L : Likeness) : Value → Value → Prop
  | list {xs ys : List Value} (h : List.Forall₂ L.Values xs ys) : Form L (.list xs) (.list ys)
  | object {fs gs : Fields} (h : List.Forall₂ L.Entries fs gs) : Form L (.object fs) (.object gs)
  | leaf {v w : Value} (hv : isLeaf v = true) (hw : isLeaf w = true) : Form L v w

theorem Values.form {v w : Value} (h : L.Values v w) : L.Form v w := by
  have hkind := h.congr Value.kind_unboxed
  have hleaf : isLeaf v = isLeaf w := h.congr (f := isLeaf) fun u => by cases u <;> rfl
  cases v with
  | list xs =>
    cases w with
    | list ys => exact .list (values_list.mp h)
    | object gs => cases hkind
    | _ => cases hleaf
  | object fs =>
    cases w with
    | list ys => cases hkind
    | object gs => exact .object (values_object.mp h)
    | _ => cases hleaf
  | _ => exact .leaf rfl hleaf.symm

theorem eq_foreign {v : Value} {f : Foreign} (h : L.Values v (.foreign f)) : v = .foreign f := by
  cases L with
  | objects => exact h
  | data => cases v <;> simp_all [Values, Value.unboxed]

theorem reads_equivalence (L : Likeness) : Equivalence L.Reads where
  refl v := Or.inl (.refl v)
  symm h := h.imp Values.symm fun ⟨hL, hv, hw⟩ => ⟨hL, hw, hv⟩
  trans := by
    intro u v w h h'
    rcases h with h | ⟨hL, hu, f, rfl⟩
    · rcases h' with h' | ⟨hL, ⟨f, rfl⟩, hw⟩
      · exact Or.inl (L.values_equivalence.trans h h')
      · exact Or.inr ⟨hL, ⟨f, eq_foreign h⟩, hw⟩
    · rcases h' with h' | ⟨-, -, hw⟩
      · exact Or.inr ⟨hL, hu, f, eq_foreign h'.symm⟩
      · exact Or.inr ⟨hL, hu, hw⟩

theorem Reads.isUndefined {v w : Value} (h : L.Reads v w) : v.isUndefined = w.isUndefined := by
  rcases h with h | ⟨-, ⟨f, rfl⟩, g, rfl⟩
  · exact h.congr Value.isUndefined_unboxed
  · rfl

end Likeness

/-! ## Reading -/

namespace Path

theorem hashable_unboxed (s : Value) : hashable s.unboxed = hashable s := by cases s <;> rfl

theorem index?_unboxed (s : Value) : index? s.unboxed = index? s := by cases s <;> rfl

theorem field?_unboxed (s : Value) (fs : Fields) :
    field? s.unboxed (Value.unboxedFields fs) = (field? s fs).map Value.unboxed := by
  have hkey : s.unboxed.key? = s.key?.map Key.unboxed := by cases s <;> rfl
  rw [field?, field?, hkey]
  cases s.key? with
  | none => rfl
  | some k => exact Value.get?_unboxed k fs

theorem item_unboxed (xs : List Value) (i : Int) :
    item (Value.unboxedItems xs) i = (item xs i).unboxed := by
  rw [item, item, Value.unboxedItems_eq, List.getElem?_map]
  split
  · rfl
  · cases xs[i.toNat]? <;> rfl

/-- A scope whose parent link is found by key. -/
theorem aboveScope_eq (parent : Key) (segment : Value) (fs : Fields) :
    aboveScope parent segment fs = match Mapping.get? parent fs with
      | some v => inScope parent segment v
      | none => .undefined := by
  induction fs with
  | nil => rfl
  | cons e fs ih =>
    obtain ⟨k, v⟩ := e
    unfold aboveScope Mapping.get?
    split
    · rfl
    · exact ih

theorem inScope_unboxed (parent : String) (s v : Value) :
    inScope (.text parent) s.unboxed v.unboxed = (inScope (.text parent) s v).unboxed := by
  induction v with
  | object fs ih =>
    rw [Value.unboxed, inScope, inScope, field?_unboxed]
    cases field? s fs with
    | some w => rfl
    | none =>
      have hget := Value.get?_unboxed (.text parent) fs
      simp only [Key.unboxed] at hget
      simp only [Option.map_none, aboveScope_eq, hget]
      cases hparent : Mapping.get? (Key.text parent) fs with
      | none => rfl
      | some w =>
        obtain ⟨e, he, rfl⟩ := Mapping.mem_of_get? hparent
        exact ih e he
  | _ => rfl

/-- The properties of numbers of one value are alike but for their methods. -/
theorem property_unboxed (v : Value) (name : String) :
    Likeness.data.Reads (property v name) (property v.unboxed name) := by
  have hmethod (a b : Receiver) : Likeness.data.Reads (method a name) (method b name) :=
    Or.inr ⟨rfl, ⟨_, rfl⟩, _, rfl⟩
  have hrefl (w : Value) : Likeness.data.Reads w w := Or.inl rfl
  have hint (n : Boxed Int) (a b : Receiver) :
      Likeness.data.Reads (intProperty a n name) (intProperty b n.value name) := by
    unfold intProperty
    split_ifs
    · exact Or.inl rfl
    · exact hrefl _
    · exact hrefl _
    · exact hmethod a b
    · exact hrefl _
  have hfloat (x : Boxed Double) :
      Likeness.data.Reads (floatProperty x name) (floatProperty x.value name) := by
    unfold floatProperty
    split_ifs
    · exact Or.inl rfl
    · exact Or.inl rfl
    · exact hmethod _ _
    · exact hrefl _
  cases v with
  | int n => exact hint n _ _
  | float x => exact hfloat x
  | _ => exact hrefl _

theorem step_unboxed (v s : Value) :
    Related Likeness.data.Faults Likeness.data.Reads (step v s) (step v.unboxed s.unboxed) := by
  have hmap {α : Type} (r : Except Fault α) {f g : α → Value} (h : ∀ a, Likeness.data.Reads (f a) (g a)) :
      Related Likeness.data.Faults Likeness.data.Reads (r.map f) (r.map g) := by
    cases r with
    | error e => exact (Likeness.Faults.refl (L := .data) e)
    | ok a => exact h a
  cases v with
  | object fs =>
    rw [Value.unboxed, step, step, hashable_unboxed]
    refine hmap _ fun _ => Or.inl ?_
    rw [field?_unboxed]
    cases field? s fs with
    | none => exact Likeness.Values.refl _
    | some w => exact w.unboxed_unboxed.symm
  | list xs =>
    rw [Value.unboxed, step, step, index?_unboxed]
    refine hmap _ fun i => Or.inl ?_
    cases i with
    | none => exact Likeness.Values.refl _
    | some i =>
      show (item xs i).unboxed = (item (Value.unboxedItems xs) i).unboxed
      rw [item_unboxed, Value.unboxed_unboxed]
  | bool _ | int _ | float _ =>
    cases s with
    | text name => exact property_unboxed _ name
    | _ => exact Or.inl rfl
  | _ => exact Or.inl rfl

end Path

theorem Resolver.step_unboxed (r : Resolver) (v s : Value) :
    Related Likeness.data.Faults Likeness.data.Reads (r.step v s) (r.step v.unboxed s.unboxed) := by
  have hplain := Path.step_unboxed v s
  cases r with
  | plain => exact hplain
  | inherited parent =>
    cases v with
    | object fs =>
      have hscope := Path.inScope_unboxed parent s (.object fs)
      rw [Value.unboxed] at hscope ⊢
      simp only [step, Path.stepInherited, Path.hashable_unboxed, hscope]
      cases Path.hashable s with
      | error e => exact Likeness.Faults.refl (L := .data) e
      | ok _ => exact Or.inl (Value.unboxed_unboxed _).symm
    | _ => exact hplain

namespace Likeness

variable {L : Likeness}

/-! ## Functions of alike values -/

/-- A function does the same to alike values if the origins in its arguments
do not matter to it. -/
theorem related_of_unboxed {β : Type} {R : Likeness → β → β → Prop} (hR : ∀ L, Equivalence (R L))
    {f : Value → Value → Except Fault β}
    (hf : ∀ v s, Related Likeness.data.Faults (R .data) (f v s) (f v.unboxed s.unboxed))
    {v w s t : Value} (hv : L.Values v w) (hs : L.Values s t) :
    Related L.Faults (R L) (f v s) (f w t) := by
  cases L with
  | objects =>
    obtain rfl : v = w := hv
    obtain rfl : s = t := hs
    exact .refl (faults_equivalence _) (hR _) _
  | data =>
    have hright := (hf w t).symm (faults_equivalence _) (hR _)
    rw [← values_data.mp hv, ← values_data.mp hs] at hright
    exact (hf v s).trans (faults_equivalence _) (hR _) hright

end Likeness

namespace Fault

theorem about_unboxed (complaint : String) (v : Value) : about complaint v.unboxed = about complaint v := by
  rw [about, about, Value.display_unboxed]

theorem typed_unboxed (v : Value) : typed v.unboxed = typed v := by
  rw [typed, typed, Value.display_unboxed, Value.typeName_unboxed]

end Fault

namespace Likeness

variable {L : Likeness}

/-- A fault about a value, and about an alike one. -/
theorem Faults.about (make : Value → Fault) (hshown : ∀ v, (make v).shown = [v])
    (hkind : ∀ v, (make v.unboxed).kind = (make v).kind)
    (hwording : ∀ v, (make v.unboxed).wording = (make v).wording) {v w : Value} (h : L.Values v w) :
    L.Faults (make v) (make w) := by
  cases L with
  | objects => exact congrArg make h
  | data =>
    have hunboxed (v : Value) : Likeness.data.Faults (make v) (make v.unboxed) := by
      have hsettled (u : Value) : (make u).settled = if u.writable then make u else .unwritable := by
        simp [Fault.settled, hshown]
      simp only [Faults, Fault.classOf, Fault.message, hsettled, Value.writable_unboxed]
      split
      · exact ⟨(hkind v).symm, (hwording v).symm⟩
      · exact ⟨rfl, rfl⟩
    have hright := hunboxed w
    rw [← values_data.mp h] at hright
    exact (faults_equivalence .data).trans (hunboxed v) hright.symm

/-! ## Walks through alike values -/

theorem step_reads (r : Resolver) {v w s t : Value} (hv : L.Reads v w) (hs : L.Values s t) :
    Related L.Faults L.Reads (r.step v s) (r.step w t) := by
  rcases hv with hv | ⟨-, ⟨f, rfl⟩, g, rfl⟩
  · exact related_of_unboxed reads_equivalence r.step_unboxed hv hs
  · -- beyond a method there is nothing
    have hnone (f : Foreign) (s : Value) : r.step (.foreign f) s = .ok .undefined := by cases r <;> rfl
    rw [hnone, hnone]
    exact Or.inl (.refl _)

theorem walk_reads (r : Resolver) {ss ts : List Value} (hs : List.Forall₂ L.Values ss ts) {v w : Value}
    (hv : L.Reads v w) : Related L.Faults L.Reads (Path.walk r.step v ss) (Path.walk r.step w ts) := by
  induction hs generalizing v w with
  | nil => exact hv
  | cons hst _ ih =>
    unfold Path.walk
    refine (step_reads r hv hst).bind fun a b hab => ?_
    rw [hab.isUndefined]
    split
    · exact Or.inl (.refl _)
    · exact ih hab

theorem segments_values {k l : Value} (h : L.Values k l) :
    Related L.Faults (List.Forall₂ L.Values) (Path.segments k) (Path.segments l) := by
  have hlists (L : Likeness) : Equivalence (List.Forall₂ L.Values) :=
    ⟨fun _ => values_list.mp (.refl _), fun h => values_list.mp (values_list.mpr h).symm,
      fun h h' => values_list.mp (L.values_equivalence.trans (values_list.mpr h) (values_list.mpr h'))⟩
  refine related_of_unboxed hlists (f := fun v _ => Path.segments v) (fun v _ => ?_) h h
  have hkey : Likeness.data.Faults (.propertyKey v) (.propertyKey v.unboxed) :=
    Faults.about .propertyKey (fun _ => rfl) (fun _ => rfl) (fun v => congrArg (· ++ _) (Fault.about_unboxed _ v))
      (unboxed_alike v)
  cases v with
  | int n => exact .cons rfl .nil
  | text s => exact (hlists _).refl _
  | bool b => exact Faults.refl (L := .data) _
  | list xs => exact values_list.mp (Value.unboxed_unboxed (.list xs)).symm
  | _ => exact hkey

/-- One more step by a key leads to alike values, or to methods. -/
theorem follow_reads {v w k l : Value} (hv : L.Reads v w) (hk : L.Values k l) :
    Related L.Faults L.Reads (Node.follow v k) (Node.follow w l) := by
  unfold Node.follow
  rw [hk.congr Value.isAbsent_unboxed]
  split
  · exact hv
  · exact (segments_values hk).bind fun ss ts hs => walk_reads .plain hs hv

theorem filling_eq {v w : Value} (h : L.Values v w) : Template.filling v = Template.filling w := by
  rw [Template.filling, Template.filling, h.congr Value.isUndefined_unboxed, h.congr Value.written_unboxed]

/-! ## Functions of values -/

/-- A function of one value that gives alike results for alike values. -/
def Unary (L : Likeness) (f : Value → Except Fault Value) : Prop :=
  ∀ v w, L.Values v w → Related L.Faults L.Values (f v) (f w)

/-- A function of two values that does so. -/
def Binary (L : Likeness) (f : Value → Value → Except Fault Value) : Prop :=
  ∀ v w, L.Values v w → ∀ s t, L.Values s t → Related L.Faults L.Values (f v s) (f w t)

/-- A function of any number of values that does so. -/
def Complex (L : Likeness) (f : List Value → Except Fault Value) : Prop :=
  ∀ vs ws, List.Forall₂ L.Values vs ws → Related L.Faults L.Values (f vs) (f ws)

theorem related_refl (r : Except Fault Value) : Related L.Faults L.Values r r :=
  .refl L.faults_equivalence L.values_equivalence r

/-- Every function gives the same for the same objects. -/
theorem unary_objects (f : Value → Except Fault Value) : Likeness.objects.Unary f := by
  rintro v w rfl
  exact related_refl _

theorem binary_objects (f : Value → Value → Except Fault Value) : Likeness.objects.Binary f := by
  rintro v w rfl s t rfl
  exact related_refl _

theorem complex_objects (f : List Value → Except Fault Value) : Likeness.objects.Complex f := by
  intro vs ws h
  obtain rfl : vs = ws := by rwa [← List.forall₂_eq_eq_eq]
  exact related_refl _

section Standard

variable {f : Value → Value → Except Fault Value}

/-- Origins do not matter to a function that gives the same without them. -/
theorem unary_of_eq {f : Value → Except Fault Value} (hf : ∀ v, f v.unboxed = f v) : L.Unary f := by
  intro v w h
  rw [h.congr hf]
  exact related_refl _

theorem binary_of_eq (hf : ∀ v s, f v.unboxed s.unboxed = f v s) : L.Binary f := by
  intro v w h s t hs
  refine related_of_unboxed values_equivalence (fun v s => ?_) h hs
  rw [hf]
  exact related_refl _

theorem complex_onPair (hf : L.Binary f) : L.Complex (Function.onPair f) := by
  intro vs ws h
  match h with
  | .cons hv (.cons hs .nil) => exact hf _ _ hv _ _ hs
  | .nil | .cons _ .nil | .cons _ (.cons _ (.cons _ _)) => exact related_refl _

end Standard

theorem typeof_alike : L.Unary Function.typeof :=
  unary_of_eq fun v => by rw [Function.typeof, Function.typeof, v.kind_unboxed]

theorem not_alike : L.Unary Function.not :=
  unary_of_eq fun v => by rw [Function.not, Function.not, v.truthy_unboxed]

theorem and_alike : L.Binary Function.and := by
  intro v w h s t hs
  rw [Function.and, Function.and, h.congr Value.truthy_unboxed]
  split
  · exact hs
  · exact h

theorem or_alike : L.Binary Function.or := by
  intro v w h s t hs
  rw [Function.or, Function.or, h.congr Value.truthy_unboxed]
  split
  · exact h
  · exact hs

theorem eq_alike : L.Binary Function.eq :=
  binary_of_eq fun v s => by rw [Function.eq, Function.eq, Value.strictEquals_unboxed]

theorem relate_alike (r : Relation) : L.Binary (Function.relate r) :=
  binary_of_eq fun v s => by
    simp only [Function.relate, Function.holds, Value.isUndefined_unboxed, Value.order_unboxed]

theorem concat_alike : L.Binary Function.concat :=
  binary_of_eq fun v s => by
    rw [Function.concat, Function.concat, v.written_unboxed, s.written_unboxed]

theorem needsText_alike (operation : String) {v w : Value} (h : L.Values v w) :
    L.Faults (.needsText operation v) (.needsText operation w) :=
  Faults.about (.needsText operation) (fun _ => rfl) (fun _ => rfl)
    (fun v => congrArg (operation ++ ": expected a string, got " ++ ·) (Fault.typed_unboxed v)) h

theorem capitalize_alike : L.Unary Function.capitalize := by
  intro v w h
  refine related_of_unboxed values_equivalence (f := fun v _ => Function.capitalize v) (fun v _ => ?_) h h
  have hfault := needsText_alike "capitalize" (unboxed_alike v)
  cases v with
  | text s => exact related_refl _
  | _ => exact hfault

theorem split_alike : L.Binary Function.split := by
  intro v w h s t hs
  refine related_of_unboxed values_equivalence (fun v s => ?_) h hs
  have hfault := needsText_alike "split" (unboxed_alike v)
  cases v with
  | text _ => cases s <;> exact related_refl _
  | _ => exact hfault

theorem join_alike : L.Binary Function.join := by
  intro v w h s t hs
  refine related_of_unboxed values_equivalence (fun v s => ?_) h hs
  have hneeds : Likeness.data.Faults (.needsArray v) (.needsArray v.unboxed) :=
    Faults.about .needsArray (fun _ => rfl) (fun _ => rfl)
      (fun v => congrArg ("join: expected an array, got " ++ ·) (Fault.typed_unboxed v))
      (unboxed_alike v)
  cases v with
  | list xs =>
    have hitem : Function.itemText ∘ Value.unboxed = Function.itemText := by
      funext x
      simp only [Function.comp, Function.itemText, Value.isAbsent_unboxed, Value.written_unboxed]
    rw [Value.unboxed_list, Function.join, Function.join, s.written_unboxed, List.mapM_map, hitem]
    exact related_refl _
  | _ => exact hneeds

end Likeness

end Rulebook
