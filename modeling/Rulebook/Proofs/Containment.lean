-- What values are made of. Evaluation of data in data makes nothing but data,
-- with one exception: a path that goes on beyond a number may end in one of
-- its methods, which is no data and stays wherever it is put.
import Rulebook.Proofs.Composition
import Rulebook.Proofs.Likeness
import Rulebook.Proofs.LogicMaps

namespace Rulebook

/-! ## Values within data -/

def Key.isText : Key → Bool
  | .text _ => true
  | _ => false

namespace Value

mutual
/-- Whether a value is data at every depth, but for some that are not data.
All keys are texts. -/
def within (ok : Foreign → Bool) : Value → Bool
  | .list xs => withinItems ok xs
  | .object fs => withinFields ok fs
  | .foreign f => ok f
  | _ => true
def withinItems (ok : Foreign → Bool) : List Value → Bool
  | [] => true
  | x :: xs => x.within ok && withinItems ok xs
def withinFields (ok : Foreign → Bool) : List (Key × Value) → Bool
  | [] => true
  | (k, v) :: fs => k.isText && v.within ok && withinFields ok fs
end

/-- Data, or the missing value, at every depth. -/
def isData (v : Value) : Bool := v.within fun _ => false

variable {ok : Foreign → Bool}

theorem within_list {xs : List Value} :
    (Value.list xs).within ok = true ↔ ∀ x ∈ xs, x.within ok = true := by
  rw [within]
  induction xs with
  | nil => simp [withinItems]
  | cons x xs ih => simp only [withinItems, Bool.and_eq_true, ih, List.forall_mem_cons]

theorem within_object {fs : Fields} :
    (Value.object fs).within ok = true ↔ ∀ e ∈ fs, e.1.isText = true ∧ e.2.within ok = true := by
  rw [within]
  induction fs with
  | nil => simp [withinFields]
  | cons e fs ih => simp only [withinFields, Bool.and_eq_true, ih, List.forall_mem_cons]

theorem within_of_isData {v : Value} (h : v.isData = true) : v.within ok = true := by
  unfold isData at h
  induction v with
  | list xs ih =>
    rw [within_list] at h ⊢
    exact fun x hx => ih x hx (h x hx)
  | object fs ih =>
    rw [within_object] at h ⊢
    exact fun e he => ⟨(h e he).1, ih e he (h e he).2⟩
  | foreign f => cases h
  | _ => rfl

theorem within_get? {fs : Fields} (h : (Value.object fs).within ok = true) {k : Key} {v : Value}
    (hget : Mapping.get? k fs = some v) : v.within ok = true := by
  obtain ⟨e, he, rfl⟩ := Mapping.mem_of_get? hget
  exact (within_object.mp h e he).2

theorem within_put {fs : Fields} (h : (Value.object fs).within ok = true) {k : Key} {v : Value}
    (hk : k.isText = true) (hv : v.within ok = true) :
    (Value.object (Mapping.put k v fs)).within ok = true := by
  rw [within_object] at h ⊢
  intro e he
  rcases Mapping.mem_put he with he | rfl | ⟨u, hu, rfl⟩
  · exact h e he
  · exact ⟨hk, hv⟩
  · exact ⟨(h u hu).1, hv⟩

theorem within_overlay {fs gs : Fields} (h : (Value.object fs).within ok = true)
    (h' : (Value.object gs).within ok = true) :
    (Value.object (Mapping.overlay fs gs)).within ok = true := by
  unfold Mapping.overlay
  induction gs generalizing fs with
  | nil => exact h
  | cons e gs ih =>
    rw [within_object, List.forall_mem_cons] at h'
    exact ih (within_put h h'.1.1 h'.1.2) (within_object.mpr h'.2)

theorem within_zip {keys : List Key} {vs : List Value} (hkeys : ∀ k ∈ keys, k.isText = true)
    (hvs : ∀ v ∈ vs, v.within ok = true) : (Value.object (keys.zip vs)).within ok = true :=
  within_object.mpr fun _ he => ⟨hkeys _ (List.of_mem_zip he).1, hvs _ (List.of_mem_zip he).2⟩

end Value

/-- Whether something that is no data is a method of a number. -/
def Foreign.isMethod (f : Foreign) : Bool :=
  (Path.methodsOfInt ++ Path.methodsOfFloat).contains f.name

/-! ## Reading -/

/-- What can be read in a value: values within it, and methods of numbers. -/
def Value.Reached (ok : Foreign → Bool) (v : Value) : Prop :=
  v.within ok = true ∨ ∃ f : Foreign, v = .foreign f ∧ f.isMethod = true

namespace Path

variable {ok : Foreign → Bool} {v w : Value}

theorem property_reached (v : Value) (name : String) : (property v name).Reached ok := by
  have hmethod (receiver : Receiver) {names : List String}
      (hnames : ∀ n ∈ names, n ∈ methodsOfInt ++ methodsOfFloat) (h : names.contains name = true) :
      (method receiver name).Reached ok :=
    Or.inr ⟨_, rfl, List.contains_iff_mem.mpr (hnames name (by simpa using h))⟩
  have hint (receiver : Receiver) (n : Boxed Int) : (intProperty receiver n name).Reached ok := by
    unfold intProperty
    split_ifs with _ _ _ hname
    · exact Or.inl rfl
    · exact Or.inl rfl
    · exact Or.inl rfl
    · exact hmethod receiver (fun n hn => List.mem_append_left _ hn) hname
    · exact Or.inl rfl
  have hfloat (x : Boxed Double) : (floatProperty x name).Reached ok := by
    unfold floatProperty
    split_ifs with _ _ hname
    · exact Or.inl rfl
    · exact Or.inl rfl
    · exact hmethod (.float x) (fun n hn => List.mem_append_right _ hn) hname
    · exact Or.inl rfl
  cases v with
  | bool b => exact hint (.bool b) _
  | int n => exact hint (.int n.interned) n
  | float x => exact hfloat x
  | _ => exact Or.inl rfl

theorem field_within {fs : Fields} {segment : Value} (h : (Value.object fs).within ok = true)
    (hfield : field? segment fs = some v) : v.within ok = true := by
  obtain ⟨k, -, hget⟩ := Option.bind_eq_some_iff.mp hfield
  exact Value.within_get? h hget

theorem step_reached (h : v.within ok = true) (segment : Value) (hstep : step v segment = .ok w) :
    w.Reached ok := by
  have hmap {α : Type} {r : Except Fault α} {f : α → Value} (hr : r.map f = .ok w)
      (hf : ∀ a, (f a).Reached ok) : w.Reached ok := by
    cases r with
    | error e => cases hr
    | ok a =>
      obtain rfl := Except.ok.inj hr
      exact hf a
  cases v with
  | object fs =>
    refine hmap hstep fun _ => Or.inl ?_
    cases hfield : field? segment fs with
    | none => rfl
    | some u => exact field_within h hfield
  | list xs =>
    refine hmap hstep fun i => Or.inl ?_
    cases i with
    | none => rfl
    | some i =>
      simp only [item]
      split
      · rfl
      · cases hitem : xs[i.toNat]? with
        | none => rfl
        | some u => exact Value.within_list.mp h u (List.mem_of_getElem? hitem)
  | bool _ | int _ | float _ =>
    obtain rfl := Except.ok.inj hstep
    split
    · exact property_reached _ _
    · exact Or.inl rfl
  | _ =>
    obtain rfl := Except.ok.inj hstep
    exact Or.inl rfl

theorem inScope_within (parent : Key) (segment : Value) (h : v.within ok = true) :
    (inScope parent segment v).within ok = true := by
  induction v with
  | object fs ih =>
    unfold inScope
    split
    · rename_i u hfield
      exact field_within h hfield
    · rw [aboveScope_eq]
      cases hget : Mapping.get? parent fs with
      | none => rfl
      | some u =>
        obtain ⟨e, he, rfl⟩ := Mapping.mem_of_get? hget
        exact ih e he (Value.within_object.mp h e he).2
  | _ => rfl

end Path

namespace Resolver

variable {ok : Foreign → Bool} {v w : Value}

theorem step_reached (r : Resolver) (h : v.within ok = true) {segment : Value}
    (hstep : r.step v segment = .ok w) : w.Reached ok := by
  cases r with
  | plain => exact Path.step_reached h segment hstep
  | inherited parent =>
    cases v with
    | object fs =>
      simp only [step, Path.stepInherited] at hstep
      cases hhash : Path.hashable segment with
      | error e => rw [hhash] at hstep; cases hstep
      | ok _ =>
        rw [hhash] at hstep
        obtain rfl := Except.ok.inj hstep
        exact Or.inl (Path.inScope_within _ segment h)
    | _ => exact Path.step_reached h segment hstep

/-- A walk stays within a value, or ends in a method of a number in it. -/
theorem get_reached (r : Resolver) {path : List Value} (h : v.Reached ok)
    (hget : r.get v path = .ok w) : w.Reached ok := by
  unfold get at hget
  induction path generalizing v with
  | nil =>
    obtain rfl := Except.ok.inj hget
    exact h
  | cons segment path ih =>
    unfold Path.walk at hget
    obtain ⟨u, hstep, hget⟩ := bind_ok hget
    have hu : u.Reached ok := by
      rcases h with h | ⟨f, rfl, -⟩
      · exact r.step_reached h hstep
      · -- beyond a method there is nothing
        have hnone : r.step (.foreign f) segment = .ok .undefined := by cases r <;> rfl
        rw [hnone] at hstep
        obtain rfl := Except.ok.inj hstep
        exact Or.inl rfl
    split at hget
    · obtain rfl := Except.ok.inj hget
      exact Or.inl rfl
    · exact ih hu hget

end Resolver

namespace Node

variable {ok : Foreign → Bool}

theorem follow_reached {v key w : Value} (h : v.Reached ok) (hw : follow v key = .ok w) :
    w.Reached ok := by
  unfold follow at hw
  split at hw
  · obtain rfl := Except.ok.inj hw
    exact h
  · obtain ⟨path, -, hw⟩ := bind_ok hw
    exact Resolver.plain.get_reached h hw

theorem walk_reached {p : Policy} {c : Fields} {keys : List Node} {v w : Value} (h : v.Reached ok)
    (hw : keys.foldlM (fun u x => do follow u (← x.value p c)) v = .ok w) : w.Reached ok := by
  induction keys generalizing v with
  | nil =>
    obtain rfl := Except.ok.inj hw
    exact h
  | cons x keys ih =>
    rw [List.foldlM_cons] at hw
    obtain ⟨u, hu, hw⟩ := bind_ok hw
    obtain ⟨key, -, hu⟩ := bind_ok hu
    exact ih (follow_reached h hu) hw

/-! ## Trees that keep values within data -/

/-- What a node itself adds to a value keeps it within data. -/
def Keeps (ok : Foreign → Bool) : Node → Prop
  | .literal v => v.within ok = true
  | .unary _ f _ => ∀ v w, v.within ok = true → f v = .ok w → w.within ok = true
  | .binary _ f _ => ∀ u v w, u.within ok = true → v.within ok = true → f u v = .ok w →
    w.within ok = true
  | .complex _ f _ => ∀ vs w, (∀ v ∈ vs, v.within ok = true) → f vs = .ok w → w.within ok = true
  | .object es => ∀ e ∈ es, e.1.isText = true
  | _ => True

end Node

/-- Trees that keep values within data, made from definitions within data. -/
def Law.within (ok : Foreign → Bool) : Law where
  data v := v.within ok = true
  key k := k.isText = true
  node n := n.Keeps ok
  text _ := rfl
  item := Value.within_list.mp
  entry := Value.within_object.mp
  missing := rfl
  literal h := h
  object h := h
  plain {n} _ := by cases n <;> trivial

namespace Node

variable {ok : Foreign → Bool}

section Values

variable {p : Policy} {c : Fields} {n : Node}

theorem reduce_within {f : Value → Value → Except Fault Value}
    (hf : ∀ u v w, u.within ok = true → v.within ok = true → f u v = .ok w → w.within ok = true)
    {vs : List Value} (hvs : ∀ v ∈ vs, v.within ok = true) {w : Value} (h : reduce f vs = .ok w) :
    w.within ok = true := by
  have hfold (v : Value) (hv : v.within ok = true) (us : List Value)
      (hus : ∀ u ∈ us, u.within ok = true) (hw : us.foldlM f v = .ok w) : w.within ok = true := by
    induction us generalizing v with
    | nil =>
      obtain rfl := Except.ok.inj hw
      exact hv
    | cons u us ih =>
      rw [List.foldlM_cons] at hw
      obtain ⟨x, hx, hw⟩ := bind_ok hw
      exact ih x (hf v u x hv (hus u (by simp)) hx) (fun y hy => hus y (List.mem_cons_of_mem _ hy)) hw
  cases vs with
  | nil =>
    obtain rfl := Except.ok.inj h
    rfl
  | cons v vs => exact hfold v (hvs v (by simp)) vs (fun u hu => hvs u (List.mem_cons_of_mem _ hu)) h

theorem bind_within {c : Fields} (h : (Value.object c).within ok = true) {position : String × Value}
    (hposition : position.2.within ok = true) {v : Value} (hv : v.within ok = true) :
    (Value.object (bind c position v)).within ok = true := by
  refine Value.within_put h rfl (Value.within_object.mpr ?_)
  simp only [List.forall_mem_cons, List.not_mem_nil, false_implies, implies_true, and_true]
  exact ⟨⟨rfl, hposition⟩, rfl, hv⟩

/-- The contexts in which the body of a map sees a value. -/
theorem bindings_within {c : Fields} (h : (Value.object c).within ok = true) {v : Value}
    (hv : v.within ok = true) : ∀ b ∈ bindings c v, (Value.object b).within ok = true := by
  intro b hb
  cases v with
  | object fs =>
    obtain ⟨e, he, rfl⟩ := List.mem_map.mp hb
    obtain ⟨hkey, hvalue⟩ := Value.within_object.mp hv e he
    refine bind_within h ?_ hvalue
    cases hk : e.1 with
    | text s => rfl
    | _ => simp [hk, Key.isText] at hkey
  | list xs =>
    obtain ⟨e, he, rfl⟩ := List.mem_map.mp hb
    obtain ⟨q, hq, rfl⟩ := List.mem_map.mp he
    refine bind_within h rfl (Value.within_list.mp hv _ ?_)
    exact (List.mem_zipIdx' hq).2 ▸ List.getElem_mem _
  | _ => cases hb

/-- A tree that keeps values within data has such a value in a context within
data, if whatever it reads is. -/
theorem value_within (hn : n.Obeys (.within ok)) (hc : (Value.object c).within ok = true)
    (hreads : ∀ e ∈ evaluations p c n, e.2.reads = true → ∀ f : Foreign, f.isMethod = true →
      e.result p = .ok (.foreign f) → ok f = true)
    {v : Value} (hv : n.value p c = .ok v) : v.within ok = true := by
  induction c, n using call_induction (p := p) generalizing v with
  | h c n ih =>
    obtain ⟨hown, hparts⟩ := hn
    have hcall (b : Fields) (x : Node) (he : (b, x) ∈ calls p c n)
        (hb : (Value.object b).within ok = true) {w : Value} (hw : x.value p b = .ok w) :
        w.within ok = true :=
      ih (b, x) he (hparts x (calls_parts he)) hb
        (fun e' he' => hreads e' (evaluations_of_call he he')) hw
    have hitems {xs : List Node} {vs : List Value} (hvs : xs.mapM (value p c) = .ok vs)
        (hcalls : calls p c n = (tried (value p c) xs).map (Prod.mk c)) :
        ∀ w ∈ vs, w.within ok = true := by
      intro w hw
      obtain ⟨x, hx, hxw⟩ := mem_of_mapM_ok hvs hw
      rw [tried_eq_self hvs] at hcalls
      exact hcall c x (hcalls ▸ List.mem_map_of_mem hx) hc hxw
    have hself {w : Value} (hread : n.reads = true) (hw : n.value p c = .ok w) (h : w.Reached ok) :
        w.within ok = true := by
      rcases h with h | ⟨f, rfl, hf⟩
      · exact h
      · exact hreads (c, n) (mem_evaluations_self p c n) hread f hf hw
    cases n with
    | literal u =>
      obtain rfl := Except.ok.inj hv
      exact hown
    | path names r => exact hself rfl hv (r.get_reached (Or.inl hc) hv)
    | template text holes =>
      obtain ⟨ts, -, hv⟩ := bind_ok hv
      obtain rfl := Except.ok.inj hv
      rfl
    | branch x t f =>
      obtain ⟨u, hx, hv⟩ := bind_ok hv
      have hchosen : (c, if u.truthy then t else f) ∈ calls p c (.branch x t f) := by
        simp only [calls, hx, following, List.mem_cons, List.not_mem_nil, or_false, or_true]
      refine hcall c _ hchosen hc ?_
      rw [← hv]
      split <;> rfl
    | unary name f x =>
      obtain ⟨u, hx, hv⟩ := bind_ok hv
      exact hown u v (hcall c x (by simp [calls]) hc hx) hv
    | binary name f xs =>
      simp only [value, valueOfItems_eq] at hv
      obtain ⟨vs, hxs, hv⟩ := bind_ok hv
      exact reduce_within hown (hitems hxs rfl) hv
    | complex name f xs =>
      simp only [value, valueOfItems_eq] at hv
      obtain ⟨vs, hxs, hv⟩ := bind_ok hv
      exact hown vs v (hitems hxs rfl) hv
    | witness name x =>
      obtain ⟨u, hx, hv⟩ := bind_ok hv
      obtain ⟨_, -, hv⟩ := bind_ok hv
      obtain rfl := Except.ok.inj hv
      exact hcall c x (by simp [calls]) hc hx
    | array xs =>
      simp only [value, valueOfItems_eq] at hv
      obtain ⟨vs, hxs, hv⟩ := bind_ok hv
      obtain rfl := Except.ok.inj hv
      exact Value.within_list.mpr (hitems hxs rfl)
    | object es =>
      simp only [value, valueOfEntries_eq, mapM_pair, bind_assoc, pure_bind] at hv
      obtain ⟨vs, hes, hv⟩ := bind_ok hv
      obtain rfl := Except.ok.inj hv
      have hvs : (es.map Prod.snd).mapM (value p c) = .ok vs := by
        rw [List.mapM_map]
        exact hes
      exact Value.within_zip (List.forall_mem_map.mpr hown) (hitems hvs rfl)
    | property base keys =>
      obtain ⟨u, hbase, hkeys⟩ := bind_ok hv
      rw [valueOfKeys_eq] at hkeys
      exact hself rfl hv (walk_reached (Or.inl (hcall c base (by simp [calls]) hc hbase)) hkeys)
    | calculated x => exact hcall c x (by simp [calls]) hc hv
    | map source body =>
      obtain ⟨u, hu, hmap⟩ := bind_ok hv
      have hsource : u.within ok = true := hcall c source (by simp [calls]) hc hu
      have hcalls : ∀ b ∈ bindings c u, (b, body) ∈ calls p c (.map source body) := by
        intro b hb
        rw [calls, hu, following, tried_bindings hu hv]
        exact List.mem_cons_of_mem _ (List.mem_map_of_mem hb)
      have hbody (b : Fields) (hb : b ∈ bindings c u) {w : Value} (hw : body.value p b = .ok w) :
          w.within ok = true :=
        hcall b body (hcalls b hb) (bindings_within hc hsource b hb) hw
      cases u with
      | object fs =>
        simp only [mapM_pair, bind_assoc, pure_bind] at hmap
        obtain ⟨vs, hvs, hpure⟩ := bind_ok hmap
        obtain rfl := Except.ok.inj hpure
        have hkeys := fun e he => (Value.within_object.mp hsource e he).1
        refine Value.within_zip (List.forall_mem_map.mpr hkeys) fun w hw => ?_
        obtain ⟨q, hq, hqw⟩ := mem_of_mapM_ok hvs hw
        exact hbody _ (List.mem_map_of_mem hq) hqw
      | list xs =>
        obtain ⟨vs, hvs, hpure⟩ := bind_ok hmap
        obtain rfl := Except.ok.inj hpure
        refine Value.within_list.mpr fun w hw => ?_
        obtain ⟨q, hq, hqw⟩ := mem_of_mapM_ok hvs hw
        exact hbody _ (List.mem_map_of_mem hq) hqw
      | _ => cases hmap
    | recorded r d x =>
      obtain ⟨_, htake, hv⟩ := bind_ok hv
      obtain ⟨u, hx, hv⟩ := bind_ok hv
      obtain ⟨_, -, hv⟩ := bind_ok hv
      obtain rfl := Except.ok.inj hv
      exact hcall c x (by simp [calls, htake, following]) hc hx

end Values

end Node

/-! ## What the standard operations keep -/

namespace Function

variable {ok : Foreign → Bool} {u v w : Value}

theorem typeof_within (h : typeof v = .ok w) : w.within ok = true := by
  obtain rfl := Except.ok.inj h
  rfl

theorem not_within (h : Function.not v = .ok w) : w.within ok = true := by
  obtain rfl := Except.ok.inj h
  rfl

theorem and_within (hu : u.within ok = true) (hv : v.within ok = true) (h : Function.and u v = .ok w) :
    w.within ok = true := by
  obtain rfl := Except.ok.inj h
  split
  · exact hv
  · exact hu

theorem or_within (hu : u.within ok = true) (hv : v.within ok = true) (h : Function.or u v = .ok w) :
    w.within ok = true := by
  obtain rfl := Except.ok.inj h
  split
  · exact hu
  · exact hv

theorem eq_within (h : Function.eq u v = .ok w) : w.within ok = true := by
  obtain rfl := Except.ok.inj h
  rfl

theorem relate_within {r : Relation} (h : relate r u v = .ok w) : w.within ok = true := by
  unfold relate at h
  split at h
  · obtain rfl := Except.ok.inj h
    rfl
  · cases hholds : holds r u v with
    | error e => rw [hholds] at h; cases h
    | ok b =>
      rw [hholds] at h
      obtain rfl := Except.ok.inj h
      rfl

theorem capitalize_within (h : capitalize v = .ok w) : w.within ok = true := by
  cases v with
  | text s =>
    obtain rfl := Except.ok.inj h
    rfl
  | _ => cases h

theorem concat_within (h : concat u v = .ok w) : w.within ok = true := by
  obtain ⟨s, -, h⟩ := bind_ok h
  obtain ⟨t, -, h⟩ := bind_ok h
  obtain rfl := Except.ok.inj h
  rfl

theorem texts_within (pieces : List (List Char)) : (texts pieces).within ok = true := by
  refine Value.within_list.mpr fun x hx => ?_
  obtain ⟨piece, -, rfl⟩ := List.mem_map.mp hx
  rfl

theorem split_within (h : split u v = .ok w) : w.within ok = true := by
  unfold split at h
  split at h
  · obtain rfl := Except.ok.inj h
    exact texts_within _
  · obtain rfl := Except.ok.inj h
    exact texts_within _
  · cases h
  · cases h

theorem join_within (h : join u v = .ok w) : w.within ok = true := by
  unfold join at h
  split at h
  · obtain ⟨separator, -, h⟩ := bind_ok h
    obtain ⟨items, -, h⟩ := bind_ok h
    obtain rfl := Except.ok.inj h
    rfl
  · cases h

theorem onPair_within {f : Value → Value → Except Fault Value} (hf : ∀ u v w, f u v = .ok w → w.within ok = true)
    {vs : List Value} (h : onPair f vs = .ok w) : w.within ok = true := by
  unfold onPair at h
  split at h
  · exact hf _ _ w h
  · obtain rfl := Except.ok.inj h
    rfl

end Function

theorem Law.within_standard (ok : Foreign → Bool) : (Law.within ok).Standard where
  typeof _ _ _ _ := Function.typeof_within
  not _ _ _ _ := Function.not_within
  capitalize _ _ _ _ := Function.capitalize_within
  and _ _ _ _ := Function.and_within
  or _ _ _ _ := Function.or_within
  eq _ _ _ _ _ _ := Function.eq_within
  concat _ _ _ _ _ _ := Function.concat_within
  relate _ _ _ _ _ _ _ _ := Function.relate_within
  split _ _ _ _ := Function.onPair_within fun _ _ _ => Function.split_within
  join _ _ _ _ := Function.onPair_within fun _ _ _ => Function.join_within

/-! ## Results -/

namespace Logic

/-- Data evaluated in data gives data but for methods of numbers, and nothing
but data if no path and no property that is evaluated ends in such a method. -/
theorem results_are_data_but_for_methods (around : Surroundings) {d : Value} (hd : d.isData = true)
    {draft : Draft} {l : Logic} (h : outcome (build around [] .null d) draft = .ok l) {context : Value}
    (hcontext : context.isData = true) {j : Journal} {v : Value}
    (hv : outcome (l.eval context) j = .ok v) :
    v.within Foreign.isMethod = true
    ∧ ((∀ c, l.contextIn? context = some c → ∀ e ∈ Node.evaluations j.policy c l.root,
        e.2.reads = true → ∀ f, e.result j.policy ≠ .ok (.foreign f)) → v.isData = true) := by
  have hops : Registry.standard.merged [] = .ok Registry.standard := rfl
  have hbase : Entries.ofValue .null = .ok [] := rfl
  obtain ⟨_, _, settings, -, -, hset⟩ := build_ok h
  obtain ⟨-, hfields, hroot⟩ := build_parts hbase hops hset h
  have hobeys (ok : Foreign → Bool) : l.root.Obeys (.within ok) :=
    Compile.compile_obeys (Registry.standard_obeys (Law.within_standard ok)) .plain
      (Value.within_of_isData hd) _ _ hroot
  have hvalue : l.value j.policy context = .ok v := by
    rw [← (eval_yields j.policy l (build_settled around .null d draft l h) context j rfl).1]
    exact hv
  have hnone (ok : Foreign → Bool) : (Value.object []).within ok = true := rfl
  have hplace : ∃ c, l.contextIn? context = some c ∧ l.root.value j.policy c = .ok v
      ∧ ∀ ok, (Value.object c).within ok = true := by
    cases context with
    | null => exact ⟨l.base, rfl, hvalue, by rw [hfields]; exact hnone⟩
    | object fs =>
      refine ⟨Mapping.overlay l.base fs, rfl, hvalue, fun ok => ?_⟩
      rw [hfields]
      exact Value.within_overlay (hnone ok) (Value.within_of_isData hcontext)
    | _ => cases hvalue
  obtain ⟨c, hin, hroot, hc⟩ := hplace
  refine ⟨?_, fun hreads => ?_⟩
  · exact Node.value_within (hobeys _) (hc _) (fun _ _ _ f hf _ => hf) hroot
  · refine Node.value_within (hobeys _) (hc _) (fun e he hread f _ hresult => ?_) hroot
    exact absurd hresult (hreads c hin e he hread f)

theorem build_reading {s : String} (path : String) (h : s.toList = '$' :: path.toList) :
    outcome (build ordinary [] .null (.text s)) ⟨0, [], false⟩
      = .ok ⟨.text s, [], [Text.dotted path],
          .path (Text.dotted path) (.inherited Settings.defaultParentKey)⟩ := by
  have hbase : Entries.ofValue .null = .ok [] := rfl
  have hset : ordinary.settings = .ok ⟨false, Settings.defaultParentKey, Settings.defaultMarker⟩ := rfl
  exact build_path hbase hset path h ⟨0, [], false⟩

/-- A number that is read is data. -/
theorem number_read_is_data :
    ∃ l v, outcome (build ordinary [] .null (.text "$a")) ⟨0, [], false⟩ = .ok l
      ∧ outcome (l.eval (.object [(.text "a", .int 5)])) Journal.empty = .ok v ∧ v.isData = true := by
  have hbuilt := build_reading (s := "$a") "a" rfl
  have hvalue : outcome (eval ⟨.text "$a", [], [Text.dotted "a"],
      .path (Text.dotted "a") (.inherited Settings.defaultParentKey)⟩ (.object [(.text "a", .int 5)]))
      Journal.empty = .ok (.int 5) := rfl
  refine ⟨_, .int 5, hbuilt, hvalue, ?_⟩
  refine (results_are_data_but_for_methods ordinary rfl hbuilt rfl hvalue).2 fun c hc e he _ f => ?_
  obtain rfl := Option.some.inj hc
  rw [Node.evaluations_eq] at he
  obtain rfl := List.mem_singleton.mp he
  exact fun h => nomatch h

/-- A method of a number is a result. -/
theorem method_of_a_number_is_a_result :
    ∃ l, outcome (build ordinary [] .null (.text "$a.bit_length")) ⟨0, [], false⟩ = .ok l
      ∧ outcome (l.eval (.object [(.text "a", .int 5)])) Journal.empty
        = .ok (.foreign (.method (.int 5) "bit_length"))
      ∧ (Value.foreign (.method (.int 5) "bit_length")).isData = false :=
  ⟨_, build_reading "a.bit_length" rfl, rfl, rfl⟩

end Logic
end Rulebook
