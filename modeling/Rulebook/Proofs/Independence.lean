-- What an evaluation depends on. Contexts in which the reported paths give
-- alike outcomes are contexts in which a logic, or a logic map, ends alike.
-- Outcomes are compared object by object, or as data if no method of a number is
-- met.
import Mathlib.Logic.Relation
import Rulebook.Proofs.Agreement
import Rulebook.Proofs.Composition
import Rulebook.Proofs.LogicMaps

namespace Rulebook

/-! ## Methods that are met -/

namespace Node

/-- What a node may end with in a context, whatever has been recorded before. -/
def MayGive (p : Policy) (c : Fields) (n : Node) (v : Value) : Prop :=
  ∃ j : Journal, j.policy = p ∧ outcome (n.eval c) j = .ok v

/-- Whether it depends on a value which parts a node evaluates, or where. -/
def selects : Node → Bool
  | .branch .. | .map .. => true
  | _ => false

/-- What a node may evaluate itself: the parts of it, but of two branches the
chosen one, and the body of a map for each entry of its source. -/
inductive MayCall (p : Policy) : Call → Call → Prop
  | part {c : Fields} {n x : Node} (hn : n.selects = false) (h : x ∈ parts n) : MayCall p (c, n) (c, x)
  | condition {c : Fields} {x t f : Node} : MayCall p (c, .branch x t f) (c, x)
  | chosen {c : Fields} {x t f : Node} {v : Value} (h : x.MayGive p c v) :
      MayCall p (c, .branch x t f) (c, if v.truthy then t else f)
  | source {c : Fields} {source body : Node} : MayCall p (c, .map source body) (c, source)
  | body {c b : Fields} {source body : Node} {v : Value} (h : source.MayGive p c v)
      (hb : b ∈ bindings c v) : MayCall p (c, .map source body) (b, body)

/-- No path and no property that a node may evaluate ends in a method. -/
def MeetsNoMethod (p : Policy) (c : Fields) (n : Node) : Prop :=
  ∀ e : Call, Relation.ReflTransGen (MayCall p) (c, n) e → e.2.reads = true →
    ∀ f, ¬ e.2.MayGive p e.1 (.foreign f)

theorem MeetsNoMethod.call {p : Policy} {c b : Fields} {n x : Node} (h : n.MeetsNoMethod p c)
    (hcall : MayCall p (c, n) (b, x)) : x.MeetsNoMethod p b :=
  fun e he => h e (.head hcall he)

/-- What keeps an evaluation from telling alike values apart: objects are the
same, or no method is met. -/
def Discreet (L : Likeness) (p : Policy) (c : Fields) (n : Node) : Prop :=
  L = .data → n.MeetsNoMethod p c

theorem Discreet.call {L : Likeness} {p : Policy} {c b : Fields} {n x : Node} (h : n.Discreet L p c)
    (hcall : MayCall p (c, n) (b, x)) : x.Discreet L p b :=
  fun hL => (h hL).call hcall

end Node

/-! ## Functions that keep what is alike -/

/-- A function in a node gives alike results for alike values. -/
def Node.Keeping (L : Likeness) : Node → Prop
  | .unary _ f _ => L.Unary f
  | .binary _ f _ => L.Binary f
  | .complex _ f _ => L.Complex f
  | _ => True

/-- Trees of such functions, whatever their definitions are made of. -/
def Law.keeping (L : Likeness) : Law where
  data _ := True
  key _ := True
  node := Node.Keeping L
  text _ := trivial
  item _ _ _ := trivial
  entry _ _ _ := ⟨trivial, trivial⟩
  missing := trivial
  literal _ := trivial
  object _ := trivial
  plain {n} _ := by cases n <;> trivial

theorem Law.keeping_standard (L : Likeness) : (Law.keeping L).Standard where
  typeof _ := L.typeof_alike
  not _ := L.not_alike
  capitalize _ := L.capitalize_alike
  and _ := L.and_alike
  or _ := L.or_alike
  eq _ := L.eq_alike
  concat _ := L.concat_alike
  relate _ r _ := L.relate_alike r
  split _ := L.complex_onPair L.split_alike
  join _ := L.complex_onPair L.join_alike

namespace Factory

/-- What a host builds from a function that gives alike results for alike
values; calculations included. -/
inductive Pure (L : Likeness) : Factory → Prop
  | unary (name : String) {f : Value → Except Fault Value} (h : L.Unary f) : Pure L (.unary name f)
  | binary (name : String) {f : Value → Value → Except Fault Value} (h : L.Binary f) :
      Pure L (.binary name f)
  | complex (name : String) (arity : Option Nat) {f : List Value → Except Fault Value}
      (h : L.Complex f) : Pure L (.complex name arity f)
  | calculation {plan : Value → Except Fault Blueprint} :
      Pure L (.form plan) → Pure L (Extension.calculation plan)

variable {L : Likeness} {f : Factory}

theorem Pure.functional (h : f.Pure L) : f.Functional := by
  induction h with
  | unary name h => exact .unary name _
  | binary name h => exact .binary name _
  | complex name arity h => exact .complex name arity _
  | calculation _ ih => exact .calculation ih

/-- As objects, every function of a host will do. -/
theorem Functional.pure (h : f.Functional) : f.Pure .objects := by
  induction h with
  | unary name f => exact .unary name (Likeness.unary_objects f)
  | binary name f => exact .binary name (Likeness.binary_objects f)
  | complex name arity f => exact .complex name arity (Likeness.complex_objects f)
  | calculation _ ih => exact .calculation ih

theorem Pure.obeys (h : f.Pure L) : f.Obeys (.keeping L) := by
  induction h with
  | unary name h => exact fun v b hv => Blueprint.unary_obeys hv fun _ => h
  | binary name h => exact fun v b hv => Blueprint.binary_obeys hv fun _ => h
  | complex name arity h => exact fun v b hv => Blueprint.complex_obeys hv fun _ => h
  | @calculation plan _ ih =>
    intro v b hv hb
    cases hplan : plan v with
    | error e => simp [hplan, Except.map] at hb
    | ok b' =>
      obtain rfl : Blueprint.calculated b' = b := by simpa [hplan, Except.map] using hb
      exact Blueprint.calculated_obeys (ih v b' hv hplan)

end Factory

/-! ## Evaluation in contexts that agree -/

namespace Node

variable {L : Likeness} {p : Policy} {parent : String}

theorem agree_of_mem {c₁ c₂ : Fields} {xs : List Node}
    (h : ∀ s ∈ xs.flatMap sources, AgreeOn L parent c₁ c₂ s) {x : Node} (hx : x ∈ xs) :
    ∀ s ∈ x.sources, AgreeOn L parent c₁ c₂ s :=
  fun s hs => h s (List.mem_flatMap.mpr ⟨x, hx, hs⟩)

/-- What is read is alike unless it is a method. -/
theorem read_alike {c₁ c₂ : Fields} {n : Node} (hread : n.reads = true) (hn : n.Discreet L p c₁)
    (h : InStep (Journal.Alike p) L.Faults L.Reads (n.eval c₁) (n.eval c₂)) :
    InStep (Journal.Alike p) L.Faults L.Values (n.eval c₁) (n.eval c₂) := by
  intro j k hjk
  obtain ⟨ho, ha⟩ := h j k hjk
  refine ⟨ho.imp fun v w hv _ hvw => ?_, ha⟩
  rcases hvw with hvw | ⟨hL, ⟨f, rfl⟩, -⟩
  · exact hvw
  · exact absurd ⟨j, hjk.1, hv⟩ (hn hL (c₁, n) .refl hread f)

theorem evalItems_alike {c₁ c₂ : Fields} {xs : List Node}
    (h : ∀ x ∈ xs, InStep (Journal.Alike p) L.Faults L.Values (x.eval c₁) (x.eval c₂)) :
    InStep (Journal.Alike p) L.Faults (List.Forall₂ L.Values) (evalItems c₁ xs) (evalItems c₂ xs) := by
  rw [evalItems_eq, evalItems_eq]
  exact InStep.mapM (List.forall₂_same.mpr h)

theorem reduce_alike {f : Value → Value → Except Fault Value} (hf : L.Binary f) {vs ws : List Value}
    (h : List.Forall₂ L.Values vs ws) : Related L.Faults L.Values (reduce f vs) (reduce f ws) := by
  have hfold {us xs : List Value} (hus : List.Forall₂ L.Values us xs) {v w : Value} (hv : L.Values v w) :
      Related L.Faults L.Values (us.foldlM f v) (xs.foldlM f w) := by
    induction hus generalizing v w with
    | nil => exact hv
    | cons hux _ ih =>
      rw [List.foldlM_cons, List.foldlM_cons]
      exact (hf _ _ hv _ _ hux).bind fun a b hab => ih hab
  cases h with
  | nil => exact Likeness.related_refl _
  | cons hv hrest => exact hfold hrest hv

/-- The body of a map, for each entry of a collection. -/
def mapOver (body : Node) (c : Fields) : Value → Eval Value
  | .object fs => do
    let es ← fs.mapM fun e => do
      return (e.1, ← body.eval (bind c ("key", e.1.toValue) e.2))
    return .object es
  | .list xs => do
    let vs ← (numbered xs).mapM fun e => body.eval (bind c e.1 e.2)
    return .list vs
  | v => throw (.mapSource v)

theorem eval_map (source body : Node) (c : Fields) :
    (Node.map source body).eval c = source.eval c >>= mapOver body c := by
  rw [eval]
  refine congrArg _ (funext fun v => ?_)
  cases v <;> rfl

theorem numbered_alike {xs ys : List Value} (h : List.Forall₂ L.Values xs ys) :
    List.Forall₂ (fun e d : (String × Value) × Value => L.Positions e.1 d.1 ∧ L.Values e.2 d.2)
      (numbered xs) (numbered ys) := by
  have hfrom (n : Nat) : List.Forall₂ (fun e d : Value × Nat => e.2 = d.2 ∧ L.Values e.1 d.1)
      (xs.zipIdx n) (ys.zipIdx n) := by
    induction h generalizing n with
    | nil => exact .nil
    | cons hxy _ ih =>
      rw [List.zipIdx_cons, List.zipIdx_cons]
      exact .cons ⟨rfl, hxy⟩ (ih (n + 1))
  rw [numbered, numbered, List.forall₂_map_left_iff, List.forall₂_map_right_iff]
  refine (hfrom 0).imp fun e d hed => ⟨⟨rfl, ?_⟩, hed.2⟩
  rw [hed.1]
  exact .refl _

/-- The position of an entry is its key. -/
theorem position_alike {e d : Key × Value} (h : L.Entries e d) :
    L.Positions ("key", e.1.toValue) ("key", d.1.toValue) :=
  ⟨rfl, h.1.toValue⟩

theorem mapOver_alike {body : Node} {c₁ c₂ : Fields} {v w : Value} (hv : L.Values v w)
    (hbody : ∀ q r : String × Value, L.Positions q r → ∀ s t, L.Values s t →
      bind c₁ q s ∈ bindings c₁ v →
      InStep (Journal.Alike p) L.Faults L.Values (body.eval (bind c₁ q s)) (body.eval (bind c₂ r t))) :
    InStep (Journal.Alike p) L.Faults L.Values (mapOver body c₁ v) (mapOver body c₂ w) := by
  have hsource : L.Faults (.mapSource v) (.mapSource w) :=
    Likeness.Faults.about .mapSource (fun _ => rfl) (fun _ => rfl)
      (fun v => congrArg ("map: source must be an object or an array, got " ++ ·) (Fault.typed_unboxed v)) hv
  cases hv.form with
  | @object fs gs h =>
    refine (InStep.mapM (W := L.Entries) (forall₂_of_mem h fun e he d _ hed => ?_)).bind
      fun es ds hes => ?_
    · have hentry := hbody _ _ (position_alike hed) _ _ hed.2 (List.mem_map_of_mem he)
      exact hentry.bind fun s t hst => InStep.pure ⟨hed.1, hst⟩
    · exact InStep.pure (Likeness.values_object.mpr hes)
  | @list xs ys h =>
    refine (InStep.mapM (W := L.Values)
      (forall₂_of_mem (numbered_alike h) fun e he d _ hed => ?_)).bind fun vs ws hvs => ?_
    · exact hbody _ _ hed.1 _ _ hed.2 (List.mem_map_of_mem he)
    · exact InStep.pure (Likeness.values_list.mpr hvs)
  | leaf hleft hright =>
    have hthrow {c : Fields} {u : Value} (hu : Likeness.isLeaf u = true) :
        mapOver body c u = throw (.mapSource u) := by
      cases u <;> first | rfl | cases hu
    rw [hthrow hleft, hthrow hright]
    exact InStep.throw hsource

/-- A tree ends alike in contexts that agree on all it reads, if it meets no
method where data are compared. -/
theorem eval_alike (hparent : parent ≠ "map") (n : Node) (hn : n.Obeys (.keeping L)) {c₁ c₂ : Fields}
    (h : ∀ s ∈ n.sources, AgreeOn L parent c₁ c₂ s) (hsink : RefusedAlike p c₁ c₂)
    (hdiscreet : n.Discreet L p c₁) :
    InStep (Journal.Alike p) L.Faults L.Values (n.eval c₁) (n.eval c₂) := by
  induction n generalizing c₁ c₂ with
  | literal v => exact InStep.pure (.refl v)
  | path names r =>
    obtain ⟨-, hget⟩ := h (.path names r) (by simp [sources])
    refine read_alike rfl hdiscreet ?_
    simp only [eval]
    exact InStep.lift hget
  | template text holes ih =>
    obtain ⟨-, hparts⟩ := hn
    simp only [sources, sourcesOfItems_eq] at h
    simp only [eval, evalHoles_eq]
    refine (InStep.mapM_eq fun x hx => ?_).bind_eq fun ts => InStep.pure (.refl _)
    have hx' := ih x hx (hparts x hx) (agree_of_mem h hx) hsink (hdiscreet.call (.part rfl hx))
    refine hx'.bind fun v w hvw => InStep.lift ?_
    rw [Likeness.filling_eq hvw]
    exact .refl L.faults_equivalence eq_equivalence _
  | branch c t f hc ht hf =>
    obtain ⟨-, hparts⟩ := hn
    simp only [parts, List.forall_mem_cons] at hparts
    simp only [sources, List.mem_append] at h
    simp only [eval]
    have hcondition := hc hparts.1 (fun s hs => h s (Or.inl (Or.inl hs))) hsink (hdiscreet.call .condition)
    refine (hcondition.ensures_from (P := c.MayGive p c₁) fun j _ hjk v hv => ⟨j, hjk.1, hv⟩).bind
      fun v w hvw => ?_
    have hchosen := hdiscreet.call (.chosen hvw.2)
    rw [← hvw.1.congr Value.truthy_unboxed]
    split
    · rename_i htruthy
      rw [if_pos htruthy] at hchosen
      exact ht hparts.2.1 (fun s hs => h s (Or.inl (Or.inr hs))) hsink hchosen
    · rename_i htruthy
      rw [if_neg htruthy] at hchosen
      exact hf hparts.2.2.1 (fun s hs => h s (Or.inr hs)) hsink hchosen
  | unary name f x ih =>
    obtain ⟨hown, hparts⟩ := hn
    have hx : x ∈ parts (.unary name f x) := List.mem_cons_self
    simp only [eval]
    have hoperand := ih (hparts x hx) h hsink (hdiscreet.call (.part rfl hx))
    exact hoperand.bind fun v w hvw => InStep.lift (hown v w hvw)
  | binary name f xs ih =>
    obtain ⟨hown, hparts⟩ := hn
    simp only [sources, sourcesOfItems_eq] at h
    simp only [eval]
    have hitems := evalItems_alike fun x hx =>
      ih x hx (hparts x hx) (agree_of_mem h hx) hsink (hdiscreet.call (.part rfl hx))
    exact hitems.bind fun vs ws hvs => InStep.lift (reduce_alike hown hvs)
  | complex name f xs ih =>
    obtain ⟨hown, hparts⟩ := hn
    simp only [sources, sourcesOfItems_eq] at h
    simp only [eval]
    have hitems := evalItems_alike fun x hx =>
      ih x hx (hparts x hx) (agree_of_mem h hx) hsink (hdiscreet.call (.part rfl hx))
    exact hitems.bind fun vs ws hvs => InStep.lift (hown vs ws hvs)
  | witness name x ih =>
    obtain ⟨-, hparts⟩ := hn
    have hx : x ∈ parts (.witness name x) := List.mem_cons_self
    simp only [eval]
    refine (ih (hparts x hx) h hsink (hdiscreet.call (.part rfl hx))).bind fun v w hvw => ?_
    have hsee : InStep (Journal.Alike p) L.Faults Eq (Eval.report (.named "") (.seen v))
        (Eval.report (.named "") (.seen w)) :=
      Eval.report_alike (Eval.take_congr (hvw.congr Value.writable_unboxed))
    exact hsee.bind_eq fun _ => InStep.pure hvw
  | array xs ih =>
    obtain ⟨-, hparts⟩ := hn
    simp only [sources, sourcesOfItems_eq] at h
    simp only [eval]
    have hitems := evalItems_alike fun x hx =>
      ih x hx (hparts x hx) (agree_of_mem h hx) hsink (hdiscreet.call (.part rfl hx))
    exact hitems.bind fun vs ws hvs => InStep.pure (Likeness.values_list.mpr hvs)
  | object es ih =>
    obtain ⟨-, hparts⟩ := hn
    simp only [sources, sourcesOfEntries_eq] at h
    simp only [eval, evalEntries_eq]
    have hentries : List.Forall₂ (fun e d => InStep (Journal.Alike p) L.Faults L.Entries
        (evalEntry c₁ e) (evalEntry c₂ d)) es es := by
      refine List.forall₂_same.mpr fun e he => ?_
      have hpart : e.2 ∈ parts (.object es) := List.mem_map_of_mem he
      have hagree : ∀ s ∈ e.2.sources, AgreeOn L parent c₁ c₂ s :=
        fun s hs => h s (List.mem_flatMap.mpr ⟨e, he, hs⟩)
      have hvalue := ih e he (hparts _ hpart) hagree hsink (hdiscreet.call (.part rfl hpart))
      exact hvalue.bind fun v w hvw => InStep.pure ⟨.refl _, hvw⟩
    exact (InStep.mapM hentries).bind fun fs gs hfs => InStep.pure (Likeness.values_object.mpr hfs)
  | property base keys hb hk =>
    obtain ⟨-, hparts⟩ := hn
    simp only [parts, List.forall_mem_cons] at hparts
    simp only [sources, sourcesOfItems_eq, List.mem_append] at h
    refine read_alike rfl hdiscreet ?_
    simp only [eval, evalKeys_eq]
    have hbase := hb hparts.1 (fun s hs => h s (Or.inl hs)) hsink
      (hdiscreet.call (.part rfl List.mem_cons_self))
    refine hbase.bind fun v w hvw => InStep.foldlM (fun u x hux key hkey => ?_) (Or.inl hvw)
    have hagree := agree_of_mem (fun s hs => h s (Or.inr hs)) hkey
    have hkeys := hk key hkey (hparts.2 key hkey) hagree hsink
      (hdiscreet.call (.part rfl (List.mem_cons_of_mem _ hkey)))
    exact hkeys.bind fun a b hab => InStep.lift (Likeness.follow_reads hux hab)
  | calculated x ih =>
    obtain ⟨-, hparts⟩ := hn
    have hx : x ∈ parts (.calculated x) := List.mem_cons_self
    simp only [sources, List.mem_cons] at h
    simp only [eval]
    have hresult := ih (hparts x hx) (fun s hs => h s (Or.inr hs)) hsink (hdiscreet.call (.part rfl hx))
    exact hresult.bind fun v w hvw => Eval.distinguish_alike hvw
  | map source body hs hb =>
    obtain ⟨-, hparts⟩ := hn
    simp only [parts, List.forall_mem_cons] at hparts
    simp only [sources, List.mem_append] at h
    simp only [eval_map]
    have hsource := hs hparts.1 (fun s hs => h s (Or.inl hs)) hsink (hdiscreet.call .source)
    refine (hsource.ensures_from (P := source.MayGive p c₁) fun j _ hjk v hv => ⟨j, hjk.1, hv⟩).bind
      fun v w hvw => mapOver_alike hvw.1 fun q r hqr s t hst hbound => ?_
    -- the body is evaluated with alike entries bound in both contexts
    exact hb hparts.2.1 (fun s hs => (h s (Or.inr hs)).bind hparent hqr hst) (hsink.bind hqr hst)
      (hdiscreet.call (.body hvw.2 hbound))
  | recorded r d x ih =>
    obtain ⟨-, hparts⟩ := hn
    have hx : x ∈ parts (.recorded r d x) := List.mem_cons_self
    simp only [eval]
    refine (Eval.open_alike hsink).bind fun number number' _ => ?_
    refine (ih (hparts x hx) h hsink (hdiscreet.call (.part rfl hx))).bind fun v w hvw => ?_
    have hclose : InStep (Journal.Alike p) L.Faults Eq (Eval.closeRecord r number v)
        (Eval.closeRecord r number' w) :=
      Eval.report_alike (Eval.take_congr (hvw.congr Value.writable_unboxed))
    exact hclose.bind_eq fun _ => InStep.pure hvw

end Node

/-! ## Logics and logic maps -/

section Maps

variable {L : Likeness} {p : Policy}

theorem Logic.eval_alike {parent : String} (hparent : parent ≠ "map") (l : Logic) (hbase : l.base = [])
    (hroot : l.root.Obeys (.keeping L)) {c₁ c₂ : Fields} (h₁ : Mapping.Distinct c₁)
    (h₂ : Mapping.Distinct c₂) (h : ∀ s ∈ l.root.sources, AgreeOn L parent c₁ c₂ s)
    (hsink : RefusedAlike p c₁ c₂) (hdiscreet : l.root.Discreet L p c₁) :
    InStep (Journal.Alike p) L.Faults L.Values (l.eval (.object c₁)) (l.eval (.object c₂)) := by
  have hover {c : Fields} (hc : Mapping.Distinct c) : Mapping.overlay l.base c = c := by
    rw [hbase]
    exact Mapping.ofEntries_of_distinct hc
  simp only [eval, hover h₁, hover h₂]
  exact l.root.eval_alike hparent hroot h hsink hdiscreet

namespace LogicMap

/-- The logics that a map may evaluate in a context: one for the whole or those
of all entries, and for a list all conditions and what stands in the layers that
may apply. -/
inductive MayEvaluate (p : Policy) (context : Value) : LogicMap → Logic → Prop
  | whole {es : List (Key × Logic)} {l : Logic} (h : Mapping.get? Blueprint.logicKey es = some l) :
      MayEvaluate p context (.keyed es) l
  | entry {es : List (Key × Logic)} {e : Key × Logic} (h : Mapping.get? Blueprint.logicKey es = none)
      (he : e ∈ es) : MayEvaluate p context (.keyed es) e.2
  | condition {layers : List (Option Logic × LogicMap)} {l : Logic} {content : LogicMap}
      (he : (some l, content) ∈ layers) : MayEvaluate p context (.layered layers) l
  | content {layers : List (Option Logic × LogicMap)} {e : Option Logic × LogicMap} {l : Logic}
      (he : e ∈ layers)
      (happlies : ∃ j : Journal, j.policy = p ∧ outcome (applies context e.1) j = .ok true)
      (h : MayEvaluate p context e.2 l) : MayEvaluate p context (.layered layers) l

theorem MayEvaluate.mem_logics {context : Value} {m : LogicMap} {l : Logic}
    (h : m.MayEvaluate p context l) : l ∈ m.logics := by
  induction h with
  | whole h =>
    obtain ⟨e, he, rfl⟩ := Mapping.mem_of_get? h
    exact List.mem_map_of_mem he
  | entry _ he => exact List.mem_map_of_mem he
  | condition he =>
    rw [logics, logicsOfLayers_eq]
    exact List.mem_flatMap.mpr ⟨_, he, by simp⟩
  | content he _ _ ih =>
    rw [logics, logicsOfLayers_eq]
    exact List.mem_flatMap.mpr ⟨_, he, List.mem_append_right _ ih⟩

theorem contribution_alike {v w : Value} (h : L.Values v w) :
    Related L.Faults (List.Forall₂ L.Entries) (contribution v) (contribution w) := by
  have hmerged : L.Faults (.mergedValue v) (.mergedValue w) :=
    Likeness.Faults.about .mergedValue (fun _ => rfl) (fun _ => rfl)
      (fun v => congrArg ("Logic map entries must evaluate to objects to be merged, got " ++ ·)
        (Fault.typed_unboxed v)) h
  cases h.form with
  | @object fs gs hentries => exact hentries
  | list _ => exact hmerged
  | leaf hv hw =>
    have hthrow {u : Value} (hu : Likeness.isLeaf u = true) : contribution u = .error (.mergedValue u) := by
      cases u <;> first | rfl | cases hu
    rw [hthrow hv, hthrow hw]
    exact hmerged

theorem overlay_alike {fs gs : Fields} (h : List.Forall₂ L.Entries fs gs) {fs' gs' : Fields}
    (h' : List.Forall₂ L.Entries fs' gs') :
    List.Forall₂ L.Entries (Mapping.overlay fs fs') (Mapping.overlay gs gs') := by
  unfold Mapping.overlay
  induction h' generalizing fs gs with
  | nil => exact h
  | cons hed _ ih => exact ih (Likeness.entries_put h hed.1 hed.2)

theorem evalIn_alike {v₁ v₂ : Value} (m : LogicMap)
    (h : ∀ l, m.MayEvaluate p v₁ l →
      InStep (Journal.Alike p) L.Faults L.Values (l.eval v₁) (l.eval v₂)) :
    InStep (Journal.Alike p) L.Faults L.Values (m.evalIn v₁) (m.evalIn v₂) := by
  induction m with
  | keyed es =>
    simp only [evalIn, evalKeyed]
    cases hget : Mapping.get? Blueprint.logicKey es with
    | some l => exact h l (.whole hget)
    | none =>
      simp only [evalEntries_eq]
      refine (InStep.mapM (W := L.Entries) (List.forall₂_same.mpr fun e he => ?_)).bind
        fun fs gs hfs => InStep.pure (Likeness.values_object.mpr hfs)
      exact (h e.2 (.entry hget he)).bind fun v w hvw => InStep.pure ⟨.refl _, hvw⟩
  | layered layers ih =>
    simp only [evalIn, evalLayers_eq, bind_assoc, pure_bind]
    have hshares : List.Forall₂ (fun e d => InStep (Journal.Alike p) L.Faults (List.Forall₂ L.Entries)
        (share v₁ e) (share v₂ d)) layers layers := by
      refine List.forall₂_same.mpr fun e he => ?_
      have hcondition : InStep (Journal.Alike p) L.Faults Eq (applies v₁ e.1) (applies v₂ e.1) := by
        obtain ⟨_ | l, content⟩ := e
        · exact InStep.pure rfl
        · exact (h l (.condition he)).bind fun v w hvw =>
            InStep.pure (hvw.congr Value.truthy_unboxed)
      refine (hcondition.ensures_from (P := fun b => ∃ j : Journal, j.policy = p
        ∧ outcome (applies v₁ e.1) j = .ok b) fun j _ hjk b hb => ⟨j, hjk.1, hb⟩).bind fun b b' hb => ?_
      obtain ⟨rfl, hb⟩ := hb
      split
      · rename_i htrue
        subst htrue
        exact (ih e he fun l hl => h l (.content he hb hl)).bind fun v w hvw =>
          InStep.lift (contribution_alike hvw)
      · exact InStep.pure .nil
    refine (InStep.mapM hshares).bind fun ss ts hst => InStep.pure (Likeness.values_object.mpr ?_)
    have hfold {fs gs : Fields} (h : List.Forall₂ L.Entries fs gs) :
        List.Forall₂ L.Entries (ss.foldl Mapping.overlay fs) (ts.foldl Mapping.overlay gs) := by
      induction hst generalizing fs gs with
      | nil => exact h
      | cons hs _ ih => exact ih (overlay_alike h hs)
    exact hfold .nil

end LogicMap

end Maps

/-! ## What the reported paths decide -/

/-- Two contexts give alike outcomes along all of some paths. -/
def AlikeAlong (L : Likeness) (parent : String) (paths : List (List String)) (c₁ c₂ : Fields) : Prop :=
  ∀ names ∈ paths, Related L.Faults L.Values
    ((Resolver.inherited parent).get (.object c₁) (names.map .text))
    ((Resolver.inherited parent).get (.object c₂) (names.map .text))

/-- A logic without a base context whose tree reads its reported paths alone and
tells nothing apart that is alike. -/
structure Logic.Honest (L : Likeness) (parent : String) (l : Logic) : Prop where
  base : l.base = []
  lookups : l.lookups = l.root.paths
  sources : ∀ s ∈ l.root.sources, s = .count ∨ ∃ names, s = .path names (.inherited parent)
  root : l.root.Obeys (.keeping L)

theorem Logic.Honest.agree {L : Likeness} {parent : String} {l : Logic} (hl : l.Honest L parent)
    {c₁ c₂ : Fields} (h : AlikeAlong L parent l.lookups c₁ c₂) :
    ∀ s ∈ l.root.sources, AgreeOn L parent c₁ c₂ s := by
  intro s hs
  rcases hl.sources s hs with rfl | ⟨names, rfl⟩
  · trivial
  · refine ⟨rfl, (h names ?_).imp fun v w _ _ hvw => Or.inl hvw⟩
    rw [hl.lookups]
    exact List.mem_filterMap.mpr ⟨_, hs, rfl⟩

theorem Logic.build_honest {L : Likeness} {around : Surroundings} {settings : LogicSettings}
    (hset : around.settings = .ok settings) {ops : List (String × Entry)}
    (hops : ∀ e ∈ ops, e.2.Brings (Factory.Pure L)) (d : Value) :
    Ensures (Honest L settings.parentKey) (build around ops .null d) := by
  intro draft l hl
  obtain ⟨fields, registry, _, hbase, hreg, -⟩ := build_ok hl
  have hbring : ∀ e ∈ ops, e.2.Brings (Factory.Regular fun s =>
      s = .count ∨ ∃ names, s = .path names (.inherited settings.parentKey)) :=
    fun e he => (hops e he).mono fun f hf => hf.functional.regular.mono fun s hs => Or.inl hs
  have hobeys : registry.All (Factory.Obeys (.keeping L)) :=
    Registry.merged_all hreg (Registry.standard_obeys (Law.keeping_standard L)) fun e he =>
      (hops e he).mono fun f hf => hf.obeys
  obtain ⟨hlookups, hsources⟩ := build_reads hbring hset (fun names => Or.inr ⟨names, rfl⟩) hl
  obtain ⟨-, hfields, hroot⟩ := build_parts hbase hreg hset hl
  exact ⟨hfields.trans (Except.ok.inj hbase).symm, hlookups, hsources,
    Compile.compile_obeys hobeys .plain trivial _ _ hroot⟩

/-- Two contexts that give alike outcomes along the reported paths are alike to a
logic, and to a logic map: they give alike values, or alike faults. Compared
object by object that is always so; compared as data it is so if the evaluation
meets no method of a number. Debug records show the whole contexts, so sinks must
not be choosy about those. -/
theorem reported_paths_decide (around : Surroundings) (settings : LogicSettings)
    (hset : around.settings = .ok settings) (hparent : settings.parentKey ≠ "map") (L : Likeness)
    (ops : List (String × Entry)) (hops : ∀ e ∈ ops, e.2.Brings (Factory.Pure L))
    (c₁ c₂ : Fields) (h₁ : Mapping.Distinct c₁) (h₂ : Mapping.Distinct c₂) (p : Policy)
    (hsink : p.Lenient ∨ (Value.object c₁).writable = true ∧ (Value.object c₂).writable = true)
    (j k : Journal) (hjk : Journal.Alike p j k) (draft : Draft) (d : Value) :
    (∀ l, outcome (Logic.build around ops .null d) draft = .ok l →
        AlikeAlong L settings.parentKey l.lookups c₁ c₂ →
        l.root.Discreet L p c₁ →
        Related L.Faults L.Values (outcome (l.eval (.object c₁)) j) (outcome (l.eval (.object c₂)) k))
      ∧ (∀ m, outcome (LogicMap.build (Logic.build around ops .null) d) draft = .ok m →
        AlikeAlong L settings.parentKey m.lookups c₁ c₂ →
        (∀ l, m.MayEvaluate p (.object c₁) l → l.root.Discreet L p c₁) →
        Related L.Faults L.Values (outcome (m.eval (.object c₁)) j) (outcome (m.eval (.object c₂)) k)) := by
  have hhonest := Logic.build_honest hset hops
  have hrefused : RefusedAlike p c₁ c₂ :=
    hsink.elim Or.inl fun h => RefusedAlike.of_writable h.1 h.2
  have hlogic (l : Logic) (hl : l.Honest L settings.parentKey)
      (h : AlikeAlong L settings.parentKey l.lookups c₁ c₂) (hdiscreet : l.root.Discreet L p c₁) :
      InStep (Journal.Alike p) L.Faults L.Values (l.eval (.object c₁)) (l.eval (.object c₂)) :=
    l.eval_alike hparent hl.base hl.root h₁ h₂ (hl.agree h) hrefused hdiscreet
  refine ⟨fun l hl h hdiscreet => ?_, fun m hm h hdiscreet => ?_⟩
  · exact (hlogic l (hhonest d draft l hl) h hdiscreet j k hjk).1
  · have hlogics := LogicMap.build_logics hhonest d draft m hm
    rw [LogicMap.lookups_eq] at h
    have hmap := m.evalIn_alike fun l hl => hlogic l (hlogics l hl.mem_logics)
      (fun names hnames => h names (List.mem_flatMap.mpr ⟨l, hl.mem_logics, hnames⟩)) (hdiscreet l hl)
    simp only [LogicMap.eval, LogicMap.contextOf_object]
    exact (hmap j k hjk).1

/-- A path of one name does not look at another name, nor at which of two numbers
of one value it finds. -/
theorem other_entries_do_not_matter :
    ∃ l, outcome (Logic.build Logic.ordinary [] .null (.text "$a")) ⟨0, [], false⟩ = .ok l
      ∧ Related Likeness.data.Faults Likeness.data.Values
          (outcome (l.eval (.object [(.text "a", .int ⟨1000, .context 0⟩), (.text "b", .text "x")])) Journal.empty)
          (outcome (l.eval (.object [(.text "b", .null), (.text "a", .int ⟨1000, .context 1⟩)]))
            Journal.empty) := by
  have hbase : Entries.ofValue .null = .ok [] := rfl
  have hset : Logic.ordinary.settings = .ok ⟨false, Settings.defaultParentKey, Settings.defaultMarker⟩ := rfl
  have hbuild := Logic.build_path (s := "$a") hbase hset "a" rfl ⟨0, [], false⟩
  refine ⟨_, hbuild, ?_⟩
  refine (reported_paths_decide Logic.ordinary _ hset (by decide) .data [] (by simp) _ _ (by decide)
    (by decide) Journal.empty.policy (Or.inr ⟨by decide +kernel, by decide +kernel⟩) Journal.empty Journal.empty
    ⟨rfl, rfl, rfl⟩ ⟨0, [], false⟩ (.text "$a")).1 _ hbuild ?_ ?_
  · intro names hnames
    obtain rfl := List.mem_singleton.mp hnames
    rfl
  · -- a path evaluates nothing but itself, and finds a number
    rintro - e he - f ⟨j, -, hf⟩
    rcases he.cases_head with rfl | ⟨_, hcall, -⟩
    · cases hf
    · cases hcall with
      | part _ hx => cases hx

/-! ## Numbers of one value -/

/-- A method of the number at a path, as a definition. -/
def methodAt (path : String) : Value :=
  .object [(.text "object-property", .list [.text path, .text "bit_length"])]

/-- Whether a number and one in the parent scope have the same method. -/
def sameMethod : Value := .object [(.text "eq", .list [methodAt "$a", methodAt "$__parent__.a"])]

theorem compile_methodAt {s : String} (path : String) (h : s.toList = '$' :: path.toList) (parent : String)
    (sink : Sink) :
    Compile.compile ⟨Registry.standard, Settings.defaultMarker, .ok parent, sink⟩ .plain (methodAt s) = (do
      Build.note (.compiling "object-property" (.list [.text s, .text "bit_length"]))
      Build.note (.compiling Operation.pathName (.text path))
      Build.note (.lookup (Text.dotted path))
      Build.note (.compiling Operation.literalName (.text "bit_length"))
      return .property (.path (Text.dotted path) (.inherited parent)) [.literal (.text "bit_length")]) := by
  have hproperty : Registry.standard.factory? (.text "object-property") = some (.form Blueprint.property) := rfl
  have hliteral : Registry.standard.factory? (.text Operation.literalName) = some (.form Blueprint.literal) := rfl
  have hselect : Compile.select Settings.defaultMarker (.text "bit_length")
      = .ok (.text Operation.literalName, .text "bit_length") := rfl
  have htext : Compile.compile ⟨Registry.standard, Settings.defaultMarker, .ok parent, sink⟩ .plain
      (.text "bit_length") = (do
      Build.note (.compiling Operation.literalName (.text "bit_length"))
      return .literal (.text "bit_length")) := by
    rw [Compile.compile]
    simp [hselect, hliteral, Compile.ofFactory, Compile.ofBlueprint, Blueprint.literal,
      Blueprint.payloads, Blueprint.quote, Key.plain]
  have hsize {t : String} (ht : t = s ∨ t = "bit_length") : (Value.text t).size < (methodAt s).size := by
    rcases ht with rfl | rfl <;> simp only [methodAt, Value.size, Value.sizeFields, Value.sizeItems] <;> omega
  have hpath := hsize (.inl rfl)
  have hname := hsize (.inr rfl)
  rw [Compile.compile]
  simp only [methodAt] at hpath hname
  simp [methodAt, Compile.select, hproperty, Compile.ofFactory, Compile.ofBlueprint, Blueprint.property,
    Blueprint.operands, OperandCount.admits, Compile.beneath, Logic.compile_reading path h, htext, hpath,
    hname, Key.plain]

/-- The logic of `sameMethod`. -/
def sameMethodLogic : Logic where
  definition := sameMethod
  base := []
  lookups := [["a"], ["__parent__", "a"]]
  root := .binary "eq" Function.eq
    [.property (.path ["a"] (.inherited Settings.defaultParentKey)) [.literal (.text "bit_length")],
      .property (.path ["__parent__", "a"] (.inherited Settings.defaultParentKey))
        [.literal (.text "bit_length")]]

theorem build_sameMethod :
    outcome (Logic.build Logic.ordinary [] .null sameMethod) ⟨0, [], false⟩ = .ok sameMethodLogic := by
  have hbase : Entries.ofValue .null = .ok [] := rfl
  have heq : Registry.standard.factory? (.text "eq") = some (.binary "eq" Function.eq) := rfl
  have hsize : (methodAt "$a").size < sameMethod.size
      ∧ (methodAt "$__parent__.a").size < sameMethod.size := by
    decide
  have hown := compile_methodAt (s := "$a") "a" rfl Settings.defaultParentKey Logic.ordinary.sink
  have habove := compile_methodAt (s := "$__parent__.a") "__parent__.a" rfl Settings.defaultParentKey
    Logic.ordinary.sink
  have hshort : Text.dotted "a" = ["a"] := rfl
  have hlong : Text.dotted "__parent__.a" = ["__parent__", "a"] := rfl
  rw [Logic.build_eq hbase rfl rfl, Compile.compile]
  simp only [sameMethod] at hsize ⊢
  simp [Logic.setup, Compile.select, heq, Factory.binary, Compile.ofFactory, Compile.ofBlueprint,
    Blueprint.binary, Blueprint.operands, OperandCount.admits, Compile.beneath, hsize, hown, habove,
    outcome_bind, Build.note, Build.consult, hshort, hlong, Except.map, Logic.lookupsOf,
    sameMethodLogic, sameMethod]

/-- Two methods of one name are the same if their numbers are one object. -/
theorem eval_sameMethod {c : Fields} {n m : Boxed Int}
    (hown : Resolver.get (.inherited Settings.defaultParentKey) (.object c) [.text "a"] = .ok (.int n))
    (habove : Resolver.get (.inherited Settings.defaultParentKey) (.object c)
      [.text "__parent__", .text "a"] = .ok (.int m)) (j : Journal) :
    outcome (sameMethodLogic.root.eval c) j = .ok (.bool (n.interned == m.interned)) := by
  have hfollow (n : Boxed Int) : Node.follow (.int n) (.text "bit_length")
      = .ok (.foreign (.method (.int n.interned) "bit_length")) := rfl
  have hsame : Value.same (.foreign (.method (.int n.interned) "bit_length"))
      (.foreign (.method (.int m.interned) "bit_length")) = (n.interned == m.interned) := by
    simp [Value.same]
  simp [sameMethodLogic, Node.eval, hown, habove, hfollow, Node.evalItems, Node.evalKeys,
    Node.reduce, Function.eq, Value.strictEquals, Value.equals, hsame, Value.isBool, Value.isNaN]

/-- Two documents that give the same data along the reported paths, by one number
in one and by two numbers of its value in the other, give opposite values. -/
theorem numbers_of_one_value_are_told_apart :
    ∃ l c₁ c₂, outcome (Logic.build Logic.ordinary [] .null sameMethod) ⟨0, [], false⟩ = .ok l
      ∧ l.lookups = [["a"], ["__parent__", "a"]]
      ∧ (Value.object [(.text "__parent__", .object [(.text "a", .int 1000)])]).boxed .context = .object c₁
      ∧ (Value.object [(.text "a", .int 1000),
          (.text "__parent__", .object [(.text "a", .int 1000)])]).boxed .context = .object c₂
      ∧ AlikeAlong .data Settings.defaultParentKey l.lookups c₁ c₂
      ∧ outcome (l.eval (.object c₁)) Journal.empty = .ok (.bool true)
      ∧ outcome (l.eval (.object c₂)) Journal.empty = .ok (.bool false) := by
  refine ⟨_, _, _, build_sameMethod, rfl, rfl, rfl, fun names hnames => ?_, ?_, ?_⟩
  · rcases List.mem_cons.mp hnames with rfl | hnames
    · rfl
    · obtain rfl := List.mem_singleton.mp hnames
      rfl
  · exact eval_sameMethod (n := ⟨1000, .context 0⟩) (m := ⟨1000, .context 0⟩) rfl rfl Journal.empty
  · exact eval_sameMethod (n := ⟨1000, .context 0⟩) (m := ⟨1000, .context 1⟩) rfl rfl Journal.empty

end Rulebook
