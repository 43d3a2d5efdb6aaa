-- Trees of data and of expressions as a whole: induction over them, what
-- stands in a value, the same tree without its recorders, and what its value
-- comes from besides operations, in document order.
import Mathlib.Data.List.Forall2
import Rulebook.Node.Evaluate

namespace Rulebook

/-! ## Induction -/

/-- Induction over data, with all items and all fields at hand. -/
@[elab_as_elim, induction_eliminator]
theorem Value.tree_induction {motive : Value → Prop}
    (undefined : motive .undefined) (null : motive .null) (bool : ∀ b, motive (.bool b))
    (int : ∀ n, motive (.int n)) (float : ∀ x, motive (.float x)) (text : ∀ s, motive (.text s))
    (list : ∀ xs, (∀ x ∈ xs, motive x) → motive (.list xs))
    (object : ∀ fs, (∀ e ∈ fs, motive e.2) → motive (.object fs))
    (foreign : ∀ f, motive (.foreign f)) (v : Value) : motive v := by
  refine @Value.rec motive (fun xs => ∀ x ∈ xs, motive x) (fun fs => ∀ e ∈ fs, motive e.2)
    (fun e => motive e.2) undefined null bool int float text list object foreign ?_ ?_ ?_ ?_ ?_ v
  · simp
  · intro x xs hx hxs y hy
    rcases List.mem_cons.mp hy with rfl | hy
    · exact hx
    · exact hxs y hy
  · simp
  · intro e es he hes y hy
    rcases List.mem_cons.mp hy with rfl | hy
    · exact he
    · exact hes y hy
  · intro _ _ h
    exact h

/-- Induction over trees, with all nodes beneath one at hand. -/
@[elab_as_elim, induction_eliminator]
theorem Node.tree_induction {motive : Node → Prop}
    (literal : ∀ v, motive (.literal v)) (path : ∀ names r, motive (.path names r))
    (template : ∀ text holes, (∀ x ∈ holes, motive x) → motive (.template text holes))
    (branch : ∀ c t f, motive c → motive t → motive f → motive (.branch c t f))
    (unary : ∀ name f x, motive x → motive (.unary name f x))
    (binary : ∀ name f xs, (∀ x ∈ xs, motive x) → motive (.binary name f xs))
    (complex : ∀ name f xs, (∀ x ∈ xs, motive x) → motive (.complex name f xs))
    (witness : ∀ name x, motive x → motive (.witness name x))
    (array : ∀ xs, (∀ x ∈ xs, motive x) → motive (.array xs))
    (object : ∀ es, (∀ e ∈ es, motive e.2) → motive (.object es))
    (property : ∀ base keys, motive base → (∀ x ∈ keys, motive x) → motive (.property base keys))
    (calculated : ∀ x, motive x → motive (.calculated x))
    (map : ∀ source body, motive source → motive body → motive (.map source body))
    (recorded : ∀ r d x, motive x → motive (.recorded r d x)) (n : Node) : motive n := by
  refine @Node.rec motive (fun xs => ∀ x ∈ xs, motive x) (fun es => ∀ e ∈ es, motive e.2)
    (fun e => motive e.2) literal path template branch unary binary complex witness array object
    property calculated map recorded ?_ ?_ ?_ ?_ ?_ n
  · simp
  · intro x xs hx hxs y hy
    rcases List.mem_cons.mp hy with rfl | hy
    · exact hx
    · exact hxs y hy
  · simp
  · intro e es he hes y hy
    rcases List.mem_cons.mp hy with rfl | hy
    · exact he
    · exact hes y hy
  · intro _ _ h
    exact h

/-- A value that stands in another one, at any depth, or is that value. -/
inductive Value.Inside (w : Value) : Value → Prop
  | here : Inside w w
  | item {x : Value} {xs : List Value} (hx : x ∈ xs) (h : Inside w x) : Inside w (.list xs)
  | entry {e : Key × Value} {fs : Fields} (he : e ∈ fs) (h : Inside w e.2) : Inside w (.object fs)

namespace Value

/-- Whatever stands in a value has a property. -/
def Throughout (P : Value → Prop) (v : Value) : Prop := ∀ w, Inside w v → P w

section Throughout

variable {P : Value → Prop}

theorem throughout_list {xs : List Value} :
    Throughout P (.list xs) ↔ P (.list xs) ∧ ∀ x ∈ xs, Throughout P x := by
  constructor
  · intro h
    exact ⟨h _ .here, fun x hx w hw => h w (.item hx hw)⟩
  · rintro ⟨hwhole, hitems⟩ w hw
    cases hw with
    | here => exact hwhole
    | item hx hw => exact hitems _ hx w hw

theorem throughout_object {fs : Fields} :
    Throughout P (.object fs) ↔ P (.object fs) ∧ ∀ e ∈ fs, Throughout P e.2 := by
  constructor
  · intro h
    exact ⟨h _ .here, fun e he w hw => h w (.entry he hw)⟩
  · rintro ⟨hwhole, hentries⟩ w hw
    cases hw with
    | here => exact hwhole
    | entry he hw => exact hentries _ he w hw

theorem throughout_leaf {v : Value} (hlist : ∀ xs, v ≠ .list xs) (hobject : ∀ fs, v ≠ .object fs) :
    Throughout P v ↔ P v := by
  constructor
  · intro h
    exact h _ .here
  · intro h w hw
    cases hw with
    | here => exact h
    | item => exact absurd rfl (hlist _)
    | entry => exact absurd rfl (hobject _)

end Throughout

end Value

namespace Node

/-! ## Trees with other recorders -/

mutual
/-- The tree with its recorded nodes made anew. -/
def retrace (f : Recorder → Value → Node → Node) : Node → Node
  | .literal v => .literal v
  | .path names r => .path names r
  | .template text holes => .template text (retraceItems f holes)
  | .branch c t e => .branch (c.retrace f) (t.retrace f) (e.retrace f)
  | .unary name g x => .unary name g (x.retrace f)
  | .binary name g xs => .binary name g (retraceItems f xs)
  | .complex name g xs => .complex name g (retraceItems f xs)
  | .witness name x => .witness name (x.retrace f)
  | .array xs => .array (retraceItems f xs)
  | .object es => .object (retraceEntries f es)
  | .property base keys => .property (base.retrace f) (retraceItems f keys)
  | .calculated x => .calculated (x.retrace f)
  | .map source body => .map (source.retrace f) (body.retrace f)
  | .recorded r d x => f r d (x.retrace f)
def retraceItems (f : Recorder → Value → Node → Node) : List Node → List Node
  | [] => []
  | x :: xs => x.retrace f :: retraceItems f xs
def retraceEntries (f : Recorder → Value → Node → Node) : List (Key × Node) → List (Key × Node)
  | [] => []
  | (k, x) :: es => (k, x.retrace f) :: retraceEntries f es
end

@[simp] theorem retraceItems_eq (f : Recorder → Value → Node → Node) (xs : List Node) :
    retraceItems f xs = xs.map (retrace f) := by
  induction xs with
  | nil => rfl
  | cons x xs ih => simp [retraceItems, ih]

@[simp] theorem retraceEntries_eq (f : Recorder → Value → Node → Node) (es : List (Key × Node)) :
    retraceEntries f es = es.map fun e => (e.1, e.2.retrace f) := by
  induction es with
  | nil => rfl
  | cons e es ih => simp [retraceEntries, ih]

/-- The tree without its recorders. -/
def erase : Node → Node := retrace fun _ _ x => x

/-- The tree with its recorders told apart by nothing but their sinks. -/
def anonymous : Node → Node := retrace fun r d x => .recorded ⟨0, r.sink⟩ d x

/-! ## Where values come from -/

/-- What a value comes from besides operations: a path of the context, or
the count of calculated NaNs. -/
inductive Source where
  | path (names : List String) (resolver : Resolver)
  | count
deriving DecidableEq

/-- The path that a source reads. -/
def Source.path? : Source → Option (List String)
  | .path names _ => some names
  | .count => none

mutual
/-- The sources of a tree, in document order. -/
def sources : Node → List Source
  | .literal _ => []
  | .path names r => [.path names r]
  | .template _ holes => sourcesOfItems holes
  | .branch c t f => c.sources ++ t.sources ++ f.sources
  | .unary _ _ x => x.sources
  | .binary _ _ xs => sourcesOfItems xs
  | .complex _ _ xs => sourcesOfItems xs
  | .witness _ x => x.sources
  | .array xs => sourcesOfItems xs
  | .object es => sourcesOfEntries es
  | .property base keys => base.sources ++ sourcesOfItems keys
  | .calculated x => .count :: x.sources
  | .map source body => source.sources ++ body.sources
  | .recorded _ _ x => x.sources
def sourcesOfItems : List Node → List Source
  | [] => []
  | x :: xs => x.sources ++ sourcesOfItems xs
def sourcesOfEntries : List (Key × Node) → List Source
  | [] => []
  | (_, x) :: es => x.sources ++ sourcesOfEntries es
end

@[simp] theorem sourcesOfItems_eq (xs : List Node) : sourcesOfItems xs = xs.flatMap sources := by
  induction xs with
  | nil => rfl
  | cons x xs ih => simp [sourcesOfItems, ih]

@[simp] theorem sourcesOfEntries_eq (es : List (Key × Node)) :
    sourcesOfEntries es = es.flatMap fun e => e.2.sources := by
  induction es with
  | nil => rfl
  | cons e es ih => simp [sourcesOfEntries, ih]

/-- Recorders read nothing. -/
theorem sources_retrace {f : Recorder → Value → Node → Node}
    (hf : ∀ r d x, (f r d x).sources = x.sources) (n : Node) : (n.retrace f).sources = n.sources := by
  have hmap {xs : List Node} (h : ∀ x ∈ xs, (x.retrace f).sources = x.sources) :
      (xs.map (retrace f)).flatMap sources = xs.flatMap sources := by
    rw [List.flatMap_map]
    exact List.flatMap_congr h
  induction n with
  | literal v => rfl
  | path names r => rfl
  | template text holes ih => simp [retrace, sources, hmap ih]
  | branch c t e hc ht he => simp [retrace, sources, hc, ht, he]
  | unary name g x ih => simp [retrace, sources, ih]
  | binary name g xs ih => simp [retrace, sources, hmap ih]
  | complex name g xs ih => simp [retrace, sources, hmap ih]
  | witness name x ih => simp [retrace, sources, ih]
  | array xs ih => simp [retrace, sources, hmap ih]
  | object es ih =>
    simp only [retrace, sources, retraceEntries_eq, sourcesOfEntries_eq, List.flatMap_map]
    exact List.flatMap_congr ih
  | property base keys hb hk => simp [retrace, sources, hb, hmap hk]
  | calculated x ih => simp [retrace, sources, ih]
  | map source body hs hb => simp [retrace, sources, hs, hb]
  | recorded r d x ih => simpa only [retrace, sources, hf] using ih

@[simp] theorem sources_erase (n : Node) : n.erase.sources = n.sources :=
  sources_retrace (f := fun _ _ x => x) (fun _ _ _ => rfl) n

/-- The paths that a tree reads, in document order. -/
def paths (n : Node) : List (List String) := n.sources.filterMap Source.path?

end Node
end Rulebook
