-- Contexts in which paths lead to alike values. An entry that `map` binds hides
-- no path but its own, so such contexts agree beneath it; they open the same
-- records, if sinks do not tell them apart, and count the same numbers.
import Rulebook.Proofs.Likeness
import Rulebook.Proofs.Valuation

namespace Rulebook

/-! ## Paths beneath a bound entry -/

namespace Path

theorem text_bne {a b : String} (h : a ≠ b) : (Key.text a == Key.text b) = false := by
  simpa [BEq.beq, Key.identity] using h

/-- An entry under one key hides nothing else, unless it is the parent link. -/
theorem inScope_put {parent name key : String} (hparent : parent ≠ key) (hname : name ≠ key)
    (v : Value) (fs : Fields) :
    inScope (.text parent) (.text name) (.object (Mapping.put (.text key) v fs))
      = inScope (.text parent) (.text name) (.object fs) := by
  have hget {a : String} (ha : a ≠ key) :
      Mapping.get? (.text a) (Mapping.put (.text key) v fs) = Mapping.get? (.text a) fs := by
    rw [Mapping.get?_put, text_bne ha.symm]
    rfl
  simp only [inScope, field?, Value.key?, Option.bind_some, aboveScope_eq, hget hparent, hget hname]

end Path

namespace Resolver

/-- A path that starts at another name is followed as if nothing was bound. -/
theorem get_put {parent name key : String} (hparent : parent ≠ key) (hname : name ≠ key)
    (v : Value) (fs : Fields) (rest : List Value) :
    (inherited parent).get (.object (Mapping.put (.text key) v fs)) (.text name :: rest)
      = (inherited parent).get (.object fs) (.text name :: rest) := by
  simp only [get, Path.walk, step, Path.stepInherited, Path.inScope_put hparent hname]

/-- A path that starts at the bound name does not look at anything else. -/
theorem get_put_self (parent key : String) (v : Value) (fs : Fields) (rest : List Value) :
    (inherited parent).get (.object (Mapping.put (.text key) v fs)) (.text key :: rest)
      = if v.isUndefined then .ok .undefined else (inherited parent).get v rest := by
  have hget : Mapping.get? (Key.text key) (Mapping.put (Key.text key) v fs) = some v := by
    rw [Mapping.get?_put, if_pos BEq.rfl]
  have hstep : (inherited parent).step (.object (Mapping.put (.text key) v fs)) (.text key) = .ok v := by
    simp only [step, Path.stepInherited, Path.inScope, Path.field?, Value.key?, Option.bind_some, hget]
    rfl
  rw [get, Path.walk, hstep]
  rfl

end Resolver

/-! ## Contexts that agree -/

/-- Two contexts give a source what can be read in alike values. -/
def AgreeOn (L : Likeness) (parent : String) (c₁ c₂ : Fields) : Node.Source → Prop
  | .path names resolver => resolver = .inherited parent
      ∧ Related L.Faults L.Reads (resolver.get (.object c₁) (names.map .text))
        (resolver.get (.object c₂) (names.map .text))
  | .count => True

/-- Two positions with alike values. -/
def Likeness.Positions (L : Likeness) (s t : String × Value) : Prop := s.1 = t.1 ∧ L.Values s.2 t.2

/-- What agrees still does when `map` has bound alike entries in both. -/
theorem AgreeOn.bind {L : Likeness} {parent : String} (hparent : parent ≠ "map") {c₁ c₂ : Fields}
    {s : Node.Source} (h : AgreeOn L parent c₁ c₂ s) {q r : String × Value} (hq : L.Positions q r)
    {v w : Value} (hv : L.Values v w) :
    AgreeOn L parent (Node.bind c₁ q v) (Node.bind c₂ r w) s := by
  have hentry : L.Values (.object [(.text q.1, q.2), (.text "value", v)])
      (.object [(.text r.1, r.2), (.text "value", w)]) := by
    refine Likeness.values_object.mpr (.cons ⟨?_, hq.2⟩ (.cons ⟨.refl _, hv⟩ .nil))
    rw [hq.1]
    exact .refl _
  cases s with
  | count => trivial
  | path names resolver =>
    obtain ⟨rfl, hget⟩ := h
    refine ⟨rfl, ?_⟩
    unfold Node.bind Node.bindingKey
    cases names with
    | nil =>
      -- the empty path is the whole context
      rcases hget with hwhole | ⟨-, ⟨f, hf⟩, -⟩
      · exact Or.inl (Likeness.values_object.mpr
          (Likeness.entries_put (Likeness.values_object.mp hwhole) (.refl _) hentry))
      · cases hf
    | cons name rest =>
      rw [List.map_cons] at hget ⊢
      by_cases hname : name = "map"
      · subst hname
        rw [Resolver.get_put_self, Resolver.get_put_self]
        refine Likeness.walk_reads _ ?_ (Or.inl hentry)
        exact List.forall₂_same.mpr fun s _ => .refl s
      · rw [Resolver.get_put hparent hname, Resolver.get_put hparent hname]
        exact hget

/-! ## Sinks that tell contexts apart -/

/-- A writable mapping with one more entry is as writable as its value. -/
theorem writable_put (key : String) (v : Value) {fs : Fields} (h : (Value.object fs).writable = true) :
    (Value.object (Mapping.put (.text key) v fs)).writable = v.writable := by
  simp only [Value.writable] at h ⊢
  induction fs with
  | nil => simp [Mapping.put, Value.writableFields, Key.writable]
  | cons e fs ih =>
    obtain ⟨k, w⟩ := e
    simp only [Value.writableFields, Bool.and_eq_true] at h
    unfold Mapping.put
    split
    · simp [Value.writableFields, h.1.1, h.2]
    · simp [Value.writableFields, h.1.1, h.1.2, ih h.2]

/-- No sink refuses a record for what it holds. -/
def Policy.Lenient (p : Policy) : Prop := p.strict = false ∧ p.choosy = false

/-- A record of one context is refused exactly if that of another one is, now
and with any entries that `map` binds. -/
def RefusedAlike (p : Policy) (c₁ c₂ : Fields) : Prop :=
  p.Lenient ∨ (Value.object c₁).writable = (Value.object c₂).writable
    ∧ ∀ v w : Value, v.writable = w.writable →
      (Value.object (Mapping.put Node.bindingKey v c₁)).writable
        = (Value.object (Mapping.put Node.bindingKey w c₂)).writable

namespace RefusedAlike

variable {p : Policy} {c₁ c₂ : Fields}

theorem of_writable (h₁ : (Value.object c₁).writable = true) (h₂ : (Value.object c₂).writable = true) :
    RefusedAlike p c₁ c₂ := by
  refine Or.inr ⟨h₁.trans h₂.symm, fun v w hvw => ?_⟩
  rw [Node.bindingKey, writable_put _ v h₁, writable_put _ w h₂, hvw]

theorem bind {L : Likeness} (h : RefusedAlike p c₁ c₂) {q r : String × Value} (hq : L.Positions q r)
    {v w : Value} (hv : L.Values v w) : RefusedAlike p (Node.bind c₁ q v) (Node.bind c₂ r w) := by
  rcases h with h | ⟨-, hput⟩
  · exact Or.inl h
  · have hentry : (Value.object [(.text q.1, q.2), (.text "value", v)]).writable
        = (Value.object [(.text r.1, r.2), (.text "value", w)]).writable := by
      simp [Value.writable, Value.writableFields, Key.writable, hq.2.congr Value.writable_unboxed,
        hv.congr Value.writable_unboxed]
    refine Or.inr ⟨hput _ _ hentry, fun u x hux => ?_⟩
    rw [Node.bind, Node.bind, Mapping.put_put BEq.rfl, Mapping.put_put BEq.rfl]
    exact hput u x hux

theorem take_eq (h : RefusedAlike p c₁ c₂) (sink : Sink) (r : Recorder) (n : Nat) (d : Value) :
    p.take sink (.evaluating r n d (.object c₁)) = p.take sink (.evaluating r n d (.object c₂)) := by
  rcases h with ⟨hstrict, hchoosy⟩ | ⟨hwritable, -⟩
  · cases sink <;> simp [Policy.take, hstrict, hchoosy]
  · have hevent : (Event.evaluating r n d (.object c₁)).writable
        = (Event.evaluating r n d (.object c₂)).writable := by
      simp only [Event.writable, hwritable]
    unfold Policy.take
    rw [hevent]

end RefusedAlike

/-! ## Journals that agree -/

/-- Two journals of one policy, with as many calculated numbers. -/
def Journal.Alike (p : Policy) (j k : Journal) : Prop :=
  j.policy = p ∧ k.policy = p ∧ j.numbers = k.numbers

namespace Eval

variable {p : Policy} {L : Likeness}

theorem numbers_report (sink : Sink) (e : Event) (j : Journal) :
    (after (report sink e) j).numbers = j.numbers := by
  cases sink with
  | log =>
    simp only [report, log, after_bind, outcome_modify, after_modify, outcome_get, after_get]
    cases ((j.add e).refusal e) <;> rfl
  | named name =>
    simp only [report, collect, after_bind, outcome_get, after_get]
    split <;> rfl

/-- Reports that a policy takes alike. -/
theorem report_alike {sink : Sink} {e₁ e₂ : Event} (h : p.take sink e₁ = p.take sink e₂) :
    InStep (Journal.Alike p) L.Faults Eq (report sink e₁) (report sink e₂) := by
  rintro j k ⟨hj, hk, hnumbers⟩
  obtain ⟨ho₁, ha₁⟩ := yields_report sink e₁ j hj
  obtain ⟨ho₂, ha₂⟩ := yields_report sink e₂ k hk
  refine ⟨?_, ha₁, ha₂, ?_⟩
  · rw [ho₁, ho₂, h]
    exact .refl L.faults_equivalence eq_equivalence _
  · rw [numbers_report, numbers_report, hnumbers]

/-- Events of values with a text, or without. -/
theorem take_congr {sink : Sink} {e₁ e₂ : Event} (h : e₁.writable = e₂.writable) :
    p.take sink e₁ = p.take sink e₂ := by
  unfold Policy.take
  rw [h]

theorem open_alike {r : Recorder} {d : Value} {c₁ c₂ : Fields} (h : RefusedAlike p c₁ c₂) :
    InStep (Journal.Alike p) L.Faults (fun _ _ => True) (openRecord r d (.object c₁))
      (openRecord r d (.object c₂)) := by
  unfold openRecord
  have hcount : InStep (Journal.Alike p) L.Faults Eq (modify (Journal.count r) : Eval Unit)
      (modify (Journal.count r) : Eval Unit) := InStep.modify fun j k hjk => hjk
  refine hcount.bind_eq fun _ => ?_
  refine (InStep.get fun j k hjk => hjk).bind fun j k _ => ?_
  refine (report_alike ?_).bind fun _ _ _ => InStep.pure trivial
  exact h.take_eq r.sink r _ d

theorem countNumber_alike : InStep (Journal.Alike p) L.Faults Eq countNumber countNumber := by
  unfold countNumber
  refine (InStep.get fun j k hjk => hjk).bind fun j k hjk => ?_
  have hset : InStep (Journal.Alike p) L.Faults Eq (set { j with numbers := j.numbers + 1 } : Eval Unit)
      (set { k with numbers := k.numbers + 1 } : Eval Unit) :=
    fun _ _ _ => ⟨rfl, hjk.1, hjk.2.1, congrArg (· + 1) hjk.2.2⟩
  exact hset.bind_eq fun _ => InStep.pure hjk.2.2

theorem distinguish_self (v : Value) :
    InStep (Journal.Alike p) L.Faults L.Values (distinguish v) (distinguish v) := by
  unfold distinguish
  split
  · exact countNumber_alike.bind_eq fun _ => InStep.pure (.refl _)
  · refine countNumber_alike.bind_eq fun _ => ?_
    split <;> exact InStep.pure (.refl _)
  · exact InStep.pure (.refl _)

/-- A calculated number gets its origin from the count of those before. -/
theorem distinguish_number {v : Value} (h : v.kind = .number) : distinguish v.unboxed = distinguish v := by
  cases v <;> first | rfl | cases h

theorem distinguish_other {v : Value} (h : v.kind ≠ .number) : distinguish v = pure v := by
  cases v <;> first | rfl | exact absurd rfl h

theorem distinguish_alike {v w : Value} (h : L.Values v w) :
    InStep (Journal.Alike p) L.Faults L.Values (distinguish v) (distinguish w) := by
  by_cases hkind : v.kind = .number
  · have hsame : distinguish v = distinguish w := by
      cases L with
      | objects => exact congrArg distinguish h
      | data =>
        have hkind' : w.kind = .number := (h.congr Value.kind_unboxed).symm.trans hkind
        rw [← distinguish_number hkind, ← distinguish_number hkind', Likeness.values_data.mp h]
    rw [hsame]
    exact distinguish_self w
  · rw [distinguish_other hkind, distinguish_other (h.congr Value.kind_unboxed ▸ hkind)]
    exact InStep.pure h

end Eval

end Rulebook
