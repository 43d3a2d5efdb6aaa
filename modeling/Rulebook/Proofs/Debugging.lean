-- Debug operations of a compiled definition. Each one gets a recorder of its
-- own, whose records are numbered without gaps over all evaluations, and the
-- records of one evaluation lie one inside the other.
import Rulebook.Proofs.LogicMaps
import Rulebook.Proofs.Recording
import Rulebook.Proofs.Transparency

namespace Rulebook

/-! ## Recorders that compilation hands out -/

namespace Node

/-- A recorded node is kept if its recorder is. -/
def keeping (keep : Recorder → Bool) (r : Recorder) (d : Value) (x : Node) : Node :=
  if keep r then .recorded r d x else .calculated x

/-- A tree is kept if all of its recorders are. -/
theorem retrace_keeping (keep : Recorder → Bool) (n : Node) :
    n.retrace (keeping keep) = n ↔ ∀ r ∈ n.recorders, keep r = true := by
  have hitems {xs : List Node}
      (h : ∀ x ∈ xs, (x.retrace (keeping keep) = x ↔ ∀ r ∈ x.recorders, keep r = true)) :
      xs.map (retrace (keeping keep)) = xs ↔ ∀ r ∈ xs.flatMap recorders, keep r = true := by
    induction xs with
    | nil => simp
    | cons x xs ih =>
      have hx := h x List.mem_cons_self
      have hxs := ih fun y hy => h y (List.mem_cons_of_mem _ hy)
      simp only [List.map_cons, List.cons.injEq, List.flatMap_cons, List.forall_mem_append, hx, hxs]
  have hentries {es : List (Key × Node)}
      (h : ∀ e ∈ es, (e.2.retrace (keeping keep) = e.2 ↔ ∀ r ∈ e.2.recorders, keep r = true)) :
      es.map (fun e => (e.1, e.2.retrace (keeping keep))) = es
        ↔ ∀ r ∈ es.flatMap (fun e => e.2.recorders), keep r = true := by
    induction es with
    | nil => simp
    | cons e es ih =>
      have he := h e List.mem_cons_self
      have hes := ih fun y hy => h y (List.mem_cons_of_mem _ hy)
      simp only [List.map_cons, List.cons.injEq, List.flatMap_cons, List.forall_mem_append,
        Prod.ext_iff, true_and, he, hes]
  induction n with
  | literal v => simp [retrace, recorders]
  | path names r => simp [retrace, recorders]
  | template text xs ih | binary name f xs ih | complex name f xs ih | array xs ih =>
    simp [retrace, recorders, hitems ih]
  | branch x t f hx ht hf =>
    simp only [retrace, recorders, branch.injEq, List.forall_mem_append, hx, ht, hf, and_assoc]
  | unary name f x ih => simp [retrace, recorders, ih]
  | witness name x ih | calculated x ih => simp [retrace, recorders, ih]
  | object es ih => simp [retrace, recorders, hentries ih]
  | property base keys hb hk =>
    simp only [retrace, recorders, property.injEq, retraceItems_eq, recordersOfItems_eq,
      List.forall_mem_append, hb, hitems hk]
  | map source body hs hb =>
    simp only [retrace, recorders, map.injEq, List.forall_mem_append, hs, hb]
  | recorded r d x ih =>
    simp only [retrace, recorders, keeping, List.forall_mem_cons]
    by_cases hr : keep r = true <;> simp [hr, ih]

end Node

/-- A blueprint adds no recorders to those of its parts. -/
theorem Blueprint.Regular.recorders {own : List Node.Source} {b : Blueprint} (h : b.Regular own)
    {ns : List Node} {r : Recorder} (hr : r ∈ (b.assemble ns).recorders) :
    r ∈ ns.flatMap Node.recorders := by
  -- changing the nodes of all other recorders changes no part, so not the whole
  have hparts : ns.map (Node.retrace (Node.keeping fun r => r ∈ ns.flatMap Node.recorders)) = ns := by
    have hkept (n : Node) (hn : n ∈ ns) :
        n.retrace (Node.keeping fun r => r ∈ ns.flatMap Node.recorders) = n := by
      rw [Node.retrace_keeping]
      exact fun r hr => decide_eq_true (List.mem_flatMap.mpr ⟨n, hn, hr⟩)
    rw [List.map_congr_left hkept, List.map_id']
  have hwhole := h.retrace (Node.keeping fun r => r ∈ ns.flatMap Node.recorders) ns
  rw [hparts, Node.retrace_keeping] at hwhole
  simpa using hwhole r hr

namespace Compile

/-- The recorder that a mode records in. -/
def Mode.recorder? : Mode → Option Recorder
  | .recorded r => some r
  | _ => none

/-- Recorders in use after the numbers up to a second one were handed out, from
a first one on: the given recorder, and new ones, one for each number. -/
structure Handed (given : Option Recorder) (first last : Nat) (rs : List Recorder) : Prop where
  grows : first ≤ last
  fresh : ∀ r ∈ rs, given = some r ∨ (first ≤ r.id ∧ r.id < last)
  unique : ∀ r ∈ rs, ∀ r' ∈ rs, first ≤ r.id → r.id = r'.id → r = r'

namespace Handed

variable {given : Option Recorder} {first middle last : Nat} {rs rs' : List Recorder}

theorem nil (h : first ≤ last) : Handed given first last [] := ⟨h, by simp, by simp⟩

theorem subset (h : Handed given first last rs) (hsub : ∀ r ∈ rs', r ∈ rs) :
    Handed given first last rs' :=
  ⟨h.grows, fun r hr => h.fresh r (hsub r hr),
    fun r hr r' hr' => h.unique r (hsub r hr) r' (hsub r' hr')⟩

theorem append (hgiven : ∀ r, given = some r → r.id < first) (h : Handed given first middle rs)
    (h' : Handed given middle last rs') : Handed given first last (rs ++ rs') := by
  have hgrows := h.grows
  have hgrows' := h'.grows
  -- recorders of the two runs have different numbers
  have hapart (r : Recorder) (hr : r ∈ rs) (r' : Recorder) (hr' : r' ∈ rs') (hnew : first ≤ r.id) :
      r.id ≠ r'.id := by
    rcases h.fresh r hr with hg | ⟨-, hlt⟩
    · have := hgiven r hg
      omega
    · rcases h'.fresh r' hr' with hg' | ⟨hle, -⟩
      · have := hgiven r' hg'
        omega
      · omega
  refine ⟨by omega, fun r hr => ?_, fun r hr r' hr' hnew heq => ?_⟩
  · rcases List.mem_append.mp hr with hr | hr
    · exact (h.fresh r hr).imp_right fun ⟨hle, hlt⟩ => ⟨hle, by omega⟩
    · exact (h'.fresh r hr).imp_right fun ⟨hle, hlt⟩ => ⟨by omega, hlt⟩
  · rcases List.mem_append.mp hr with hr | hr <;> rcases List.mem_append.mp hr' with hr' | hr'
    · exact h.unique r hr r' hr' hnew heq
    · exact absurd heq (hapart r hr r' hr' hnew)
    · exact absurd heq.symm (hapart r' hr' r hr (heq ▸ hnew))
    · rcases h'.fresh r hr with hg | ⟨hle, -⟩
      · have := hgiven r hg
        omega
      · exact h'.unique r hr r' hr' hle heq

/-- A new recorder that everything beneath it records in. -/
theorem inside {r : Recorder} (hr : r.id = first) (h : Handed (some r) (first + 1) last rs) :
    Handed none first last rs := by
  have hgrows := h.grows
  refine ⟨by omega, fun r' hr' => Or.inr ?_, fun r' hr' r'' hr'' hnew heq => ?_⟩
  · rcases h.fresh r' hr' with hg | ⟨hle, hlt⟩
    · obtain rfl := Option.some.inj hg
      exact ⟨by omega, by omega⟩
    · exact ⟨by omega, hlt⟩
  · rcases h.fresh r' hr' with hg | ⟨hle, -⟩
    · obtain rfl := Option.some.inj hg
      rcases h.fresh r'' hr'' with hg' | ⟨hle', -⟩
      · exact Option.some.inj hg'
      · omega
    · exact h.unique r' hr' r'' hr'' hle heq

/-- A new recorder that nothing else records in. -/
theorem outside (hgiven : ∀ r, given = some r → r.id < first) {r : Recorder} (hr : r.id = first)
    (h : Handed given (first + 1) last rs) : Handed given first last (r :: rs) := by
  have hgrows := h.grows
  have hself : Handed given first (first + 1) [r] := by
    refine ⟨by omega, fun r' hr' => Or.inr ?_, fun r' hr' r'' hr'' _ _ => ?_⟩
    · obtain rfl := List.mem_singleton.mp hr'
      omega
    · exact (List.mem_singleton.mp hr').trans (List.mem_singleton.mp hr'').symm
  exact hself.append hgiven h

/-- The given recorder once more. -/
theorem again {r : Recorder} (hr : r.id < first) (h : Handed (some r) first last rs) :
    Handed (some r) first last (r :: rs) := by
  have hself : Handed (some r) first first [r] := by
    refine ⟨Nat.le_refl first, fun r' hr' => Or.inl ?_, fun r' hr' r'' hr'' _ _ => ?_⟩
    · rw [List.mem_singleton.mp hr']
    · exact (List.mem_singleton.mp hr').trans (List.mem_singleton.mp hr'').symm
  refine hself.append (fun r' hg => ?_) h
  obtain rfl := Option.some.inj hg
  exact hr

end Handed

/-- The recorders of a compiled tree are the given one and new ones. -/
def Hands (given : Option Recorder) (x : Build Node) : Prop :=
  ∀ draft n, (∀ r, given = some r → r.id < draft.recorders) → outcome x draft = .ok n →
    Handed given draft.recorders (after x draft).recorders n.recorders

section Hands

variable {compile : Mode → Value → Build Node}

theorem after_notes (ps : List (List String)) (draft : Draft) :
    (after (ps.forM fun p => Build.note (.lookup p)) draft).recorders = draft.recorders := by
  induction ps generalizing draft with
  | nil => rfl
  | cons p ps ih =>
    rw [List.forM_eq_forM, List.forM_cons, after_bind]
    exact ih _

theorem beneath_hands {mode : Mode} {c : Value}
    (h : ∀ mode : Mode, Hands mode.recorder? (compile mode c)) :
    Hands mode.recorder? (beneath compile mode c) := by
  cases mode with
  | plain => exact h .plain
  | recorded r =>
    intro draft n hold hn
    obtain ⟨m, hm, hpure, hafter⟩ := outcome_bind_ok hn
    obtain rfl := Except.ok.inj hpure
    have hhanded := h (.recorded r) draft m hold hm
    rw [beneath, hafter, after_pure]
    exact hhanded.again (hold r rfl)
  | replaced =>
    intro draft n _ hn
    obtain ⟨_, -, hpure, -⟩ := outcome_bind_ok hn
    obtain rfl := Except.ok.inj hpure
    exact Handed.nil (Nat.le_refl _)

theorem mapM_hands {given : Option Recorder} {part : Value → Build Node} {cs : List Value}
    (h : ∀ c ∈ cs, Hands given (part c)) {draft : Draft} {ns : List Node}
    (hold : ∀ r, given = some r → r.id < draft.recorders)
    (hns : outcome (cs.mapM part) draft = .ok ns) :
    Handed given draft.recorders (after (cs.mapM part) draft).recorders (ns.flatMap Node.recorders) := by
  induction cs generalizing draft ns with
  | nil =>
    obtain rfl := Except.ok.inj hns
    exact Handed.nil (Nat.le_refl _)
  | cons c cs ih =>
    rw [List.mapM_cons] at hns ⊢
    obtain ⟨m, hm, hrest, hafter⟩ := outcome_bind_ok hns
    obtain ⟨ms, hms, hpure, hafter'⟩ := outcome_bind_ok hrest
    obtain rfl := Except.ok.inj hpure
    have hfirst := h c (by simp) draft m hold hm
    have hgrows := hfirst.grows
    have hothers := ih (fun c' hc' => h c' (List.mem_cons_of_mem _ hc'))
      (fun r hr => by have := hold r hr; omega) hms
    rw [hafter, hafter', after_pure, List.flatMap_cons]
    exact hfirst.append hold hothers

theorem ofBlueprint_hands {mode : Mode} (h : ∀ (mode : Mode) c, Hands mode.recorder? (compile mode c))
    {own : List Node.Source} {b : Blueprint} (hb : b.Regular own) :
    Hands mode.recorder? (ofBlueprint compile mode b) := by
  intro draft n hold hn
  obtain ⟨_, -, hrest, hafter⟩ := outcome_bind_ok hn
  obtain ⟨ns, hns, hpure, hafter'⟩ := outcome_bind_ok hrest
  obtain rfl := Except.ok.inj hpure
  have hsame := after_notes b.lookups draft
  have hparts := mapM_hands (fun c _ => beneath_hands fun mode => h mode c)
    (fun r hr => by rw [hsame]; exact hold r hr) hns
  rw [hsame] at hparts
  rw [ofBlueprint, hafter, hafter', after_pure]
  exact hparts.subset fun r hr => hb.recorders hr

theorem ofDebug_hands {mode : Mode} (h : ∀ (mode : Mode) c, Hands mode.recorder? (compile mode c))
    (sink : Sink) (operand : Value) : Hands mode.recorder? (ofDebug compile mode sink operand) := by
  intro draft n hold hn
  obtain ⟨r, hr, hrest, hafter⟩ := outcome_bind_ok hn
  obtain rfl := Except.ok.inj hr
  have hbeneath (mode : Mode) (m : Node) {next : Draft} (hnext : next.recorders = draft.recorders + 1)
      (hold : ∀ r, mode.recorder? = some r → r.id < draft.recorders + 1)
      (hm : outcome (beneath compile mode operand) next = .ok m) :
      Handed mode.recorder? (draft.recorders + 1)
        (after (beneath compile mode operand) next).recorders m.recorders := by
    rw [← hnext] at hold ⊢
    exact beneath_hands (fun mode => h mode operand) next m hold hm
  rw [ofDebug, hafter]
  cases mode with
  | plain =>
    have hnewest : ∀ r, some (⟨draft.recorders, sink⟩ : Recorder) = some r → r.id < draft.recorders + 1 := by
      intro r hr
      obtain rfl := Option.some.inj hr
      exact Nat.lt_succ_self _
    exact (hbeneath (.recorded ⟨draft.recorders, sink⟩) n rfl hnewest hrest).inside rfl
  | recorded _ | replaced =>
    obtain ⟨m, hm, hpure, hafter'⟩ := outcome_bind_ok hrest
    obtain rfl := Except.ok.inj hpure
    have hinner := hbeneath _ m rfl (fun r hr => Nat.lt_succ_of_lt (hold r hr)) hm
    rw [hafter', after_pure]
    exact hinner.outside hold rfl

theorem ofFactory_hands {setup : Setup} {mode : Mode}
    (h : ∀ (mode : Mode) c, Hands mode.recorder? (compile mode c)) {allowed : Node.Source → Prop}
    {f : Factory} (hf : f.Regular allowed) (operand : Value) :
    Hands mode.recorder? (ofFactory compile setup mode operand f) := by
  have hfault (e : Fault) : Hands mode.recorder? (throw e) := by
    intro draft n _ hn
    cases hn
  rcases ofFactory_cases f with ⟨sink, rfl⟩ | ⟨-, hplan⟩
  · exact ofDebug_hands h _ operand
  · rw [hplan]
    cases hb : f.blueprint setup operand with
    | error e => exact hfault e
    | ok b =>
      obtain ⟨own, -, hregular⟩ := hf.blueprint hb
      exact ofBlueprint_hands h hregular

/-- Each debug operation gets a recorder of its own, with a number that no
recorder has had before. -/
theorem compile_hands {setup : Setup} {allowed : Node.Source → Prop}
    (hreg : setup.registry.All (Factory.Regular allowed)) (mode : Mode) (d : Value) :
    Hands mode.recorder? (Compile.compile setup mode d) := by
  refine compile_induction (motive := fun mode _ x => Hands mode.recorder? x) (fun mode _ e => ?_)
    ?_ mode d
  · intro draft n _ hn
    cases hn
  · intro mode d name operand f compile _ hf hcompile draft n hold hn
    obtain ⟨_, -, hrest, hafter⟩ := outcome_bind_ok hn
    rw [hafter]
    exact ofFactory_hands hcompile (Registry.factory?_of_all hreg hf) operand
      (after (Build.note (.compiling name.plain operand)) draft) n hold hrest

end Hands

end Compile

/-! ## Numbers -/

namespace Visit

/-- How many visits a recorder has. -/
def countOf (id : Nat) (ws : List Visit) : Nat := (ws.filter fun w => w.recorder.id == id).length

/-- A recorder goes on counting where it was. -/
theorem number_of (id : Nat) (opened : Nat → Nat) (ws : List Visit) :
    countAll opened ws id = opened id + countOf id ws
      ∧ ((number opened ws).filter fun e => e.1.recorder.id == id).map Prod.snd
        = List.range' (opened id + 1) (countOf id ws) := by
  induction ws generalizing opened with
  | nil => exact ⟨rfl, rfl⟩
  | cons w ws ih =>
    obtain ⟨hcount, hnumbers⟩ := ih (w.count opened)
    have hall : countAll opened (w :: ws) id = countAll (w.count opened) ws id := rfl
    rw [hall, hcount, number]
    by_cases hid : w.recorder.id = id
    · have hself : w.count opened id = opened id + 1 := by simp [count, hid]
      have hof : countOf id (w :: ws) = countOf id ws + 1 := by simp [countOf, hid]
      rw [hself] at hnumbers ⊢
      rw [hof, List.filter_cons_of_pos (by simpa using hid), List.map_cons, hnumbers, List.range'_succ, hid]
      exact ⟨by omega, rfl⟩
    · have hself : w.count opened id = opened id := by simp [count, Ne.symm hid]
      have hof : countOf id (w :: ws) = countOf id ws := by simp [countOf, hid]
      rw [hself] at hnumbers ⊢
      rw [hof, List.filter_cons_of_neg (by simpa using hid), hnumbers]
      exact ⟨rfl, rfl⟩

end Visit

/-- The numbers of a recorder follow each other, from the first one that it
has not given yet. -/
theorem Enters.numbers {j k : Journal} {ws : List Visit} (h : Enters j k ws) :
    ∃ es, k.events = es.reverse ++ j.events
      ∧ (∀ o ∈ openings es, ∃ w ∈ ws, w.recorder = o.recorder)
      ∧ ∀ id, ∃ n, k.opened id = j.opened id + n
        ∧ Rulebook.numbers id es = List.range' (j.opened id + 1) n := by
  obtain ⟨es, hes, hnested⟩ := h.events
  refine ⟨es, hes, fun o ho => ?_, fun id => ⟨Visit.countOf id ws, ?_, ?_⟩⟩
  · rw [hnested.openings] at ho
    obtain ⟨e, he, rfl⟩ := List.mem_map.mp ho
    refine ⟨e.1, ?_, rfl⟩
    rw [← Visit.map_number j.opened ws]
    exact List.mem_map_of_mem he
  · rw [h.opened]
    exact (Visit.number_of id j.opened ws).1
  · rw [Rulebook.numbers, hnested.openings, List.filter_map, List.map_map]
    exact (Visit.number_of id j.opened ws).2

/-! ## The records of one evaluation -/

namespace Node

variable {p : Policy} {c : Fields} {n : Node}

/-- The visits of a call stand together among those of the whole evaluation. -/
theorem visits_infix {e : Call} (he : e ∈ evaluations p c n) : visits p e.1 e.2 <:+: visits p c n := by
  induction c, n using call_induction (p := p) with
  | h c n ih =>
    rw [evaluations_eq] at he
    rcases List.mem_cons.mp he with rfl | he
    · exact List.infix_rfl
    · obtain ⟨e', he', he⟩ := List.mem_flatMap.mp he
      have hcall : visits p e'.1 e'.2 <:+: (calls p c n).flatMap fun e => visits p e.1 e.2 := by
        obtain ⟨before, rest, hsplit⟩ := List.append_of_mem he'
        rw [hsplit, List.flatMap_append, List.flatMap_cons, ← List.append_assoc]
        exact List.infix_append _ _ _
      rw [visits_eq p c n]
      exact (ih e' he' he).trans (hcall.trans (List.suffix_append _ _).isInfix)

theorem visits_map {source body : Node} {v : Value} (h : source.value p c = .ok v) :
    visits p c (.map source body)
      = visits p c source ++ (tried (fun b => body.value p b) (bindings c v)).flatMap fun b =>
          visits p b body := by
  rw [visits_of_calls rfl, calls, h, following, List.flatMap_cons, List.flatMap_map]

theorem visits_context (h : ∀ e ∈ evaluations p c n, e.2.kind ≠ .map) :
    ∀ w ∈ visits p c n, w.context = c := by
  intro w hw
  obtain ⟨e, he, hwe⟩ := List.mem_filterMap.mp hw
  rw [← evaluations_context h e he]
  obtain ⟨c', m⟩ := e
  cases m with
  | recorded r d x =>
    obtain rfl := Option.some.inj hwe
    rfl
  | _ => cases hwe

/-- How some events record an evaluation. -/
structure Recorded (p : Policy) (c : Fields) (n : Node) (es : List Event)
    (records : List (Visit × Nat)) : Prop where
  /-- There is one record for each evaluation of a recorded node. -/
  visits : records.map Prod.fst = n.visits p c
  openings : openings es = records.map fun e => e.1.opening e.2
  /-- Each result closes the record opened last of those that are open. -/
  ledger : ∃ closed, closed.Perm (Visit.closings records)
    ∧ Ledger.enterAll ⟨[], []⟩ es = some ⟨(Visit.pending records).reverse, closed⟩
  /-- An evaluation that ends well leaves no record open. -/
  success : ∀ v, n.value p c = .ok v →
    Visit.pending records = [] ∧ (Visit.closings records).map Prod.fst = Rulebook.openings es
  /-- One that fails leaves open the recorded nodes on the way to its fault. -/
  failure : ∀ f, n.value p c = .error f → ∃ chain, FailsAlong p f (c, n) chain
    ∧ (records.filter fun e => e.1.fails).map Prod.fst = chain.filterMap (visit? p)
  /-- The record of a node comes before those of the nodes beneath it. -/
  nodes : ∀ c' r d x, (c', .recorded r d x) ∈ evaluations p c n →
    (Node.recorded r d x).visits p c' = ⟨r, d, c', x.value p c'⟩ :: x.visits p c'
      ∧ (Node.recorded r d x).visits p c' <:+: records.map Prod.fst
  /-- The body of a map is recorded for each entry, with that entry bound, up
  to the first one that fails. -/
  maps : ∀ c' source body v, (c', .map source body) ∈ evaluations p c n → source.value p c' = .ok v →
    ∃ bs, bs <+: bindings c' v ∧ (∀ w, (Node.map source body).value p c' = .ok w → bs = bindings c' v)
      ∧ source.visits p c' ++ (bs.flatMap fun b => body.visits p b) <:+: records.map Prod.fst
      ∧ ∀ b ∈ bs, (b, body) ∈ evaluations p c n
        ∧ ((∀ e ∈ evaluations p b body, e.2.kind ≠ .map) → ∀ w ∈ body.visits p b, w.context = b)

theorem recorded_of_nested (h : Recordable p n) {opened : Nat → Nat} {es : List Event}
    (hes : Nested es (Visit.number opened (visits p c n))) :
    Recorded p c n es (Visit.number opened (visits p c n)) where
  visits := Visit.map_number opened _
  openings := hes.openings
  ledger := by
    obtain ⟨closed, hperm, hl⟩ := hes.ledger ⟨[], []⟩
    simp only [List.append_nil] at hl
    exact ⟨closed, hperm, hl⟩
  success := by
    intro v hv
    have hok : ∀ e ∈ Visit.number opened (visits p c n), e.1.fails = false := by
      intro e he
      refine visits_ok h hv e.1 ?_
      rw [← Visit.map_number opened (visits p c n)]
      exact List.mem_map_of_mem he
    exact ⟨Visit.pending_of_ok hok, (Visit.closings_of_ok hok).trans hes.openings.symm⟩
  failure := by
    intro f hf
    refine ⟨_, failing_calls hf, ?_⟩
    have hfilter := List.filter_map (f := Prod.fst) (p := Visit.fails)
      (l := Visit.number opened (visits p c n))
    rw [Visit.map_number, failing_visits h] at hfilter
    exact hfilter.symm
  nodes := by
    intro c' r d x he
    have hr : p.Accepts r.sink := (h.evaluated he).accepts r List.mem_cons_self
    rw [Visit.map_number]
    exact ⟨visits_recorded hr c' d x, visits_infix he⟩
  maps := by
    intro c' source body v he hv
    refine ⟨tried (fun b => body.value p b) (bindings c' v), triedFrom_initial _ _ _,
      fun w hw => tried_bindings hv hw, ?_, fun b hb => ⟨?_, visits_context⟩⟩
    · rw [Visit.map_number, ← visits_map hv]
      exact visits_infix he
    · have hcall : (b, body) ∈ calls p c' (.map source body) := by
        rw [calls, hv, following]
        exact List.mem_cons_of_mem _ (List.mem_map_of_mem hb)
      exact evaluations_trans he (evaluations_of_call hcall (mem_evaluations_self p b body))

end Node

/-! ## Logics -/

namespace Logic

/-- The visits of an evaluation. -/
def visits (p : Policy) (l : Logic) (context : Value) : List Visit :=
  (l.contextIn? context).elim [] fun c => l.root.visits p c

/-- The journal after some evaluations, however they end. -/
def evalAll (l : Logic) (contexts : List Value) (j : Journal) : Journal :=
  contexts.foldl (fun j context => after (l.eval context) j) j

section Recording

variable {p : Policy} {l : Logic}

theorem eval_enters (h : l.root.Recordable p) (context : Value) {j : Journal} (hj : j.policy = p) :
    Enters j (after (l.eval context) j) (l.visits p context) := by
  cases context with
  | null => exact (Node.eval_records h l.base j hj).2
  | object fs => exact (Node.eval_records h _ j hj).2
  | _ => exact Enters.refl j

theorem evalAll_enters (h : l.root.Recordable p) (contexts : List Value) {j : Journal}
    (hj : j.policy = p) : Enters j (l.evalAll contexts j) (contexts.flatMap (l.visits p)) := by
  induction contexts generalizing j with
  | nil => exact Enters.refl j
  | cons context contexts ih =>
    have hfirst := eval_enters h context hj
    exact hfirst.trans (ih (hfirst.policy.trans hj))

theorem mem_of_visit {contexts : List Value} {w : Visit} (hw : w ∈ contexts.flatMap (l.visits p)) :
    w.recorder ∈ l.root.recorders := by
  obtain ⟨context, -, hw⟩ := List.mem_flatMap.mp hw
  unfold visits at hw
  cases hc : l.contextIn? context with
  | none =>
    rw [hc] at hw
    cases hw
  | some c =>
    rw [hc] at hw
    exact Node.mem_of_visit hw

/-- In a context that is a mapping, or without one, an evaluation ends as the
tree does and records it; no other context is evaluated in. -/
theorem eval_recorded (h : l.root.Recordable p) (context : Value) {j : Journal} (hj : j.policy = p) :
    match l.contextIn? context with
    | none => after (l.eval context) j = j
    | some c => outcome (l.eval context) j = l.root.value p c ∧
        ∃ es records, (after (l.eval context) j).events = es.reverse ++ j.events
          ∧ l.root.Recorded p c es records := by
  have hin (c : Fields) : outcome (l.root.eval c) j = l.root.value p c ∧
      ∃ es records, (after (l.root.eval c) j).events = es.reverse ++ j.events
        ∧ l.root.Recorded p c es records := by
    obtain ⟨hends, henters⟩ := Node.eval_records h c j hj
    obtain ⟨es, hes, hnested⟩ := henters.events
    exact ⟨hends, es, _, hes, Node.recorded_of_nested h hnested⟩
  cases context with
  | null => exact hin l.base
  | object fs => exact hin _
  | _ => rfl

end Recording

section Build

variable {around : Surroundings} {ops : List (String × Entry)} {base d : Value} {draft : Draft}
  {l : Logic}

/-- A logic is built with new recorders alone. -/
theorem build_hands {allowed : Node.Source → Prop}
    (hbring : ∀ e ∈ ops, e.2.Brings (Factory.Regular allowed))
    (h : outcome (build around ops base d) draft = .ok l) :
    Compile.Handed none draft.recorders (after (build around ops base d) draft).recorders
      l.root.recorders := by
  obtain ⟨fields, registry, settings, hbase, hops, hset⟩ := build_ok h
  have hreg : registry.All (Factory.Regular allowed) :=
    Registry.merged_all hops (Registry.standard_all allowed) hbring
  rw [build_eq hbase hops hset] at h ⊢
  obtain ⟨_, -, h, hconsult⟩ := outcome_bind_ok h
  obtain ⟨_, -, h, hbefore⟩ := outcome_bind_ok h
  obtain ⟨root, hroot, h, hcompile⟩ := outcome_bind_ok h
  obtain ⟨_, -, h, hnotices⟩ := outcome_bind_ok h
  obtain rfl := Except.ok.inj h
  have hhands := Compile.compile_hands hreg .plain d _ root (by simp [Compile.Mode.recorder?]) hroot
  rw [hconsult, hbefore, hcompile, hnotices]
  exact hhands

/-- The records of debug operations have no gaps, and those of one evaluation
lie one inside the other. Where sinks take every record, after any evaluations
each recorder of a logic has numbered its records from one on. Every further
evaluation opens and closes its records as told by `Node.Recorded`. -/
theorem debug_records_have_no_gaps_and_nest
    (hbring : ∀ e ∈ ops, e.2.Brings (Factory.Regular (· ≠ Node.Source.count)))
    (h : outcome (build around ops base d) draft = .ok l) {j : Journal}
    (hsinks : ∀ r ∈ l.root.recorders, j.policy.Accepts r.sink)
    (hnew : ∀ id, draft.recorders ≤ id → j.opened id = 0) :
    (∀ r ∈ l.root.recorders, ∀ r' ∈ l.root.recorders, r.id = r'.id → r = r')
    ∧ ∀ contexts : List Value,
      (∃ es, (l.evalAll contexts j).events = es.reverse ++ j.events
        ∧ (∀ o ∈ openings es, o.recorder ∈ l.root.recorders)
        ∧ ∀ r ∈ l.root.recorders,
            numbers r.id es = List.range' 1 ((l.evalAll contexts j).opened r.id))
      ∧ ∀ context, match l.contextIn? context with
        | none => after (l.eval context) (l.evalAll contexts j) = l.evalAll contexts j
        | some c => outcome (l.eval context) (l.evalAll contexts j) = l.root.value j.policy c
          ∧ ∃ es records,
            (after (l.eval context) (l.evalAll contexts j)).events
                = es.reverse ++ (l.evalAll contexts j).events
              ∧ l.root.Recorded j.policy c es records := by
  have hhanded := build_hands hbring h
  have hrecordable : l.root.Recordable j.policy := by
    refine ⟨fun hc => ?_, hsinks⟩
    obtain ⟨_, _, settings, -, -, hset⟩ := build_ok h
    have hreads : l.lookups = l.root.paths ∧ ∀ s ∈ l.root.sources, s ≠ Node.Source.count :=
      build_reads hbring hset (by simp) h
    exact hreads.2 _ hc rfl
  refine ⟨fun r hr r' hr' heq => ?_, fun contexts => ⟨?_, fun context => ?_⟩⟩
  · rcases hhanded.fresh r hr with hgiven | ⟨hle, -⟩
    · cases hgiven
    · exact hhanded.unique r hr r' hr' hle heq
  · obtain ⟨es, hes, hopenings, hnumbers⟩ := (evalAll_enters hrecordable contexts rfl).numbers
    refine ⟨es, hes, fun o ho => ?_, fun r hr => ?_⟩
    · obtain ⟨w, hw, hrecorder⟩ := hopenings o ho
      rw [← hrecorder]
      exact mem_of_visit hw
    · obtain ⟨n, hopened, hids⟩ := hnumbers r.id
      rcases hhanded.fresh r hr with hgiven | ⟨hle, -⟩
      · cases hgiven
      · rw [hids, hopened, hnew r.id hle, Nat.zero_add, Nat.zero_add]
  · exact eval_recorded hrecordable context (evalAll_enters hrecordable contexts rfl).policy

/-- Two evaluations of an operation that is recorded together with its operand;
the first of them fails. -/
theorem recorded_operation_fails_and_goes_on :
    ∃ l es, outcome (build ordinary [] .null
          (debugged (.object [(.text "capitalize", .text "$a")]))) ⟨0, [], false⟩ = .ok l
      ∧ outcome (l.eval (.object [(.text "a", .int 5)])) ⟨fun _ => 0, [], none, false, false, 0⟩
        = .error (.needsText "capitalize" (.int 5))
      ∧ (l.evalAll [.object [(.text "a", .int 5)], .object [(.text "a", .text "x")]]
          ⟨fun _ => 0, [], none, false, false, 0⟩).events = es.reverse
      ∧ numbers 0 es = [1, 2, 3, 4] := by
  have hdebug : Registry.standard.factory? (.text "debug") = some (.debug none) := rfl
  have hcapitalize : Registry.standard.factory? (.text "capitalize")
      = some (.unary "capitalize" Function.capitalize) := rfl
  have hbuilt : outcome (build ordinary [] .null
        (debugged (.object [(.text "capitalize", .text "$a")]))) ⟨0, [], false⟩
      = .ok ⟨debugged (.object [(.text "capitalize", .text "$a")]), [], [Text.dotted "a"],
          .recorded ⟨0, .log⟩ (.object [(.text "capitalize", .text "$a")])
            (.unary "capitalize" Function.capitalize (.recorded ⟨0, .log⟩ (.text "$a")
              (.path (Text.dotted "a") (.inherited Settings.defaultParentKey))))⟩ := by
    have hbase : Entries.ofValue .null = .ok [] := rfl
    have hoperand (mode : Compile.Mode) :=
      compile_reading (s := "$a") "a" rfl Settings.defaultMarker Settings.defaultParentKey .log mode
    have hcompile (r : Recorder) : Compile.compile ⟨Registry.standard, Settings.defaultMarker,
          .ok Settings.defaultParentKey, .log⟩ (.recorded r)
          (.object [(.text "capitalize", .text "$a")]) = (do
        Build.note (.compiling "capitalize" (.text "$a"))
        Build.note (.compiling Operation.pathName (.text "a"))
        Build.note (.lookup (Text.dotted "a"))
        return .unary "capitalize" Function.capitalize (.recorded r (.text "$a")
          (.path (Text.dotted "a") (.inherited Settings.defaultParentKey)))) := by
      rw [Compile.compile]
      simp [Compile.select, hcapitalize, Factory.unary, Compile.ofFactory, Blueprint.unary,
        Compile.ofBlueprint, Compile.beneath, hoperand, Value.size, Value.sizeFields, Key.plain]
    rw [build_eq hbase rfl rfl, Compile.compile]
    simp [setup, ordinary, Compile.select, debugged, hdebug, Compile.ofFactory, Compile.ofDebug,
      Compile.beneath, hcompile, outcome_bind, Value.size, Value.sizeFields, lookupsOf,
      Except.map]
    rfl
  have hrecorded := debug_records_have_no_gaps_and_nest (by simp) hbuilt
    (j := ⟨fun _ => 0, [], none, false, false, 0⟩)
    (fun r _ e => Policy.take_of_quiet ⟨rfl, rfl, rfl⟩ r.sink e) (fun _ _ => rfl)
  obtain ⟨es, hes, -, hnumbers⟩ :=
    (hrecorded.2 [.object [(.text "a", .int 5)], .object [(.text "a", .text "x")]]).1
  refine ⟨_, es, hbuilt, rfl, ?_, ?_⟩
  · rw [hes, List.append_nil]
  · exact hnumbers ⟨0, .log⟩ List.mem_cons_self

end Build

end Logic
end Rulebook
