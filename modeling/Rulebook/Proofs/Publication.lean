-- The instance of the settings is published before it is initialised, and a
-- reading that fails leaves it there, perhaps with settings of the log. No command
-- sees the difference to a session without an instance.
import Rulebook.Proofs.Sessions

namespace Rulebook.Session

/-- Sessions that differ at most in an instance that is not initialised. -/
def Alike (s t : Session) : Prop :=
  ∃ c : Configuration, t = { s with configuration := c } ∧ c.settings? = s.settings

namespace Alike

variable {s t : Session}

theorem settings (h : s.Alike t) : t.settings = s.settings := by
  obtain ⟨c, rfl, hc⟩ := h
  exact hc

/-- Settings that are there are the same, and else both sessions read them anew. -/
theorem consult (h : s.Alike t) : t.consult.1 = s.consult.1 ∧ s.consult.2.Alike t.consult.2 := by
  have hsettings := h.settings
  cases hs : s.settings with
  | some x =>
    rw [hs] at hsettings
    rw [consult_read hs, consult_read hsettings]
    exact ⟨rfl, h⟩
  | none =>
    rw [hs] at hsettings
    rw [consult_unread hs, consult_unread hsettings]
    obtain ⟨c, rfl, -⟩ := h
    exact ⟨rfl, _, rfl, (reread_settings _).trans (reread_settings s).symm⟩

theorem debugMode (h : s.Alike t) :
    t.debugMode.1 = s.debugMode.1 ∧ s.debugMode.2.Alike t.debugMode.2 := by
  obtain ⟨hconsult, hrest⟩ := h.consult
  have hdebug : t.debug = s.debug := by
    obtain ⟨c, rfl, -⟩ := h
    rfl
  unfold Session.debugMode
  rw [hdebug, hconsult]
  cases s.debug with
  | some on => exact ⟨rfl, h⟩
  | none => exact ⟨rfl, hrest⟩

/-! ## Reports -/

theorem log (h : s.Alike t) (level : Log.Level) (logger message : String) :
    (s.log level logger message).Alike (t.log level logger message) := by
  obtain ⟨c, rfl, hc⟩ := h
  simp only [Session.log]
  split
  · exact ⟨c, rfl, hc⟩
  · exact ⟨c, rfl, hc⟩

theorem logNotice (h : s.Alike t) (n : Notice) : (s.logNotice n).Alike (t.logNotice n) := by
  unfold Session.logNotice
  split
  · split
    · exact h.log ..
    · exact h
  · exact h

theorem report (h : s.Alike t) (r : Report) : (s.report r).Alike (t.report r) := by
  obtain ⟨c, rfl, hc⟩ := h
  exact ⟨c, rfl, hc⟩

theorem deliver (h : s.Alike t) (level : Log.Level) (e : Event) :
    (s.deliver level e).Alike (t.deliver level e) := by
  unfold Session.deliver
  split
  · exact h
  · split
    · exact h.report _
    · exact h.report _
    · exact h.report _
    · exact h.log ..
    · exact h.log ..

theorem foldl {α : Type} {f : Session → α → Session}
    (hf : ∀ {s t : Session}, s.Alike t → ∀ a, (f s a).Alike (f t a)) (h : s.Alike t) (xs : List α) :
    (xs.foldl f s).Alike (xs.foldl f t) := by
  induction xs generalizing s t with
  | nil => exact h
  | cons x xs ih => exact ih (hf h x)

/-! ## Commands -/

theorem build {α : Type} (h : s.Alike t) (work : Surroundings → Build α) :
    ∃ outcome lookups u v, s.build work = (outcome, lookups, u) ∧ t.build work = (outcome, lookups, v)
      ∧ u.Alike v := by
  obtain ⟨hconsult, hrest⟩ := h.consult
  have hsink : t.sink = s.sink := by
    obtain ⟨c, rfl, -⟩ := h
    rfl
  unfold Session.build
  rw [hconsult, hsink]
  refine ⟨_, _, _, _, rfl, rfl, foldl logNotice ?_ _⟩
  split
  · exact hrest
  · exact h

theorem evaluate {α : Type} (h : s.Alike t) (b : Built α) (work : α → Eval Value) :
    ∃ outcome b' u v, s.evaluate b work = (outcome, b', u) ∧ t.evaluate b work = (outcome, b', v)
      ∧ u.Alike v := by
  obtain ⟨hmode, hrest⟩ := h.debugMode
  have hsinks : t.strict = s.strict ∧ t.threshold = s.threshold := by
    obtain ⟨c, rfl, -⟩ := h
    exact ⟨rfl, rfl⟩
  have hasked (logged : Bool) : (if logged then s.debugMode.2 else s).Alike
      (if logged then t.debugMode.2 else t) := by
    cases logged with
    | true => exact hrest
    | false => exact h
  unfold Session.evaluate
  rw [hmode, hsinks.1, hsinks.2]
  cases s.debugMode.1 with
  | ok on => exact ⟨_, _, _, _, rfl, rfl, foldl (fun h e => h.deliver _ e) (hasked _) _⟩
  | error f => exact ⟨_, _, _, _, rfl, rfl, foldl (fun h e => h.deliver _ e) (hasked _) _⟩

/-- Both sessions answer a command alike, and stay alike. -/
theorem step (h : s.Alike t) (command : Command) :
    (t.step command).1 = (s.step command).1 ∧ (s.step command).2.Alike (t.step command).2 := by
  have hbuilt : t.logics = s.logics ∧ t.maps = s.maps := by
    obtain ⟨c, rfl, -⟩ := h
    exact ⟨rfl, rfl⟩
  cases command with
  | setVariables | writeFile | setSink | setDebug | setThreshold =>
    obtain ⟨c, rfl, hc⟩ := h
    exact ⟨rfl, c, rfl, hc⟩
  | reset =>
    obtain ⟨c, rfl, -⟩ := h
    exact ⟨rfl, .absent, rfl, rfl⟩
  | summary =>
    obtain ⟨hconsult, hrest⟩ := h.consult
    refine ⟨?_, hrest⟩
    simp only [Session.step, hconsult]
  | isDebug =>
    obtain ⟨hmode, hrest⟩ := h.debugMode
    refine ⟨?_, hrest⟩
    simp only [Session.step, hmode]
  | newLogic id operations base d =>
    obtain ⟨outcome, lookups, u, _, hs, ht, c, rfl, hc⟩ := h.build fun around =>
      Logic.build around operations (base.boxed .base) (d.boxed .definition)
    simp only [Session.step, Session.newLogic, hs, ht]
    cases outcome <;> exact ⟨rfl, c, rfl, hc⟩
  | newMap id base d =>
    obtain ⟨outcome, lookups, u, _, hs, ht, c, rfl, hc⟩ := h.build fun around =>
      LogicMap.build (Logic.build around [] (base.boxed .base)) (d.boxed .definition)
    simp only [Session.step, Session.newMap, hs, ht]
    cases outcome <;> exact ⟨rfl, c, rfl, hc⟩
  | evalLogic id context =>
    simp only [Session.step, Session.evalLogic, hbuilt.1]
    cases Mapping.get? id s.logics with
    | none => exact ⟨rfl, h⟩
    | some b =>
      obtain ⟨outcome, b', u, _, hs, ht, c, rfl, hc⟩ :=
        h.evaluate b fun l : Logic => l.eval (context.boxed .context)
      simp only [hs, ht, true_and]
      exact ⟨c, rfl, hc⟩
  | evalMap id context =>
    simp only [Session.step, Session.evalMap, hbuilt.2]
    cases Mapping.get? id s.maps with
    | none => exact ⟨rfl, h⟩
    | some b =>
      obtain ⟨outcome, b', u, _, hs, ht, c, rfl, hc⟩ :=
        h.evaluate b fun m : LogicMap => m.eval (context.boxed .context)
      simp only [hs, ht, true_and]
      exact ⟨c, rfl, hc⟩
  | describe id =>
    simp only [Session.step, hbuilt.1]
    cases Mapping.get? id s.logics with
    | none => exact ⟨rfl, h⟩
    | some b => exact ⟨rfl, h⟩

theorem run (h : s.Alike t) (commands : List Command) : (s.run commands).Alike (t.run commands) :=
  foldl (fun h command => (h.step command).2) h commands

end Alike

/-- The session without an instance that is not initialised. -/
def folded (s : Session) : Session :=
  { s with configuration := s.settings.elim .absent .initialised }

theorem alike_folded (s : Session) : s.Alike s.folded := by
  refine ⟨_, rfl, ?_⟩
  cases s.settings <;> rfl

/-- An instance that is published but not initialised is as good as none, whatever
it holds: after any commands, the next one is answered as it is without. -/
theorem published_counts_as_absent (s : Session) (commands : List Command) (command : Command) :
    ((s.run commands).step command).1 = ((s.folded.run commands).step command).1
      ∧ (s.run commands).settings = (s.folded.run commands).settings := by
  have hrun := (alike_folded s).run commands
  exact ⟨(hrun.step command).1.symm, hrun.settings.symm⟩

/-- A fault in the marker leaves the settings of the log behind. -/
example : ((fresh .log).run [.setVariables [("USER_LOGIC_TEMPLATE_MARKER", some "$")], .summary]).configuration
    = .published (some ⟨"INFO", none⟩) := rfl

end Rulebook.Session
