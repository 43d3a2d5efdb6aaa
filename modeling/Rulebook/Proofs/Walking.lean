-- Values walked through keys. A walk takes one key after the other and passes over
-- those that are absent; it comes to what the path of all their segments leads to,
-- however these are spread over the keys.
import Rulebook.Proofs.Indices
import Rulebook.Proofs.Placeholders
import Rulebook.Proofs.Scopes
import Rulebook.Proofs.Splitting

namespace Rulebook

/-- Missing, null, a text, an integer or a list. -/
def Value.isKey : Value → Bool
  | .undefined | .null | .text _ | .int _ | .list _ => true
  | _ => false

namespace Text

/-- The parts of two dotted names with a dot between them. -/
theorem dotted_append (p q : String) : dotted (p ++ "." ++ q) = dotted p ++ dotted q := by
  have hlist : (p ++ "." ++ q).toList = p.toList ++ '.' :: q.toList := by simp
  rw [dotted, hlist, splitOn_char_append, List.map_append]
  rfl

end Text

namespace Path

/-! ## The path of some keys -/

/-- The segments of all keys that are there, one after the other. -/
def joined (keys : List Value) : Except Fault (List Value) := do
  let parts ← (keys.filter fun k => !k.isAbsent).mapM segments
  return parts.flatten

/-- The same segments in other keys. -/
inductive Regrouped : List Value → List Value → Prop
  | dotted (p q : String) : Regrouped [.text (p ++ "." ++ q)] [.text p, .text q]
  | text (p : String) : Regrouped [.text p] [.list ((Text.dotted p).map .text)]
  | index (n : Int) : Regrouped [.int n] [.list [.int n]]
  | lists (xs ys : List Value) : Regrouped [.list (xs ++ ys)] [.list xs, .list ys]
  | absent {k : Value} (h : k.isAbsent = true) : Regrouped [k] []
  | among (us ws : List Value) {xs ys : List Value} (h : Regrouped xs ys) :
      Regrouped (us ++ xs ++ ws) (us ++ ys ++ ws)
  | refl (xs : List Value) : Regrouped xs xs
  | symm {xs ys : List Value} (h : Regrouped xs ys) : Regrouped ys xs
  | trans {xs ys zs : List Value} (h : Regrouped xs ys) (h' : Regrouped ys zs) : Regrouped xs zs

section Joined

variable {k : Value} {ks : List Value}

theorem joined_absent (h : k.isAbsent = true) : joined (k :: ks) = joined ks := by
  unfold joined
  rw [List.filter_cons_of_neg (by simp [h])]

theorem joined_present (h : k.isAbsent = false) :
    joined (k :: ks) = (do return (← segments k) ++ (← joined ks)) := by
  unfold joined
  rw [List.filter_cons_of_pos (by simp [h]), List.mapM_cons]
  simp only [bind_assoc, pure_bind, List.flatten_cons]

theorem joined_append (ks ls : List Value) : joined (ks ++ ls) = (do return (← joined ks) ++ (← joined ls)) := by
  induction ks with
  | nil => exact (bind_pure _).symm
  | cons k ks ih =>
    rw [List.cons_append]
    cases hk : k.isAbsent with
    | true => rw [joined_absent hk, joined_absent hk, ih]
    | false =>
      rw [joined_present hk, joined_present hk, ih]
      simp only [bind_assoc, pure_bind, List.append_assoc]

/-- Keys of the right kinds have a path. -/
theorem joined_ok (h : ∀ k ∈ ks, k.isKey = true) : ∃ path, joined ks = .ok path := by
  induction ks with
  | nil => exact ⟨[], rfl⟩
  | cons k ks ih =>
    obtain ⟨hk, hks⟩ := List.forall_mem_cons.mp h
    obtain ⟨path, hpath⟩ := ih hks
    cases k with
    | undefined | null => exact ⟨path, hpath⟩
    | text _ | int _ | list _ => exact ⟨_, by rw [joined_present rfl, hpath]; rfl⟩
    | _ => cases hk

theorem Regrouped.joined_eq {ks ls : List Value} (h : Regrouped ks ls) : joined ks = joined ls := by
  induction h with
  | dotted p q =>
    have hwhole : joined [.text (p ++ "." ++ q)] = .ok ((Text.dotted (p ++ "." ++ q)).map .text ++ []) := rfl
    have hparts : joined [.text p, .text q]
        = .ok ((Text.dotted p).map .text ++ ((Text.dotted q).map .text ++ [])) := rfl
    rw [hwhole, hparts, Text.dotted_append, List.map_append, List.append_assoc]
  | text p => rfl
  | index n => rfl
  | lists xs ys =>
    have hwhole : joined [.list (xs ++ ys)] = .ok (xs ++ ys ++ []) := rfl
    have hparts : joined [.list xs, .list ys] = .ok (xs ++ (ys ++ [])) := rfl
    rw [hwhole, hparts, List.append_assoc]
  | absent h => exact joined_absent h
  | among us ws h ih => simp only [joined_append, ih]
  | refl xs => rfl
  | symm h ih => exact ih.symm
  | trans h h' ih ih' => exact ih.trans ih'

end Joined

end Path

/-! ## Walks -/

namespace Node

theorem follow_absent {k : Value} (h : k.isAbsent = true) (v : Value) : follow v k = .ok v := by
  rw [follow, if_pos h]

theorem follow_present {k : Value} (h : k.isAbsent = false) (v : Value) :
    follow v k = (do Resolver.plain.get v (← Path.segments k)) := by
  rw [follow, if_neg (by simp [h])]

/-- Key by key, a walk goes along the path of all keys. -/
theorem foldlM_follow {ks path : List Value} (h : Path.joined ks = .ok path) (v : Value) :
    ks.foldlM follow v = Resolver.plain.get v path := by
  induction ks generalizing v path with
  | nil =>
    obtain rfl := Except.ok.inj h
    rfl
  | cons k ks ih =>
    rw [List.foldlM_cons]
    cases hk : k.isAbsent with
    | true =>
      rw [Path.joined_absent hk] at h
      rw [follow_absent hk, ok_bind, ih h]
    | false =>
      rw [Path.joined_present hk] at h
      obtain ⟨before, hbefore, h⟩ := bind_ok h
      obtain ⟨rest, hrest, h⟩ := bind_ok h
      obtain rfl := Except.ok.inj h
      rw [follow_present hk, hbefore, ok_bind, Resolver.get_append]
      exact congrArg _ (funext fun w => ih hrest w)

end Node

namespace Resolver

/-- Ancestors are not asked where no mapping holds the parent key. -/
theorem get_of_orphans {parent : String} {root : Value}
    (h : ∀ fs, Value.Inside (.object fs) root → Mapping.contains (.text parent) fs = false)
    (path : List Value) : (inherited parent).get root path = plain.get root path := by
  refine Path.walk_congr
    (P := fun v => ∀ fs, Value.Inside (.object fs) v → Mapping.contains (.text parent) fs = false)
    ?_ ?_ h path
  · intro v s hv
    apply Path.stepInherited_of_orphan
    rintro fs rfl
    exact Mapping.get?_of_not_contains (hv fs .here)
  · intro v s w hv hstep fs hfs
    exact hv fs (Path.step_inside hstep hfs)

end Resolver

/-! ## Walks as definitions -/

theorem Blueprint.property_ok (b : Value) {ks : List Value} (h : ks ≠ []) : property (.list (b :: ks))
    = .ok ⟨[], b :: ks, fun ns => .property (ns.headD (.literal .undefined)) ns.tail⟩ := by
  have hcount : 2 ≤ (b :: ks).length := Nat.succ_le_succ (List.length_pos_of_ne_nil h)
  rw [property, operands, OperandCount.admits, decide_eq_true hcount]
  rfl

namespace Logic

/-- A value walked through keys, as a definition. -/
def propertyForm (b : Value) (ks : List Value) : Value := Compile.longForm "object-property" (.list (b :: ks))

section Walks

variable {around : Surroundings} {base b : Value} {ks : List Value}

theorem property_factory :
    Registry.standard.factory? (.text "object-property") = some (.form Blueprint.property) := rfl

theorem property_builds (hks : ks ≠ [])
    (hparts : ∀ d ∈ b :: ks, ∃ l, outcome (build around [] base d) ⟨0, [], false⟩ = .ok l) (draft : Draft) :
    ∃ l, outcome (build around [] base (propertyForm b ks)) draft = .ok l := by
  obtain ⟨l, hl⟩ := hparts b List.mem_cons_self
  obtain ⟨fields, _, settings, hbase, -, hset⟩ := build_ok hl
  have hsize : ∀ d ∈ b :: ks, d.size ≤ (Value.list (b :: ks)).size :=
    fun d hd => Nat.le_of_lt (Value.size_lt_list hd)
  exact form_builds ⟨fields, settings, hbase, hset⟩ property_factory (Blueprint.property_ok b hks) rfl hsize
    hparts draft

/-- The keys are evaluated on the way, each before the walk goes on. -/
theorem property_means (hks : ks ≠ []) {draft : Draft} {l : Logic}
    (hl : outcome (build around [] base (propertyForm b ks)) draft = .ok l) (context : Value) (j : Journal) :
    outcome (l.eval context) j = (do
      ks.foldlM (fun v d => do Node.follow v (← alone around base d j context))
        (← alone around base b j context)) := by
  obtain ⟨fields, _, settings, hbase, -, hset⟩ := build_ok hl
  have hplan := Blueprint.property_ok b hks
  have hsize : ∀ d ∈ b :: ks, d.size < (propertyForm b ks).size :=
    fun d hd => Compile.size_lt_longForm (Nat.le_of_lt (Value.size_lt_list hd))
  obtain ⟨ls, hls, ns, hns, hholds⟩ :=
    (build_selected hbase hset rfl property_factory hplan rfl hsize draft).exists_ok hl
  have hparts := mapM_ok hls
  cases hc : l.contextIn? context with
  | none =>
    cases hparts with
    | cons hfirst _ =>
      rw [alone_outside hbase hset hfirst hholds.base hc, eval_outside hc]
      rfl
  | some c =>
    have hvalues := alone_parts hbase hset hparts hns hholds.base hc j
    cases hvalues with
    | @cons _ n _ ns hb hkeys =>
      have hroot : l.root = .property n ns := hholds.root
      rw [eval_built hl hc, hroot, Node.value, hb]
      refine congrArg _ (funext fun v => ?_)
      rw [Node.valueOfKeys_eq]
      refine (foldlM_eq_of_forall₂ hkeys (fun w d m hd => ?_) v).symm
      rw [hd]

/-- Where all keys have values of the right kinds, a walk goes along their path. -/
theorem property_follows (hks : ks ≠ []) {draft : Draft} {l : Logic}
    (hl : outcome (build around [] base (propertyForm b ks)) draft = .ok l) {context : Value} {j : Journal}
    {vs path : List Value} (hvs : (ks.mapM fun d => alone around base d j context) = .ok vs)
    (hpath : Path.joined vs = .ok path) :
    outcome (l.eval context) j = (do Resolver.plain.get (← alone around base b j context) path) := by
  have hkeys := mapM_ok hvs
  rw [property_means hks hl]
  refine congrArg _ (funext fun v => ?_)
  rw [← Node.foldlM_follow hpath]
  refine foldlM_eq_of_forall₂ hkeys (fun w d k hd => ?_) v
  rw [hd, ok_bind]

/-- A text that is neither a path nor a template is compiled to itself. -/
theorem build_plain_text {fields : Fields} {settings : LogicSettings} (hbase : Entries.ofValue base = .ok fields)
    (hset : around.settings = .ok settings) {s : String}
    (hselect : Compile.select settings.marker (.text s) = .ok (.text Operation.literalName, .text s)) :
    ∃ l, outcome (build around [] base (.text s)) ⟨0, [], false⟩ = .ok l ∧ l.root = .literal (.text s) := by
  have hfactory : Registry.standard.factory? (.text Operation.literalName) = some (.form Blueprint.literal) := rfl
  have hbuilt := build_selected (b := ⟨[], [], fun _ => .literal (.text s)⟩) hbase hset hselect hfactory
    rfl rfl (by simp) ⟨0, [], false⟩
  obtain ⟨l, hl⟩ := hbuilt.ok_of_mapM (by simp)
  obtain ⟨ls, -, ns, -, hholds⟩ := hbuilt.exists_ok hl
  exact ⟨l, hl, hholds.root⟩

end Walks

/-- Walking a value through keys leads to where the path of all their segments
leads, or fails as it does. So the segments may come in other keys, absent keys may
stand anywhere, and a walk that is lost stays lost. Where no mapping holds the
parent key, a key that is a text may as well be written behind the path to the
value. -/
theorem walks_follow_the_path_of_their_keys (around : Surroundings) (base : Value) (draft : Draft) :
    (∀ b ks, ks ≠ [] → (∀ d ∈ b :: ks, ∃ l, outcome (build around [] base d) ⟨0, [], false⟩ = .ok l) →
      ∃ l, outcome (build around [] base (propertyForm b ks)) draft = .ok l
        ∧ ∀ context j v vs, alone around base b j context = .ok v →
          (ks.mapM fun d => alone around base d j context) = .ok vs → (∀ k ∈ vs, k.isKey = true) →
          (∃ path, Path.joined vs = .ok path ∧ outcome (l.eval context) j = Resolver.plain.get v path)
            ∧ (∀ us ws before, vs = us ++ ws → Path.joined us = .ok before →
                Resolver.plain.get v before = .ok .undefined → outcome (l.eval context) j = .ok .undefined)
            ∧ ∀ ls us m, ls ≠ [] → (ls.mapM fun d => alone around base d j context) = .ok us →
              Path.joined us = Path.joined vs →
              outcome (build around [] base (propertyForm b ls)) draft = .ok m →
              outcome (m.eval context) j = outcome (l.eval context) j)
      ∧ (∀ us vs, Path.Regrouped us vs → Path.joined us = Path.joined vs)
      ∧ ∀ settings p q lq, around.settings = .ok settings →
        outcome (build around [] base (.text q)) ⟨0, [], false⟩ = .ok lq → lq.root = .literal (.text q) →
        ∃ l m, outcome (build around [] base (propertyForm (placeholder p) [.text q])) draft = .ok l
          ∧ outcome (build around [] base (placeholder (p ++ "." ++ q))) draft = .ok m
          ∧ ∀ context j, (∀ c, l.contextIn? context = some c → ∀ fs, Value.Inside (.object fs) (.object c) →
              Mapping.contains (.text settings.parentKey) fs = false) →
            outcome (l.eval context) j = outcome (m.eval context) j := by
  refine ⟨fun b ks hks hparts => ?_, fun us vs h => h.joined_eq, fun settings p q lq hset hq hroot => ?_⟩
  · obtain ⟨l, hl⟩ := property_builds hks hparts draft
    refine ⟨l, hl, fun context j v vs hv hvs hkeys => ?_⟩
    obtain ⟨path, hpath⟩ := Path.joined_ok hkeys
    have hwalk := property_follows hks hl hvs hpath
    rw [hv, ok_bind] at hwalk
    refine ⟨⟨path, hpath, hwalk⟩, ?_, ?_⟩
    · rintro us ws before rfl hbefore hlost
      rw [Path.joined_append, hbefore, ok_bind] at hpath
      obtain ⟨rest, -, hpath⟩ := bind_ok hpath
      obtain rfl := Except.ok.inj hpath
      rw [hwalk, Resolver.get_append, hlost, ok_bind, Resolver.get_undefined]
    · intro ls us m hls hus hjoined hm
      rw [property_follows hls hm hus (hjoined.trans hpath), hv, ok_bind, hwalk]
  · obtain ⟨fields, _, _, hbase, -, -⟩ := build_ok hq
    have hdollar (name : String) : ("$" ++ name).toList = '$' :: name.toList := by simp
    have hpath := build_path hbase hset p (hdollar p) ⟨0, [], false⟩
    obtain ⟨m, hm, hbasem, hrootm⟩ : ∃ m, outcome (build around [] base (placeholder (p ++ "." ++ q))) draft = .ok m
        ∧ m.base = fields
        ∧ m.root = .path (Text.dotted (p ++ "." ++ q)) (.inherited settings.parentKey) :=
      ⟨_, build_path hbase hset _ (hdollar _) draft, rfl, rfl⟩
    have hparts : ∀ d ∈ [placeholder p, .text q],
        ∃ l, outcome (build around [] base d) ⟨0, [], false⟩ = .ok l :=
      List.forall_mem_cons.mpr ⟨⟨_, hpath⟩, List.forall_mem_singleton.mpr ⟨lq, hq⟩⟩
    obtain ⟨l, hl⟩ := property_builds (by simp) hparts draft
    have hfields : l.base = fields := (build_parts hbase rfl hset hl).2.1
    have hsame := contextIn?_congr (hbasem.trans hfields.symm)
    refine ⟨l, m, hl, hm, fun context j horphans => ?_⟩
    cases hc : l.contextIn? context with
    | none => rw [eval_outside hc, eval_outside ((hsame context).trans hc)]
    | some c =>
      have hkey : alone around base (.text q) j context = .ok (.text q) := by
        rw [alone_eq hbase hset hq hfields hc j, hroot, Node.value]
      have hvs : ([Value.text q].mapM fun d => alone around base d j context) = .ok [.text q] := by
        rw [List.mapM_cons, hkey]
        rfl
      have hjoined : Path.joined [.text q] = .ok ((Text.dotted q).map .text) := by
        have hwhole : Path.joined [.text q] = .ok ((Text.dotted q).map .text ++ []) := rfl
        rw [hwhole, List.append_nil]
      have hget := Resolver.get_of_orphans (horphans c hc)
      rw [property_follows (by simp) hl hvs hjoined, alone_path hbase hset hfields hc, hget]
      rw [eval_built hm ((hsame context).trans hc), hrootm, Node.value, hget, Text.dotted_append,
        List.map_append, Resolver.get_append]

/-- Keys that are texts, missing and indices, and a property behind a path. -/
theorem property_of_a_list_in_a_mapping :
    (∃ l, outcome (build ordinary [] .null (propertyForm (.text "$a") [.text "$k", .text "$gone", .int 1]))
          ⟨0, [], false⟩ = .ok l
        ∧ outcome (l.eval (.object [(.text "a", .object [(.text "b", .list [.int 5, .int 6])]),
            (.text "k", .text "b")])) Journal.empty = .ok (.int 6))
      ∧ ∃ l m, outcome (build ordinary [] .null (propertyForm (placeholder "a") [.text "b.0"])) ⟨0, [], false⟩
            = .ok l
          ∧ outcome (build ordinary [] .null (placeholder "a.b.0")) ⟨0, [], false⟩ = .ok m
          ∧ outcome (l.eval (.object [(.text "a", .object [(.text "b", .list [.int 5])])])) Journal.empty
            = outcome (m.eval (.object [(.text "a", .object [(.text "b", .list [.int 5])])])) Journal.empty := by
  have hset : ordinary.settings = .ok ⟨false, Settings.defaultParentKey, Settings.defaultMarker⟩ := rfl
  have hbase : Entries.ofValue .null = .ok [] := rfl
  have ha := build_path (s := "$a") hbase hset "a" rfl ⟨0, [], false⟩
  have hk := build_path (s := "$k") hbase hset "k" rfl ⟨0, [], false⟩
  have hgone := build_path (s := "$gone") hbase hset "gone" rfl ⟨0, [], false⟩
  have hone := build_int 1 ⟨0, [], false⟩
  obtain ⟨hwalks, -, hpaths⟩ := walks_follow_the_path_of_their_keys ordinary .null ⟨0, [], false⟩
  constructor
  · have hparts : ∀ d ∈ [Value.text "$a", .text "$k", .text "$gone", .int 1],
        ∃ l, outcome (build ordinary [] .null d) ⟨0, [], false⟩ = .ok l := by
      simp only [List.forall_mem_cons]
      exact ⟨⟨_, ha⟩, ⟨_, hk⟩, ⟨_, hgone⟩, ⟨_, hone⟩, by simp⟩
    obtain ⟨l, hl, heval⟩ := hwalks (.text "$a") [.text "$k", .text "$gone", .int 1] (by simp) hparts
    refine ⟨l, hl, ?_⟩
    have hfields : l.base = [] := (build_parts hbase rfl hset hl).2.1
    generalize hcontext : (Value.object [(.text "a", .object [(.text "b", .list [.int 5, .int 6])]),
      (.text "k", .text "b")]) = context
    have hc : l.contextIn? context = some _ := hcontext ▸ contextIn?_object hfields _
    have hvalue := alone_eq hbase hset ha hfields hc Journal.empty
    have hvs : ([Value.text "$k", .text "$gone", .int 1].mapM fun d => alone ordinary .null d Journal.empty context)
        = .ok [.text "b", .undefined, .int 1] := by
      simp only [List.mapM_cons, alone_eq hbase hset hk hfields hc, alone_eq hbase hset hgone hfields hc,
        alone_eq hbase hset hone hfields hc]
      rfl
    obtain ⟨⟨path, hpath, hwalk⟩, -⟩ := heval context Journal.empty _ _ hvalue hvs (by simp [Value.isKey])
    obtain rfl := Except.ok.inj hpath
    rw [hwalk]
    rfl
  · obtain ⟨lq, hq, hroot⟩ := build_plain_text (s := "b.0") hbase hset rfl
    obtain ⟨l, m, hl, hm, heval⟩ := hpaths _ "a" "b.0" lq hset hq hroot
    have hfields : l.base = [] := (build_parts hbase rfl hset hl).2.1
    refine ⟨l, m, hl, hm, heval _ Journal.empty fun c hc fs hfs => ?_⟩
    have hcontext : l.contextIn? (.object [(.text "a", .object [(.text "b", .list [.int 5])])])
        = some [(.text "a", .object [(.text "b", .list [.int 5])])] := contextIn?_object hfields _
    obtain rfl := Option.some.inj (hcontext.symm.trans hc)
    -- the context, the mapping in it, and no third one
    cases hfs with
    | here => decide
    | entry he hfs =>
      obtain rfl := List.mem_singleton.mp he
      cases hfs with
      | here => decide
      | entry he hfs =>
        obtain rfl := List.mem_singleton.mp he
        cases hfs with
        | item hx hfs =>
          obtain rfl := List.mem_singleton.mp hx
          cases hfs

end Logic

end Rulebook
