import UiMarkup.Proofs.Loader.Heeded
import UiMarkup.Proofs.Registry.History
import UiMarkup.Proofs.Scene.Below
import UiMarkup.Proofs.Widget.Noticed

namespace UiMarkup

def Attrs.AgreeBut (name : String) (attrs attrs' : Attrs) : Prop :=
  attrs.only (· != name) = attrs'.only (· != name)

theorem Attrs.agreeBut_only (name : String) (attrs : Attrs) :
    AgreeBut name attrs (attrs.only (· != name)) := by
  unfold AgreeBut only
  rw [List.filter_filter]
  simp

namespace Build

def process (b : Build) (p : Processor) (attrs : Attrs) : Build :=
  match b.make p attrs with
  | (none, b)      => b
  | (some item, b) => (b.setItem (some item)).apply p attrs

def lines (b : Build) : List (Level × String) :=
  b.log.toList.map fun d => (d.level, d.message)

-- For some element, the attribute makes a difference.
def Tells (b : Build) (p : Processor) (name : String) : Prop :=
  ∃ attrs attrs', Attrs.AgreeBut name attrs attrs' ∧
    ((b.process p attrs).scene ≠ (b.process p attrs').scene ∨
      (b.process p attrs).lines ≠ (b.process p attrs').lines)

-- The element is not the same without the attribute.
def Counts (b : Build) (p : Processor) (attrs : Attrs) (name : String) : Prop :=
  (b.process p attrs).scene ≠ (b.process p (attrs.only (· != name))).scene ∨
    (b.process p attrs).lines ≠ (b.process p (attrs.only (· != name))).lines

instance {b : Build} {p : Processor} {attrs : Attrs} {name : String} :
    Decidable (b.Counts p attrs name) :=
  inferInstanceAs (Decidable (_ ∨ _))

theorem Counts.tells {b : Build} {p : Processor} {attrs : Attrs} {name : String}
    (h : b.Counts p attrs name) : b.Tells p name :=
  ⟨attrs, attrs.only (· != name), attrs.agreeBut_only name, h⟩

-- A state that an application can have while a document is read.
structure Possible (b : Build) : Prop where
  registry : ∃ h : Registry.History, b.registry = h.registry
  scene    : b.scene.Arises
  parents  : ∀ id ∈ b.doc.parents, b.scene.has id

end Build

theorem Scene.obj?_edits {s : Scene} {id : ObjId} {o : Obj} (ho : s.obj? id = some o)
    (edits : List Edit) :
    ((edits.map (id, ·)).foldl (fun s (id, e) => s.edit id e) s).obj? id =
      some { o with toContent := o.toContent.edited edits } := by
  induction edits generalizing s o
  case nil => exact ho
  case cons e edits hi =>
    have hedit : (s.edit id e).obj? id = some (o.edit e) := by
      rw [Scene.edit, Scene.obj?_modify, if_pos rfl, ho]
      rfl
    exact hi hedit

namespace Build

variable {b : Build} {p : Processor} {name : String}

theorem lines_noteAll_ne {ds : List Diagnostic} (h : ds ≠ []) : (b.noteAll ds).lines ≠ b.lines := by
  intro he
  have hlength := congrArg List.length he
  simp [lines, noteAll, h] at hlength

theorem process_of_make {attrs : Attrs} {item : Item} (h : (b.make p attrs).1 = some item) :
    b.process p attrs = ((b.make p attrs).2.setItem (some item)).apply p attrs := by
  unfold process
  split
  case h_1 hmake => simp [hmake] at h
  case h_2 hmake =>
    rw [hmake] at h ⊢
    obtain rfl := Option.some.inj h
    rfl

theorem apply_common (hp : p.isObject) (hname : ObjAttr.accepts name) {id : ObjId}
    (hitem : b.doc.item = some (.obj id)) (text : String) :
    b.apply p [(name, text)] =
      let edits := ObjAttr.edits b.env name text
      { b.noteAll edits.notes with
        scene := (edits.value.map (id, ·)).foldl (fun s (id, e) => s.edit id e) b.scene } := by
  unfold apply
  rw [hitem, p.apply_common hp hname]
  simp [take, Processor.onto, noteAll]

theorem tells_common (hp : p.isObject) (hname : ObjAttr.accepts name) {id : ObjId} {o : Obj}
    (hmade : (b.make p []).1 = some (.obj id)) (ho : (b.make p []).2.scene.obj? id = some o)
    (hc : o.toContent.Untouched) (hstyle : (b.env.findStyle "?").notes ≠ []) : b.Tells p name := by
  let made := (b.make p []).2.setItem (some (.obj id))
  have hmodifier (m : Modifier) : p ≠ .modifier m := by
    rintro rfl
    cases hp
  have hmake (text : String) : b.make p [(name, text)] = b.make p [] := by
    rw [make, make, p.create_common hp hname]
  have hwithout : b.process p [] = made := (process_of_make hmade).trans (apply_nil hmodifier)
  have hwith (text : String) : b.process p [(name, text)] = made.apply p [(name, text)] := by
    rw [process_of_make (hmake text ▸ hmade), hmake]
  have hmadeStyle : (made.env.findStyle "?").notes ≠ [] := hstyle
  obtain ⟨text, hnoticed⟩ := ObjAttr.exists_noticed hname hmadeStyle hc
  refine ⟨[(name, text)], [], by simp [Attrs.AgreeBut, Attrs.only], ?_⟩
  have hitem : made.doc.item = some (.obj id) := rfl
  rw [hwithout, hwith, apply_common hp hname hitem]
  obtain hnotes | hedited := hnoticed
  · exact .inr (lines_noteAll_ne hnotes)
  · refine .inl fun hscene => hedited ?_
    have hobj := Scene.obj?_edits (s := made.scene) ho (ObjAttr.edits made.env name text).value
    have hsame := (ho.symm.trans (congrArg (Scene.obj? · id) hscene).symm).trans hobj
    exact (congrArg Obj.toContent (Option.some.inj hsame)).symm

end Build

theorem Scene.Arises.foldl {s : Scene} {requests : List Request} (h : s.Arises)
    (hnamed : ∀ r ∈ requests, ∀ id ∈ r.named, s.has id) :
    (requests.foldl Request.run s).Arises := by
  induction requests generalizing s
  case nil => exact h
  case cons r rest hi =>
    have hr : r.Admissible s := hnamed r (.head _)
    refine hi (.request h r hr) fun r' hr' id hid => ?_
    exact (Leads.single r hr).has (hnamed r' (.tail _ hr') id hid)

namespace Build

-- `a` names something of every sort.
def stock : Registry.History := [
  .register .timeline (by decide) none "a" ⟨0⟩,
  .register .callback (by decide) none "a" ⟨0⟩,
  .register .subject (by decide) none "a" ⟨0⟩,
  .register .image (by decide) none "a" (.path "a.png"),
  .registerStyle none [("name", "b")],
  .registerStyle none [("name", "a")]]

def bareRoom (kind : WidgetKind) : Scene :=
  let s := (Scene.empty.createSubject (.int 0)).2.createTimeline.2
  (s.createWidget kind none).2

def furniture (kind : WidgetKind) : List Scene.Request :=
  let pressed := Selector.ofStates ⟨0x0020⟩
  let styles := [.edit ⟨0⟩ (.addStyle ⟨0⟩ .empty pressed), .edit ⟨0⟩ (.addStyle ⟨1⟩ .empty pressed)]
  if kind = .tabview then styles ++ [.addTab ⟨0⟩ "1", .addTab ⟨0⟩ "2"] else styles

def room (kind : WidgetKind) : Scene :=
  (furniture kind).foldl Scene.Request.run (bareRoom kind)

def amid (kind : WidgetKind) : Build where
  doc      := .begin .globals (some ⟨0⟩)
  registry := stock.registry
  scene    := room kind

theorem arises_bareRoom (kind : WidgetKind) : (bareRoom kind).Arises := by
  have hadm {s : Scene} {r : Scene.Request} (h : r.named = []) : r.Admissible s := by
    simp [Scene.Request.Admissible, h]
  exact .request (.request (.request .empty (.createSubject (.int 0)) (hadm rfl)) .createTimeline
    (hadm rfl)) (.createWidget kind none) (hadm rfl)

theorem arises_room (kind : WidgetKind) : (room kind).Arises := by
  have hroom : (bareRoom kind).has ⟨0⟩ := by cases kind <;> decide
  refine (arises_bareRoom kind).foldl fun r hr id hid => ?_
  obtain rfl : id = ⟨0⟩ := by
    revert r
    cases kind <;> simp [furniture, Scene.Request.named]
  exact hroom

theorem possible_amid (kind : WidgetKind) : (amid kind).Possible where
  registry := ⟨stock, rfl⟩
  scene    := arises_room kind
  parents  := by
    intro id hid
    obtain rfl : id = ⟨0⟩ := List.mem_singleton.mp hid
    cases kind <;> decide

end Build

def Modifier.complete : Modifier → Attrs
  | .style        => [("name", "a"), ("selector", "pressed")]
  | .removeStyle  => [("name", "a"), ("selector", "pressed")]
  | .removeStyles => []
  | .callback     => [("callback", "a"), ("trigger", "pressed"), ("user_data", "1")]
  | .toggle       => [("subject", "a"), ("trigger", "pressed")]
  | .assign _     => [("subject", "a"), ("trigger", "pressed"), ("value", "1")]
  | .increment    => [("subject", "a"), ("trigger", "pressed"), ("step", "2"), ("min_value", "1"),
    ("max_value", "9"), ("rollover", "true")]
  | .bindStyle    => [("name", "a"), ("selector", "pressed"), ("subject", "a"), ("ref_value", "1")]
  | .loadScreen   => [("screen", "main"), ("trigger", "pressed"), ("anim_type", "fade_in"),
    ("duration", "1"), ("delay", "1")]
  | .playTimeline => [("timeline", "a"), ("target", "b"), ("trigger", "pressed"), ("delay", "1"),
    ("reverse", "true")]
  | .bindFlag _   => [("subject", "a"), ("flag", "hidden"), ("ref_value", "1")]
  | .bindState _  => [("subject", "a"), ("state", "checked"), ("ref_value", "1")]

theorem Modifier.keys_complete (m : Modifier) : Assoc.keys m.complete = m.attrNames := by
  cases m <;> rfl

namespace Processor

def complete : Processor → Attrs
  | .widget kind  => (Rule.ofKind kind ++ Rule.ofKindLast kind).map fun e => (e.1, "a")
  | .tab          => [("text", "a")]
  | .tabButton    => [("index", "1"), ("x", "1")]
  | .tableColumn  => [("column", "1"), ("width", "1")]
  | .tableCell    => [("row", "1"), ("column", "1"), ("value", "a"), ("ctrl", "merge_right")]
  | .scaleSection => [("min_value", "1"), ("max_value", "1"), ("style_main", "a"),
    ("style_indicator", "a"), ("style_items", "a"), ("bind_min_value", "a"),
    ("bind_max_value", "a")]
  | .span         => [("text", "a"), ("style", "a"), ("bind_text", "a"), ("bind_text-fmt", "%d")]
  | .imageSlice _ => [("state", "pressed"), ("src", "a")]
  | .modifier m   => m.complete
  | _             => []

def home : Processor → WidgetKind
  | .dropdownList   => .dropdown
  | .calendarHeader => .calendar
  | .tabBar         => .tabview
  | .tab            => .tabview
  | .tabButton      => .tabview
  | .tableColumn    => .table
  | .tableCell      => .table
  | .scaleSection   => .scale
  | .span           => .spangroup
  | .imageSlice _   => .imagebutton
  | _               => .obj

-- The table is kept apart from what the processors accept, and leaves out nothing.
theorem complete_or_common {p : Processor} {name : String} (hcustom : ∀ kind, p ≠ .custom kind)
    (h : p.accepts name) :
    name ∈ Assoc.keys p.complete ∨ (p.isObject ∧ ObjAttr.accepts name) := by
  unfold accepts at h
  cases p
  case custom kind => exact absurd rfl (hcustom kind)
  case widget kind =>
    have hkey {rules : Assoc String Rule} (h : Assoc.contains rules name)
        (hrules : ∀ e ∈ rules, e ∈ Rule.ofKind kind ++ Rule.ofKindLast kind) :
        name ∈ Assoc.keys (complete (.widget kind)) := by
      obtain ⟨rule, hrule⟩ := Option.isSome_iff_exists.mp h
      have hmem := hrules _ (Assoc.mem_of_get? hrule)
      exact List.mem_map.mpr ⟨(name, "a"), List.mem_map.mpr ⟨_, hmem, rfl⟩, rfl⟩
    simp only [WidgetKind.accepts, Bool.or_eq_true] at h
    obtain (h | h) | h := h
    · exact .inr ⟨rfl, h⟩
    · exact .inl (hkey h fun e he => List.mem_append_left _ he)
    · exact .inl (hkey h fun e he => List.mem_append_right _ he)
  case tab | tabButton =>
    refine (Bool.or_eq_true_iff.mp h).symm.imp (fun h => ?_) fun h => ⟨rfl, h⟩
    simp [complete, Assoc.keys, beq_iff_eq.mp h]
  case modifier m => exact .inl (m.keys_complete ▸ List.contains_iff_mem.mp h)
  case tableColumn | tableCell | scaleSection | span | imageSlice =>
    exact .inl (List.contains_iff_mem.mp h)
  all_goals exact .inr ⟨rfl, h⟩

end Processor

namespace WidgetTable

-- There are finitely many of these, so each is tried.
theorem counts_complete : ∀ e ∈ builtin, ∀ a ∈ e.2.complete,
    ¬(e.1 = "play_timeline_event" ∧ a.1 = "target") →
      (Build.amid e.2.home).Counts e.2 e.2.complete a.1 := by
  decide +kernel

theorem makes_object : ∀ e ∈ builtin, e.2.isObject →
    (((Build.amid e.2.home).make e.2 []).1.bind Item.obj?).any fun id =>
      (((Build.amid e.2.home).make e.2 []).2.scene.obj? id).any fun o =>
        decide o.toContent.Untouched := by
  decide +kernel

end WidgetTable

theorem Attrs.AgreeBut.sameOn {name : String} {attrs attrs' : Attrs}
    (h : AgreeBut name attrs attrs') : SameOn (· != name) attrs attrs' := by
  intro other hother
  rw [← sameOn_only (· != name) attrs other hother, show attrs.only _ = attrs'.only _ from h]
  exact sameOn_only (· != name) attrs' other hother

theorem Modifier.edits_playTimeline {attrs attrs' : Attrs} (h : attrs.AgreeBut "target" attrs')
    (env : Env) : edits env attrs .playTimeline = edits env attrs' .playTimeline := by
  have hsame := h.sameOn
  dsimp only [edits, hook, action, trigger]
  rw [hsame "timeline" (by decide), hsame "trigger" (by decide),
    hsame.intAttr "delay" (by decide), hsame.boolAttr "reverse" (by decide)]

theorem Build.not_tells_target (b : Build) : ¬b.Tells (.modifier .playTimeline) "target" := by
  rintro ⟨attrs, attrs', hagree, hne⟩
  have happly (b : Build) : b.apply (.modifier .playTimeline) attrs =
      b.apply (.modifier .playTimeline) attrs' := by
    unfold apply Processor.apply
    dsimp only
    rw [Modifier.edits_playTimeline hagree]
    rfl
  have hprocess : b.process (.modifier .playTimeline) attrs =
      b.process (.modifier .playTimeline) attrs' := by
    unfold process
    have hmake : b.make (.modifier .playTimeline) attrs = b.make (.modifier .playTimeline) attrs' :=
      rfl
    simp only [hmake, happly]
  rw [hprocess] at hne
  exact hne.elim (· rfl) (· rfl)

namespace WidgetTable

theorem not_custom {tag : String} {p : Processor} (h : (tag, p) ∈ builtin)
    (kind : Option WidgetKind) : p ≠ .custom kind := by
  rintro rfl
  simp [builtin, widgets, pieces, modifiers] at h

theorem accepted_told_iff {tag : String} {p : Processor} (hp : builtin.get? tag = some p)
    {name : String} (hname : p.accepts name) :
    (∃ b : Build, b.Possible ∧ b.Tells p name) ↔
      ¬(tag = "play_timeline_event" ∧ name = "target") := by
  have hmem : (tag, p) ∈ builtin := Assoc.mem_of_get? hp
  constructor
  case mp =>
    rintro ⟨b, -, htells⟩ ⟨rfl, rfl⟩
    obtain rfl : p = .modifier .playTimeline := Option.some.inj (hp.symm.trans (by decide))
    exact b.not_tells_target htells
  case mpr =>
    intro hother
    refine ⟨.amid p.home, Build.possible_amid p.home, ?_⟩
    obtain hkey | ⟨hobject, hcommon⟩ := Processor.complete_or_common (not_custom hmem) hname
    · obtain ⟨a, ha, rfl⟩ := List.mem_map.mp hkey
      exact (counts_complete (tag, p) hmem a ha hother).tells
    · obtain ⟨id, hid, hfresh⟩ := (Option.any_eq_true ..).mp (makes_object _ hmem hobject)
      obtain ⟨o, ho, hc⟩ := (Option.any_eq_true ..).mp hfresh
      obtain ⟨item, hmade, hitem⟩ := Option.bind_eq_some_iff.mp hid
      obtain rfl : item = .obj id := by
        cases item <;> cases hitem
        rfl
      have hstyle : (Build.stock.registry.findStyle (some .globals) "?").notes ≠ [] := by decide
      exact Build.tells_common hobject hcommon hmade ho (of_decide_eq_true hc) hstyle

theorem accepted_told_iff_button :
    builtin.get? "button" = some (.widget .button) ∧
    Processor.accepts (.widget .button) "style_radius-pressed" ∧
    ∃ b : Build, b.Possible ∧ b.Tells (.widget .button) "style_radius-pressed" := by
  have hget : builtin.get? "button" = some (.widget .button) := by decide
  have haccepts : Processor.accepts (.widget .button) "style_radius-pressed" := by decide
  exact ⟨hget, haccepts, (accepted_told_iff hget haccepts).mpr (by decide)⟩

theorem not_all_accepted_told :
    ¬∀ (tag : String) (p : Processor) (name : String), builtin.get? tag = some p →
      p.accepts name → ∃ b : Build, b.Tells p name := by
  intro hall
  obtain ⟨b, htells⟩ := hall "play_timeline_event" (.modifier .playTimeline) "target" (by decide)
    (by decide)
  exact b.not_tells_target htells

end WidgetTable

end UiMarkup
