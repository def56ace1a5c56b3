import Mathlib
import UiMarkup.Proofs.Loader.Mirror
import UiMarkup.Proofs.Loader.Passing
import UiMarkup.Proofs.Loader.Roots
import UiMarkup.Proofs.Loader.Screens

namespace UiMarkup

open Markup

namespace Scene

-- The objects are the complete tree with `k` branches: all are on one of the levels below the root,
-- those above the deepest level have `k` children each, and those on it have none.
structure Complete (s : Scene) (k levels : Nat) (root : ObjId) : Prop where
  tied     : s.WellTied
  single   : ∀ id, s.Under id none ↔ id = root
  reached  : ∀ id, s.has id → ∃ n < levels, s.Level root n id
  inner    : ∀ n id, s.Level root n id → n + 1 < levels → (s.children id).length = k
  deepest  : ∀ n id, s.Level root n id → n + 1 = levels → s.children id = []

end Scene

namespace Markup.Forest

-- Objects side by side, `count` of them, which have the same elements in them.
def copies (body : Forest) : (count : Nat) → Forest
  | 0         => empty
  | count + 1 => element "obj" [] false body (body.copies count)

def trees (k : Nat) : (levels : Nat) → (count : Nat) → Forest
  | 0, _              => empty
  | levels + 1, count => (trees k levels k).copies count

def references (tag : String) : List Attrs → Forest
  | []            => empty
  | attrs :: rest => element tag attrs true empty (references tag rest)

variable {k levels count next : Nat} {parent : Option ObjId}

theorem trees_succ_succ : trees k (levels + 1) (count + 1) =
    element "obj" [] false (trees k levels k) (trees k (levels + 1) count) := rfl

theorem outline_trees_succ (count : Nat) :
    (trees k levels (count + 1)).outline levels parent next =
    let first := (trees k levels 1).outline levels parent next
    first ++ (trees k levels count).outline levels parent (next + first.length) := by
  cases levels
  case zero => simp
  case succ levels =>
    have hlast : trees k (levels + 1) 0 = empty := rfl
    simp [trees_succ_succ, hlast, outline, Nat.add_assoc, Nat.add_comm]

theorem length_outline_trees : ((trees k levels count).outline levels parent next).length =
    count * Build.treeSize k levels := by
  induction levels generalizing count parent next
  case zero => simp [Build.treeSize]
  case succ levels hlevels =>
    induction count generalizing next
    case zero => simp [trees, copies, outline]
    case succ count hcount =>
      rw [trees_succ_succ, outline, List.length_append, List.length_cons, hlevels, hcount,
        Build.treeSize_succ, Nat.succ_mul]
      omega

theorem tag_of_mem_outline_trees {e : String × Option ObjId}
    (h : e ∈ (trees k levels count).outline levels parent next) : e.1 = "obj" := by
  induction levels generalizing count parent next
  case zero => simp at h
  case succ levels hlevels =>
    induction count generalizing next
    case zero => simp [trees, copies, outline] at h
    case succ count hcount =>
      rw [trees_succ_succ, outline] at h
      rcases List.mem_append.mp h with h | h
      · rcases List.mem_cons.mp h with rfl | h
        · rfl
        · exact hlevels h
      · exact hcount h

end Markup.Forest

namespace Scene

variable {s : Scene} {k levels count : Nat} {ids : List ObjId}

open Forest (trees)

theorem Mirrors.length_eq (h : s.Mirrors (levels + 1) ids (trees k (levels + 1) count)) :
    ids.length = count := by
  induction count generalizing ids
  case zero => exact congrArg List.length (show ids = [] from h)
  case succ count hi =>
    obtain ⟨_, others, _, rfl, _, _, _, hothers⟩ := h
    rw [List.length_cons, hi hothers]

theorem Mirrors.children {id : ObjId} (h : s.Mirrors (levels + 1) ids (trees k (levels + 1) count))
    (hid : id ∈ ids) : s.Mirrors levels (s.children id) (trees k levels k) := by
  induction count generalizing ids
  case zero => cases (show ids = [] from h) ▸ hid
  case succ count hi =>
    obtain ⟨_, others, _, rfl, _, _, hinside, hothers⟩ := h
    rcases List.mem_cons.mp hid with rfl | hid
    · exact hinside
    · exact hi hothers hid

theorem Mirrors.level (h : s.Mirrors levels ids (trees k levels count)) (hs : s.WellTied)
    {id c : ObjId} {n : Nat} (hid : id ∈ ids) (hc : s.Level id n c) :
    n < levels ∧ (n + 1 < levels → (s.children c).length = k) ∧
      (n + 1 = levels → s.children c = []) := by
  induction levels generalizing ids count id n
  case zero => cases (show ids = [] from h) ▸ hid
  case succ levels hi =>
    have hinside := h.children hid
    obtain ⟨rfl, rfl⟩ | ⟨m, c', rfl, hc', hm⟩ := level_iff.mp hc
    · refine ⟨Nat.succ_pos _, fun hlt => ?inner, fun he => ?deepest⟩
      case inner =>
        obtain ⟨levels, rfl⟩ := Nat.exists_eq_succ_of_ne_zero (n := levels) (by omega)
        exact hinside.length_eq
      case deepest =>
        cases (Nat.succ.inj he)
        exact hinside
    · have ⟨hlt, hinner, hdeepest⟩ := hi hinside (hs.under_iff.mp hc') hm
      exact ⟨by omega, fun h => hinner (by omega), fun h => hdeepest (by omega)⟩

theorem WellTied.complete (h : s.WellTied) (hlevels : 1 ≤ levels)
    (hs : s.outline = (trees k levels 1).outline levels none 0) : s.Complete k levels ⟨0⟩ := by
  have htops : (trees k levels 1).tops levels 0 = [⟨0⟩] := by
    obtain ⟨levels, rfl⟩ := Nat.exists_eq_add_of_le' hlevels
    rfl
  have houtline : s.outline = [] ++ (trees k levels 1).outline levels none 0 ++ [] := by
    simpa using hs
  have hmirrors : s.Mirrors levels [⟨0⟩] (trees k levels 1) :=
    htops ▸ h.mirrors houtline rfl (by simp) nofun nofun
  have hsingle (id : ObjId) : s.Under id none ↔ id = ⟨0⟩ := by
    rw [under_iff_placedIn, hs, Forest.placedIn_outline (by simp), htops, List.mem_singleton]
  have hlevel {n : Nat} {id : ObjId} (hid : s.Level ⟨0⟩ n id) :=
    hmirrors.level h (.head _) hid
  refine ⟨h, hsingle, fun id hid => ?reached, fun n id hid => (hlevel hid).2.1,
    fun n id hid => (hlevel hid).2.2⟩
  case reached =>
    obtain ⟨root, n, hroot, hn⟩ := h.exists_level hid
    cases (hsingle root).mp hroot
    exact ⟨n, (hlevel hn).1, hn⟩

end Scene

namespace Build

variable {setup : Setup} {inst : Instantiate} {b b' b₁ b₂ : Build} {s : Scene} {levels k : Nat}
  {name : String} {scope : ScopeId} {attrs : Attrs} {refs : List Attrs} {f : Forest}

open Forest (trees)

-- The view of the component is nothing but references to the component itself.
structure ContainsItself (t : WidgetTable) (r : Registry) (name : String) (scope : ScopeId)
    (attrs : Attrs) (refs : List Attrs) : Prop where
  names     : Names t r name scope
  component : r.component? scope = some (.ofView attrs (.references name refs))
  plain     : attrs.get? "extends" = none
  obj       : t.get? "obj" = some (.widget .obj)

-- In the current parent there are the objects of some elements now; nothing else happened, except
-- for the current item and the log.
structure Sprouts (b : Build) (levels : Nat) (f : Forest) (b' : Build) : Prop where
  becomes : b.Becomes b'.scene b'
  outline : b'.scene.outline =
    b.scene.outline ++ f.outline levels b.doc.parent? b.scene.size

namespace Sprouts

theorem of_outline_eq (h : b.Becomes s b') (hs : s.outline = b.scene.outline)
    (hf : f.outline levels b.doc.parent? b.scene.size = []) : b.Sprouts levels f b' := by
  obtain rfl := h.scene_eq
  exact ⟨h, by rw [hs, hf, List.append_nil]⟩

theorem trans_trees {count : Nat} (h₁ : b.Sprouts levels (trees k levels 1) b₁)
    (h₂ : b₁.Sprouts levels (trees k levels count) b₂) :
    b.Sprouts levels (trees k levels (count + 1)) b₂ := by
  refine ⟨h₁.becomes.trans h₂.becomes, ?_⟩
  have hsize : b₁.scene.size = b.scene.size +
      ((trees k levels 1).outline levels b.doc.parent? b.scene.size).length := by
    simpa using congrArg List.length h₁.outline
  rw [h₂.outline, h₁.outline, h₁.becomes.parent?_eq, hsize, List.append_assoc,
    Forest.outline_trees_succ count]

end Sprouts

def Instantiate.Unrolls (inst : Instantiate) (r : Registry) (scope : ScopeId) (k levels : Nat) :
    Prop :=
  ∀ (b : Build) attrs, b.registry = r →
    b.Sprouts levels (trees k levels 1) (inst b scope attrs).2

theorem Becomes.openFrame (h : b.Becomes s b') (made : Option ObjId) :
    (b.modifyDoc (·.openFrame made)).Becomes s (b'.modifyDoc (·.openFrame made)) := by
  obtain ⟨item, log, rfl⟩ := h
  exact ⟨item, log, rfl⟩

theorem Becomes.setItem (h : b.Becomes s b') (item : Option Item) :
    b.Becomes s (b'.setItem item) := by
  obtain ⟨_, log, rfl⟩ := h
  exact ⟨item, log, rfl⟩

theorem becomes_createElement {tag : String} (hn : Names setup.widgets b.registry tag scope)
    (h : b.Becomes s (inst b scope attrs).2) :
    b.Becomes s (createElement setup inst b tag attrs).2 := by
  unfold createElement
  rw [hn.widget]
  dsimp only
  rw [hn.scope]
  dsimp only
  split
  case h_1 he => rwa [he] at h
  case h_2 he =>
    rw [he] at h
    exact h.setItem _

theorem becomes_applyRest (setup : Setup) (b : Build) (name : String) (c : Component) (root : ObjId)
    (rest : Attrs) :
    let out := applyRest setup b name c root rest
    b.Becomes out.scene out ∧ out.scene.outline = b.scene.outline := by
  intro out
  unfold out applyRest
  split
  case isTrue  => exact ⟨.refl, rfl⟩
  case isFalse =>
    dsimp only
    split
    case h_1 => exact ⟨⟨_, _, rfl⟩, Scene.outline_edits _⟩
    case h_2 => exact ⟨⟨_, _, rfl⟩, rfl⟩

-- One reference, in a view that is open. It is too deep only if no instance may be in another one.
theorem sprouts_reference (hn : Names setup.widgets b.registry name scope)
    (hinst : inst.Unrolls b.registry scope k levels)
    (hr : b.doc.recording = none) (hd : b.doc.depth = 1) (hmax : levels < setup.config.maxDepth)
    (attrs : Attrs) :
    b.Sprouts levels (trees k levels 1) ((opening setup inst b name attrs).closing name) := by
  have hpos : 0 < b.doc.depth := hd ▸ Nat.one_pos
  by_cases hdeep : setup.config.maxDepth < b.doc.depth + 1
  case pos =>
    obtain rfl : levels = 0 := by omega
    rw [opening_of_depth_pos hr hpos]
    exact .of_outline_eq (closing_of_entered hr hpos name (openChild_of_depth_gt hdeep)) rfl rfl
  case neg =>
    let o := Order.of (b.setDepth (b.doc.depth + 1)) name attrs
    have horder : b.order? setup (.opening name attrs) = some o := by
      rw [order?_inside hr (Nat.ne_of_gt hpos), if_neg (by omega)]
    have hsprouts : o.build.Sprouts levels (trees k levels 1) (inst o.build scope o.attrs).2 :=
      hinst o.build o.attrs rfl
    have hfill : (b.setDepth (b.doc.depth + 1)).Becomes (inst o.build scope o.attrs).2.scene
        (o.fill setup inst).2 :=
      .trans (s := b.scene) ⟨_, _, rfl⟩ (becomes_createElement (b := o.build) hn hsprouts.becomes)
    rw [opening_inside hr (Nat.ne_of_gt hpos), horder]
    have hclosed := closing_of_entered hr hpos name (hfill.openFrame (o.fill setup inst).1)
    refine ⟨hclosed.scene_eq.symm ▸ hclosed, ?_⟩
    rw [hclosed.scene_eq]
    exact hsprouts.outline

theorem sprouts_references (hn : Names setup.widgets b.registry name scope)
    (hinst : inst.Unrolls b.registry scope k levels)
    (hr : b.doc.recording = none) (hd : b.doc.depth = 1) (hmax : levels < setup.config.maxDepth)
    (refs : List Attrs) :
    b.Sprouts levels (trees k levels refs.length)
      (replay setup inst b (Forest.references name refs).events) := by
  induction refs generalizing b
  case nil =>
    have hnone : (trees k levels 0).outline levels b.doc.parent? b.scene.size = [] := by
      cases levels <;> rfl
    exact .of_outline_eq .refl rfl hnone
  case cons attrs refs hi =>
    have hfirst := sprouts_reference hn hinst hr hd hmax attrs
    have hregistry : ((opening setup inst b name attrs).closing name).registry = b.registry :=
      congrArg Context.registry hfirst.becomes.context_eq
    rw [Forest.references, replay_element]
    exact hfirst.trans_trees <| hi (hregistry ▸ hn) (hregistry ▸ hinst)
      (hfirst.becomes.recording_eq.trans hr) (hfirst.becomes.depth_eq.trans hd)

theorem openRoot_obj (hobj : setup.widgets.get? "obj" = some (.widget .obj))
    (hplain : attrs.get? "extends" = none) :
    ∃ s, s.outline = b.scene.outline ++ [("obj", b.doc.parent?)] ∧
      (b.modifyDoc fun d => { d with view := some b.scene.next }.openFrame
        (some b.scene.next)).Becomes s (openRoot setup inst b attrs) := by
  have hbase : setup.widgets.get? attrs.base = some (.widget .obj) := by
    rw [Attrs.base, hplain]
    exact hobj
  have hopen := openRoot_of_isSome inst (b := b) (Option.isSome_of_eq_some hbase)
  have ⟨hmade, houtline⟩ := Context.enter_widget (c := b.context) hbase (by decide) b.doc.parent?
    attrs.ofBase b.scene
  dsimp only at hopen hmade
  rw [hmade] at hopen
  exact ⟨_, houtline, hopen⟩

theorem shows_references (h : ContainsItself setup.widgets b.registry name scope attrs refs)
    (hinst : inst.Unrolls b.registry scope refs.length levels)
    (hr : b.doc.recording = none) (hd : b.doc.depth = 0) (hmax : levels < setup.config.maxDepth) :
    ∃ s, b.Shows (some b.scene.next, s)
        (replay setup inst b (Component.ofView attrs (.references name refs)).view) ∧
      s.outline = b.scene.outline ++
        (trees refs.length (levels + 1) 1).outline (levels + 1) b.doc.parent? b.scene.size := by
  let opened := openRoot setup inst b.enterView attrs
  let inner := replay setup inst opened (Forest.references name refs).events
  obtain ⟨s, hs, hopen⟩ : ∃ s, s.outline = b.scene.outline ++ [("obj", b.doc.parent?)] ∧
      (b.enterView.modifyDoc fun d => { d with view := some b.scene.next }.openFrame
        (some b.scene.next)).Becomes s opened :=
    openRoot_obj (b := b.enterView) h.obj h.plain
  have hregistry : opened.registry = b.registry := congrArg Context.registry hopen.context_eq
  have hinside : opened.Sprouts levels (trees refs.length levels refs.length) inner :=
    sprouts_references (hregistry ▸ h.names) (hregistry ▸ hinst) (hopen.recording_eq.trans hr)
      hopen.depth_eq hmax refs
  refine ⟨inner.scene, ?shows, ?outline⟩
  case shows =>
    have hshows := closing_view hr hd (hopen.trans hinside.becomes)
    unfold Component.ofView
    rwa [replay_view, opening_view hd, recordOr_of_none (b := b.enterView) hr]
  case outline =>
    have hparent : opened.doc.parent? = some b.scene.next := hopen.parent?_eq
    have hsize : s.size = b.scene.size + 1 := by simpa using congrArg List.length hs
    have hnone : trees refs.length (levels + 1) 0 = .empty := rfl
    rw [hinside.outline, hopen.scene_eq, hparent, hs, hsize, Forest.trees_succ_succ, hnone]
    simp [Forest.outline, Scene.next]

-- By induction on how deep instances may be nested.
theorem sprouts_instantiate (h : ContainsItself setup.widgets b.registry name scope attrs refs)
    (hlevels : levels ≤ setup.config.maxDepth) (given : Attrs) :
    b.Sprouts levels (trees refs.length levels 1) (instantiate setup levels b scope given).2 ∧
      (1 ≤ levels → (instantiate setup levels b scope given).1 = some b.scene.next) := by
  induction levels generalizing b given
  case zero => exact ⟨.of_outline_eq ⟨_, _, rfl⟩ rfl rfl, by simp⟩
  case succ levels hi =>
    have hunrolls : Instantiate.Unrolls (instantiate setup levels) b.registry scope refs.length
        levels := fun b' attrs hb => (hi (hb ▸ h) (Nat.le_of_succ_le hlevels) attrs).1
    obtain ⟨s, ⟨item, block, log, hinner⟩, hs⟩ := shows_references (b := b.inside scope given) h
      hunrolls rfl rfl hlevels
    have hparent : (b.inside scope given).doc.parent? = b.doc.parent? := by
      simp [inside, DocState.begin, DocState.parent?]
    rw [hparent] at hs
    let rest := given.filter fun a => !(b.registry.params scope).contains a.1
    obtain ⟨hrest, houtline⟩ := becomes_applyRest setup { b with scene := s, log }
      (b.registry.scopeName scope) (.ofView attrs (.references name refs)) b.scene.next rest
    have hreplayed : b.Becomes s { b with scene := s, log } := ⟨b.doc.item, log, rfl⟩
    obtain ⟨item, log, hdone⟩ := hreplayed.trans hrest
    rw [instantiate_inside levels h.component]
    dsimp only
    rw [hinner]
    exact ⟨⟨⟨item, _, congrArg (note · _) hdone⟩, houtline.trans hs⟩, fun _ => rfl⟩

theorem treeSize_eq_sum (k levels : Nat) :
    treeSize k levels = ((List.range levels).map (k ^ ·)).sum := by
  induction levels
  case zero => rfl
  case succ levels hi => simpa [treeSize, List.range_succ] using hi

end Build

namespace Loader

variable {l : Loader} {s : Scene} {name : String} {scope : ScopeId} {attrs : Attrs}
  {refs : List Attrs}

theorem result_createScreen (h : l.registry.componentScope? name = some scope) {root : ObjId}
    (hroot : (Build.instance? l.setup (l.begin s (.begin .globals none)) scope []).1 = some root) :
    (l.createScreen s name).result = .ok root := by
  unfold createScreen
  rw [h]
  dsimp only
  split
  case h_1 he => rw [he] at hroot; exact congrArg Except.ok (Option.some.inj hroot)
  case h_2 he => rw [he] at hroot; cases hroot

theorem createScreen_of_itself
    (h : Build.ContainsItself l.setup.widgets l.registry name scope attrs refs)
    (hmax : 1 ≤ l.setup.config.maxDepth) :
    let k := refs.length
    let levels := l.setup.config.maxDepth
    let out := l.createScreen .empty name
    out.result = .ok ⟨0⟩ ∧
    out.scene.size = ((List.range levels).map (k ^ ·)).sum ∧
    (∀ id o, out.scene.obj? id = some o → o.kind = .obj) ∧
    out.scene.Complete k levels ⟨0⟩ := by
  intro k levels out
  have ⟨hsprouts, hroot⟩ := Build.sprouts_instantiate (b := l.begin .empty (.begin .globals none)) h
    (Nat.le_refl _) []
  have houtline : out.scene.outline = (Forest.trees k levels 1).outline levels none 0 := by
    unfold out
    rw [scene_createScreen h.names.scope]
    exact hsprouts.outline
  have harises : out.scene.Arises := arises_run (c := .createScreen name) .empty nofun
  refine ⟨result_createScreen h.names.scope (hroot hmax), ?size, ?kinds,
    harises.wellTied.complete hmax houtline⟩
  case size =>
    rw [← Scene.length_outline, houtline, Forest.length_outline_trees, Nat.one_mul,
      Build.treeSize_eq_sum]
  case kinds =>
    intro id o ho
    have hentry : (Vocabulary.token o.kind, o.parent) ∈ out.scene.outline :=
      List.mem_map.mpr ⟨o, Array.mem_toList_iff.mpr (Array.mem_of_getElem? ho), rfl⟩
    have htag : Vocabulary.token o.kind = "obj" :=
      Forest.tag_of_mem_outline_trees (houtline ▸ hentry)
    have hplain : ∀ kind : WidgetKind, Vocabulary.token kind = "obj" → kind = .obj := by
      intro kind
      cases kind <;> decide
    exact hplain _ htag

theorem twins_unrolled :
    let attrs : Attrs := [("name", "twins")]
    let refs : List Attrs := [[("width", "5")], []]
    let l : Loader := {
      registry.scopes := #[{ name := "globals" },
        { name := "twins", component := some (.ofView attrs (.references "twins" refs)) }]
      setup.config := { maxDepth := 3 } }
    let out := l.createScreen .empty "twins"
    out.result = .ok ⟨0⟩ ∧ out.scene.size = 7 ∧
      (∀ id o, out.scene.obj? id = some o → o.kind = .obj) ∧ out.scene.Complete 2 3 ⟨0⟩ ∧
      (out.scene.outline.map fun e => e.2.map ObjId.index) =
        [none, some 0, some 1, some 1, some 0, some 4, some 4] := by
  intro attrs refs l out
  have h : Build.ContainsItself l.setup.widgets l.registry "twins" ⟨1⟩ attrs refs :=
    ⟨⟨rfl, by decide +kernel⟩, rfl, rfl, rfl⟩
  obtain ⟨hresult, hsize, hkinds, hcomplete⟩ := createScreen_of_itself h (by decide)
  exact ⟨hresult, hsize, hkinds, hcomplete, by decide +kernel⟩

end Loader

end UiMarkup
