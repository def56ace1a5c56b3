import Mathlib.Logic.Relation
import UiMarkup.Proofs.Build.Parents

namespace UiMarkup

open Markup

theorem Scene.objects_dropdownList_of_none {s : Scene} {id : ObjId}
    (h : (s.dropdownList id).1 = none) : (s.dropdownList id).2.objects = s.objects := by
  cases ho : s.obj? id
  case none   => simp [dropdownList, ho]
  case some o =>
    by_cases hk : o.kind = .dropdown
    case neg => rw [dropdownList_of_kind_ne ho hk]
    case pos =>
      cases hl : o.list
      case none   => simp [dropdownList_of_no_list ho hk hl] at h
      case some l => rw [dropdownList_of_list ho hk hl]

namespace Processor

def NeedsParent : Processor → Prop
  | widget _        => False
  | custom (some _) => False
  | _               => True

def IsPiece : Processor → Prop
  | scaleSection => True
  | span         => True
  | _            => False

variable {p : Processor} {env : Env} {parent : Option ObjId} {attrs : Attrs} {s : Scene}

theorem create_of_needsParent (h : p.NeedsParent) (env : Env) (attrs : Attrs) (s : Scene) :
    (p.create env none attrs s).value = (none, s) := by
  cases p
  case widget => exact h.elim
  case custom kind =>
    cases kind
    case none   => rfl
    case some _ => exact h.elim
  all_goals rfl

theorem create_of_no_obj (hpiece : p.IsPiece → parent = none)
    (h : (p.create env parent attrs s).value.1.bind Item.obj? = none) :
    (p.create env parent attrs s).value.1 = none ∧
      (p.create env parent attrs s).value.2.objects = s.objects := by
  cases p
  case widget => cases h
  case custom kind =>
    cases kind
    case none   => exact ⟨rfl, rfl⟩
    case some _ => cases h
  case dropdownList =>
    cases parent
    case none   => exact ⟨rfl, rfl⟩
    case some q =>
      simp only [create] at h ⊢
      split at h
      case h_1    => cases h
      case h_2 he =>
        have hlist := Scene.objects_dropdownList_of_none (congrArg Prod.fst he)
        rw [he] at hlist
        exact ⟨rfl, hlist⟩
  case tabBar =>
    cases parent
    case none   => exact ⟨rfl, rfl⟩
    case some q =>
      refine ⟨?_, Scene.objects_visit⟩
      have hbar : ((s.tabBar? q).map Item.obj).bind Item.obj? = none := h
      cases hq : s.tabBar? q
      case none   => simp [create, hq]
      case some _ => simp [hq, Item.obj?] at hbar
  case tabButton =>
    cases parent
    case none   => exact ⟨rfl, rfl⟩
    case some q =>
      refine ⟨?_, Scene.objects_visit⟩
      have hbutton : (makeTabButton attrs q s).value.bind Item.obj? = none := h
      show (makeTabButton attrs q s).value = none
      unfold makeTabButton at hbutton ⊢
      split
      case isTrue  => rfl
      case isFalse hcount =>
        rw [if_neg hcount] at hbutton
        dsimp only at hbutton ⊢
        split
        case h_1 hb => rw [hb] at hbutton; cases hbutton
        case h_2 hb =>
          rw [hb] at hbutton
          cases hfirst : s.tabButton? q 0
          case none   => rfl
          case some _ => simp [hfirst, Item.obj?] at hbutton
  case scaleSection => cases hpiece trivial; exact ⟨rfl, rfl⟩
  case span         => cases hpiece trivial; exact ⟨rfl, rfl⟩
  all_goals cases parent
  case calendarHeader.some => cases h
  case tab.some            => cases h
  case imageSlice.some     => cases h
  case tableColumn.some    => cases h
  case tableCell.some      => cases h
  case modifier.some       => cases h
  all_goals exact ⟨rfl, rfl⟩

theorem isSome_create_of_isPiece (hpiece : p.IsPiece) (hparent : parent ≠ none) :
    (p.create env parent attrs s).value.1.isSome := by
  obtain ⟨q, rfl⟩ := Option.ne_none_iff_exists'.mp hparent
  cases p
  case scaleSection => rfl
  case span         => rfl
  all_goals exact hpiece.elim

theorem objects_create_of_none (h : (p.create env parent attrs s).value.1 = none) :
    (p.create env parent attrs s).value.2.objects = s.objects := by
  have hpiece : p.IsPiece → parent = none := by
    intro hpiece
    by_cases hparent : parent = none
    case pos => exact hparent
    case neg =>
      have hsome : (p.create env parent attrs s).value.1.isSome :=
        isSome_create_of_isPiece hpiece hparent
      rw [h] at hsome
      cases hsome
  exact (create_of_no_obj hpiece (by rw [h]; rfl)).2

end Processor

namespace DocState

theorem view_closeFrame (d : DocState) : d.closeFrame.view = d.view := by
  unfold closeFrame
  split <;> rfl

theorem depth_closeFrame (d : DocState) : d.closeFrame.depth = d.depth := by
  unfold closeFrame
  split <;> rfl

end DocState

namespace Build

variable {setup : Setup} {inst : Instantiate} {b b' : Build} {s : Scene} {made : Option ObjId}

def Idle (t : WidgetTable) (r : Registry) (parent : Option ObjId) (tag : String) : Prop :=
  match t.get? tag with
  | none   => r.componentScope? tag = none
  | some p => parent = none ∧ p.NeedsParent

-- The component has no view, or one whose inner elements come to nothing; and its root is not a
-- piece of the parent.
def Hollow (t : WidgetTable) (r : Registry) (parent : Option ObjId) (c : Component) : Prop :=
  c.view = [] ∨ ∃ attrs brief body,
    c.view = (Forest.element "view" attrs brief body .empty).events ∧
    body.Every (fun tag _ => Idle t r parent tag) ∧
    ∀ p, t.get? attrs.base = some p → p.IsPiece → parent = none

-- The view of the first component extends the second one.
def BuildsOn (t : WidgetTable) (r : Registry) (scope scope' : ScopeId) : Prop :=
  ∃ c attrs events, r.component? scope = some c ∧ c.view = .opening "view" attrs :: events ∧
    t.get? attrs.base = none ∧ r.componentScope? attrs.base = some scope'

-- The component is hollow, and so are all that it comes down to.
def HollowFrom (t : WidgetTable) (r : Registry) (parent : Option ObjId) (scope : ScopeId) : Prop :=
  ∀ scope', Relation.ReflTransGen (BuildsOn t r) scope scope' →
    ∀ c, r.component? scope' = some c → Hollow t r parent c

theorem hollowFrom_of_closed {t : WidgetTable} {r : Registry} {parent : Option ObjId}
    {scope : ScopeId} (scopes : List ScopeId) (hscope : scope ∈ scopes)
    (hnext : ∀ i ∈ scopes, ∀ j, BuildsOn t r i j → j ∈ scopes)
    (hhollow : ∀ i ∈ scopes, ∀ c, r.component? i = some c → Hollow t r parent c) :
    HollowFrom t r parent scope := by
  intro scope' hreach
  have hmem : scope' ∈ scopes := by
    induction hreach
    case refl             => exact hscope
    case tail i j _ hb hi => exact hnext i hi j hb
  exact hhollow scope' hmem

def Misses (b b' : Build) : Prop :=
  ∃ s, b.Becomes s b' ∧ s.objects = b.scene.objects

namespace Misses

theorem note (d : Diagnostic) : b.Misses (b.note d) :=
  ⟨b.scene, ⟨_, _, rfl⟩, rfl⟩

theorem of_becomes (h : b.Becomes b.scene b') : b.Misses b' :=
  ⟨_, h, rfl⟩

theorem trans {b₁ b₂ b₃ : Build} (h₁ : b₁.Misses b₂) (h₂ : b₂.Misses b₃) : b₁.Misses b₃ := by
  obtain ⟨s₁, hb₁, hs₁⟩ := h₁
  obtain ⟨s₂, hb₂, hs₂⟩ := h₂
  exact ⟨s₂, hb₁.trans hb₂, hs₂.trans (by rw [hb₁.scene_eq]; exact hs₁)⟩

theorem objects_eq (h : b.Misses b') : b'.scene.objects = b.scene.objects := by
  obtain ⟨s, hb, hs⟩ := h
  exact hb.scene_eq ▸ hs

end Misses

def Instantiate.Misses (inst : Instantiate) (t : WidgetTable) : Prop :=
  ∀ (b : Build) scope attrs, HollowFrom t b.registry b.doc.parent? scope →
    (inst b scope attrs).1 = none → b.Misses (inst b scope attrs).2

theorem Becomes.registry_eq (h : b.Becomes s b') : b'.registry = b.registry :=
  congrArg Context.registry h.context_eq

theorem becomes_createElement_idle (inst : Instantiate) {tag : String}
    (h : Idle setup.widgets b.registry b.doc.parent? tag) (attrs : Attrs) :
    (createElement setup inst b tag attrs).1 = none ∧
      b.Becomes b.scene (createElement setup inst b tag attrs).2 := by
  unfold Idle at h
  cases hp : setup.widgets.get? tag
  case none =>
    rw [hp] at h
    have hnone : b.registry.componentScope? tag = none := h
    unfold createElement
    rw [hp]
    dsimp only
    rw [hnone]
    exact ⟨rfl, _, _, rfl⟩
  case some p =>
    rw [hp] at h
    have ⟨hmade, hdone⟩ := createElement_of_get? inst (b := b) hp attrs
    have hcreate := Processor.create_of_needsParent h.2 (b.context.env b.scene) attrs b.scene
    have hperform : b.context.perform p b.doc.parent? attrs b.scene = (none, b.scene) := by
      unfold Context.perform
      rw [h.1, hcreate]
    rw [hperform] at hmade hdone
    exact ⟨hmade, hdone⟩

theorem becomes_openChild_idle {tag : String}
    (h : Idle setup.widgets b.registry b.doc.parent? tag) (attrs : Attrs) :
    (b.modifyDoc (·.openFrame none)).Becomes b.scene (openChild setup inst b tag attrs) := by
  by_cases hdeep : setup.config.maxDepth < b.doc.depth
  case pos => exact openChild_of_depth_gt hdeep
  case neg =>
    have ⟨hmade, item, log, hdone⟩ := becomes_createElement_idle inst
      (b := b.noteAll (b.resolveAttrs attrs).notes) h (b.resolveAttrs attrs).value
    unfold openChild
    rw [if_neg hdeep]
    dsimp only [take]
    rw [hmade, hdone]
    exact ⟨item, log, rfl⟩

theorem becomes_replay_idle (inst : Instantiate) (hr : b.doc.recording = none)
    (hd : 0 < b.doc.depth) {f : Forest}
    (hf : f.Every fun tag _ => Idle setup.widgets b.registry b.doc.parent? tag) :
    b.Becomes b.scene (replay setup inst b f.events) := by
  induction f generalizing b
  case empty => exact .refl
  case element tag attrs brief body rest hbody hrest =>
    obtain ⟨htag, hfbody, hfrest⟩ := hf
    let opened := openChild setup inst (b.setDepth (b.doc.depth + 1)) tag attrs
    have hopen : ((b.setDepth (b.doc.depth + 1)).modifyDoc (·.openFrame none)).Becomes b.scene
        opened := becomes_openChild_idle (b := b.setDepth (b.doc.depth + 1)) htag attrs
    -- The body stands where the element does, which made nothing.
    have hinner := hbody (b := opened) (hopen.recording_eq.trans hr)
      (hopen.depth_eq ▸ Nat.succ_pos _) (by
        rw [hopen.parent?_eq, hopen.registry_eq]
        exact hfbody)
    rw [hopen.scene_eq] at hinner
    have hleft := closing_of_entered hr hd tag (hopen.trans hinner)
    have hafter := hrest (hleft.recording_eq.trans hr) (hleft.depth_eq ▸ hd) (by
      rw [hleft.parent?_eq, hleft.registry_eq]
      exact hfrest)
    rw [hleft.scene_eq] at hafter
    rw [replay_element, opening_of_depth_pos hr hd]
    exact hleft.trans hafter

-- What a view answers does not change any more when its root is made.

structure Amid (b b' : Build) : Prop where
  view      : b'.doc.view = b.doc.view
  depth     : b'.doc.depth = b.doc.depth
  recording : b'.doc.recording = b.doc.recording

theorem amid_opening (hinst : inst.Resumes) (hr : b.doc.recording = none) (hd : b.doc.depth ≠ 0)
    (tag : String) (attrs : Attrs) :
    Amid (b.setDepth (b.doc.depth + 1)) (opening setup inst b tag attrs) := by
  rw [opening_inside hr hd]
  split
  case h_2 => exact ⟨rfl, rfl, rfl⟩
  case h_1 o ho =>
    rw [order?_inside hr hd] at ho
    split at ho
    case isTrue  => cases ho
    case isFalse =>
      cases ho
      let o := Order.of (b.setDepth (b.doc.depth + 1)) tag attrs
      have ⟨item, hdoc⟩ : ∃ item, (o.fill setup inst).2.doc = { o.build.doc with item } :=
        (resumes_fill hinst).doc
      have hview : (o.fill setup inst).2.doc.view = b.doc.view := by rw [hdoc]; rfl
      have hdepth : (o.fill setup inst).2.doc.depth = b.doc.depth + 1 := by rw [hdoc]; rfl
      have hrecording : (o.fill setup inst).2.doc.recording = b.doc.recording := by rw [hdoc]; rfl
      exact ⟨hview, hdepth, hrecording⟩

theorem amid_closing (hr : b'.doc.recording = none) {depth : Nat} (hd : b'.doc.depth = depth + 1)
    (hpos : depth ≠ 0) (tag : String) : Amid (b'.setDepth depth) (b'.closing tag) := by
  unfold closing
  rw [hd]
  dsimp only
  rw [if_neg hpos, recordOr_of_none (b := b'.setDepth depth) hr]
  exact ⟨DocState.view_closeFrame _, DocState.depth_closeFrame _, DocState.recording_closeFrame⟩

theorem amid_replay (hinst : inst.Resumes) (hr : b.doc.recording = none) (hd : b.doc.depth ≠ 0)
    (f : Forest) : Amid b (replay setup inst b f.events) := by
  induction f generalizing b
  case empty => exact ⟨rfl, rfl, rfl⟩
  case element tag attrs brief body rest hbody hrest =>
    have hopen : Amid _ (opening setup inst b tag attrs) := amid_opening hinst hr hd tag attrs
    have hinner := hbody (hopen.recording.trans hr)
      (by rw [hopen.depth]; exact Nat.succ_ne_zero _)
    have hclose := amid_closing (hinner.recording.trans (hopen.recording.trans hr))
      (hinner.depth.trans hopen.depth) hd tag
    have hafter := hrest
      (hclose.recording.trans (hinner.recording.trans (hopen.recording.trans hr)))
      (by rw [hclose.depth]; exact hd)
    rw [replay_element]
    exact ⟨hafter.view.trans <| hclose.view.trans <| hinner.view.trans hopen.view,
      hafter.depth.trans hclose.depth,
      hafter.recording.trans <| hclose.recording.trans <|
        hinner.recording.trans hopen.recording⟩

theorem misses_createElement {tag : String} (hinst : inst.Misses setup.widgets)
    (hpiece : ∀ p, setup.widgets.get? tag = some p → p.IsPiece → b.doc.parent? = none)
    (hhollow : setup.widgets.get? tag = none → ∀ scope ∈ b.registry.componentScope? tag,
      HollowFrom setup.widgets b.registry b.doc.parent? scope) (attrs : Attrs)
    (h : (createElement setup inst b tag attrs).1.bind Item.obj? = none) :
    b.Misses (createElement setup inst b tag attrs).2 := by
  cases hp : setup.widgets.get? tag
  case some p =>
    have ⟨hmade, hdone⟩ := createElement_of_get? inst (b := b) hp attrs
    rw [hmade] at h
    have hcreate (hnone : (p.create (b.context.env b.scene) b.doc.parent? attrs
        b.scene).value.1.bind Item.obj? = none) := Processor.create_of_no_obj (hpiece p hp) hnone
    unfold Context.perform at h hdone
    generalize (p.create (b.context.env b.scene) b.doc.parent? attrs b.scene).value = out
      at h hdone hcreate
    obtain ⟨item, s⟩ := out
    cases item
    case none      => exact ⟨s, hdone, (hcreate rfl).2⟩
    case some item => cases (hcreate h).1
  case none =>
    unfold createElement at h ⊢
    rw [hp] at h ⊢
    dsimp only at h ⊢
    cases hscope : b.registry.componentScope? tag
    case none       => exact .note _
    case some scope =>
      have hmiss := hinst b scope attrs (hhollow hp scope hscope)
      rw [hscope] at h
      dsimp only at h ⊢
      generalize inst b scope attrs = out at h hmiss
      obtain ⟨view, b₁⟩ := out
      cases view
      case none   => exact hmiss rfl
      case some _ => cases h

-- Outside of a view pieces count as made.
theorem objects_createElement_of_none {tag : String} (hinst : inst.Misses setup.widgets)
    (hhollow : setup.widgets.get? tag = none → ∀ scope ∈ b.registry.componentScope? tag,
      HollowFrom setup.widgets b.registry b.doc.parent? scope) (attrs : Attrs)
    (h : (createElement setup inst b tag attrs).1 = none) :
    (createElement setup inst b tag attrs).2.scene.objects = b.scene.objects := by
  cases hp : setup.widgets.get? tag
  case none =>
    have hpiece : ∀ p, setup.widgets.get? tag = some p → p.IsPiece → b.doc.parent? = none := by
      rw [hp]
      exact nofun
    exact (misses_createElement hinst hpiece hhollow attrs (by rw [h]; rfl)).objects_eq
  case some p =>
    have ⟨hmade, hdone⟩ := createElement_of_get? inst (b := b) hp attrs
    rw [hmade] at h
    rw [hdone.scene_eq]
    have hobjects (hnone : (p.create (b.context.env b.scene) b.doc.parent? attrs
        b.scene).value.1 = none) := Processor.objects_create_of_none hnone
    unfold Context.perform at h ⊢
    generalize (p.create (b.context.env b.scene) b.doc.parent? attrs b.scene).value = out
      at h hobjects
    obtain ⟨item, s⟩ := out
    cases item
    case none   => exact hobjects rfl
    case some _ => cases h

theorem misses_openRoot (hinst : inst.Misses setup.widgets) {attrs : Attrs}
    (hpiece : ∀ p, setup.widgets.get? attrs.base = some p → p.IsPiece → b.doc.parent? = none)
    (hhollow : setup.widgets.get? attrs.base = none →
      ∀ scope ∈ b.registry.componentScope? attrs.base,
        HollowFrom setup.widgets b.registry b.doc.parent? scope)
    (h : (openRoot setup inst b attrs).doc.view = none) :
    (b.modifyDoc fun d => { d with view := none }.openFrame none).Misses
      (openRoot setup inst b attrs) := by
  have hmiss := misses_createElement (b := b.noteAll (b.resolveAttrs attrs.ofBase).notes) hinst
    hpiece hhollow (b.resolveAttrs attrs.ofBase).value h
  have hroot : (createElement setup inst (b.noteAll (b.resolveAttrs attrs.ofBase).notes) attrs.base
      (b.resolveAttrs attrs.ofBase).value).1.bind Item.obj? = none := h
  obtain ⟨s, ⟨item, log, hdone⟩, hs⟩ := hmiss
  refine ⟨s, ⟨item, log, ?_⟩, hs⟩
  unfold openRoot
  dsimp only [take]
  rw [show (attrs.get? "extends").getD "obj" = attrs.base from rfl,
    show attrs.filter (·.1 ≠ "extends") = attrs.ofBase from rfl, hroot, hdone]
  rfl

theorem view_replay_view (hinst : inst.Resumes) (hr : b.doc.recording = none)
    (hd : b.doc.depth = 0) (attrs : Attrs) (body : Forest) :
    (replay setup inst b (.opening "view" attrs :: body.events ++ [.closing "view"])).doc.view =
      (openRoot setup inst b.enterView attrs).doc.view := by
  let o := Order.of b.enterView attrs.base attrs.ofBase
  have ⟨item, hdoc⟩ : ∃ item, (o.fill setup inst).2.doc = { o.build.doc with item } :=
    (resumes_fill hinst).doc
  have hopen : opening setup inst b "view" attrs = openRoot setup inst b.enterView attrs := by
    rw [opening_view hd, recordOr_of_none (b := b.enterView) hr]
  have hdepth : (opening setup inst b "view" attrs).doc.depth = 1 := by
    rw [opening_root hr hd, modifyDoc, hdoc]
    rfl
  have hrecording : (opening setup inst b "view" attrs).doc.recording = none := by
    rw [opening_root hr hd, modifyDoc, hdoc]
    exact hr
  have hinner : Amid (opening setup inst b "view" attrs) (replay setup inst _ body.events) :=
    amid_replay hinst hrecording (by rw [hdepth]; decide) body
  rw [replay_view, ← hopen]
  generalize replay setup inst (opening setup inst b "view" attrs) body.events = inner at hinner
  rw [← hinner.view]
  unfold closing
  rw [hinner.depth.trans hdepth]
  dsimp only
  rw [if_pos rfl, recordOr_of_none (b := inner.setDepth 0) (hinner.recording.trans hrecording),
    closeBlock, endEntry_view]
  exact DocState.view_closeFrame _

-- A view without a root only shows what its inner elements come to, which is nothing.
theorem shows_replay_hollow (hmiss : inst.Misses setup.widgets) (hinst : inst.Resumes)
    (hr : b.doc.recording = none) (hd : b.doc.depth = 0) {attrs : Attrs} {body : Forest}
    (hbody : body.Every fun tag _ => Idle setup.widgets b.registry b.doc.parent? tag)
    (hpiece : ∀ p, setup.widgets.get? attrs.base = some p → p.IsPiece → b.doc.parent? = none)
    (hhollow : setup.widgets.get? attrs.base = none →
      ∀ scope ∈ b.registry.componentScope? attrs.base,
        HollowFrom setup.widgets b.registry b.doc.parent? scope)
    (h : (replay setup inst b
      (.opening "view" attrs :: body.events ++ [.closing "view"])).doc.view = none) :
    ∃ s, s.objects = b.scene.objects ∧ b.Shows (none, s)
      (replay setup inst b (.opening "view" attrs :: body.events ++ [.closing "view"])) := by
  rw [view_replay_view hinst hr hd] at h
  obtain ⟨s, hopen, hs⟩ := misses_openRoot (b := b.enterView) hmiss hpiece hhollow h
  have hinner := becomes_replay_idle inst (hopen.recording_eq.trans hr)
    (hopen.depth_eq ▸ Nat.one_pos) (f := body) (by
      rw [hopen.parent?_eq, hopen.registry_eq]
      exact hbody)
  rw [hopen.scene_eq] at hinner
  rw [replay_view, opening_view hd, recordOr_of_none (b := b.enterView) hr]
  exact ⟨s, hs, closing_view hr hd (hopen.trans hinner)⟩

theorem Instantiate.misses_instantiate (setup : Setup) (levels : Nat) :
    Instantiate.Misses (instantiate setup levels) setup.widgets := by
  induction levels
  case zero => exact fun _ _ _ _ _ => .note _
  case succ levels hi =>
    intro b scope attrs hhollow h
    cases hc : b.registry.component? scope
    case none =>
      rw [instantiate, hc]
      exact .of_becomes .refl
    case some c =>
      let inside := b.inside scope attrs
      let inner := replay setup (instantiate setup levels) inside c.view
      rw [instantiate_inside levels hc] at h ⊢
      dsimp only at h ⊢
      have hview : inner.doc.view = none := by
        split at h
        case h_1 hnone => exact hnone
        case h_2       => cases h
      rw [show (replay _ _ (b.inside scope attrs) c.view).doc.view = none from hview]
      have hparent : inside.doc.parent? = b.doc.parent? := by
        simp [inside, Build.inside, DocState.begin, DocState.parent?]
      have hclose {s : Scene} (hs : s.objects = b.scene.objects)
          (hshow : inside.Shows (none, s) inner) :
          b.Misses (({ inner with doc := b.doc } : Build).note
            (.componentWithoutRoot (b.registry.scopeName scope))) := by
        obtain ⟨item, block, log, he⟩ := hshow
        exact ⟨s, ⟨b.doc.item, _, by rw [he]; rfl⟩, hs⟩
      obtain hnil | ⟨attrs', brief, body, hforest, hbody, hpiece⟩ := hhollow scope .refl c hc
      · refine hclose rfl (?_ : inside.Shows (none, inside.scene) inner)
        rw [show inner = inside by simp [inner, hnil, replay]]
        exact ⟨none, .none, inside.log, rfl⟩
      · have hevents : c.view = .opening "view" attrs' :: body.events ++ [.closing "view"] := by
          simp [hforest, Forest.events]
        have hnext (hbase : setup.widgets.get? attrs'.base = none) :
            ∀ scope' ∈ b.registry.componentScope? attrs'.base,
              HollowFrom setup.widgets b.registry b.doc.parent? scope' := by
          intro scope' hscope' scope'' hreach
          exact hhollow scope'' <| .head ⟨c, attrs', _, hc, hevents, hbase, hscope'⟩ hreach
        have hidle : body.Every fun tag _ =>
            Idle setup.widgets inside.registry inside.doc.parent? tag := by
          rw [hparent]
          exact hbody
        rw [show inner = replay setup _ inside _ from rfl, hevents] at hview
        have hshow := shows_replay_hollow (b := inside) hi (resumes_instantiate setup levels) rfl
          rfl hidle (by rw [hparent]; exact hpiece) (by rw [hparent]; exact hnext) hview
        rw [← hevents] at hshow
        obtain ⟨s, hs, hshow⟩ := hshow
        exact hclose hs hshow

end Build

end UiMarkup
