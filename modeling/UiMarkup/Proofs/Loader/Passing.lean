import UiMarkup.Proofs.Build.Starts
import UiMarkup.Proofs.Loader.Heeded
import UiMarkup.Proofs.Loader.Placement

namespace UiMarkup

open Markup

namespace Registry

variable {r r' : Registry} {scope : ScopeId} {p : String}

theorem contains_params_modify {id : ScopeId} {f : Scope → Scope}
    (h : r'.scopes = r.scopes.modify id.index f)
    (hf : ∀ s, s.params.contains p → (f s).params.contains p)
    (hp : (r.params scope).contains p) : (r'.params scope).contains p := by
  unfold params at hp ⊢
  rw [scope?, h, scope?_modify]
  split
  case isFalse => exact hp
  case isTrue =>
    cases hs : r.scope? scope
    case none   => rw [hs] at hp; exact hp
    case some s => rw [hs] at hp; exact hf s hp

theorem contains_params_modifyScope {id : ScopeId} {f : Scope → Scope}
    (h : r.modifyScope id f = .ok r')
    (hf : ∀ s, s.params.contains p → (f s).params.contains p)
    (hp : (r.params scope).contains p) : (r'.params scope).contains p :=
  contains_params_modify (congrArg scopes (modifyScope_eq_ok h).2) hf hp

theorem contains_params_ensureScope (name : String) (hp : (r.params scope).contains p) :
    ((r.ensureScope name).2.params scope).contains p := by
  unfold ensureScope
  split
  case h_1 => exact hp
  case h_2 =>
    unfold params scope? at hp ⊢
    rw [Array.getElem?_push]
    split
    case isFalse    => exact hp
    case isTrue hid => simp [hid, Assoc.contains] at hp

theorem contains_params_registerStyle {given : Option ScopeId} {attrs : Attrs}
    (h : (r.registerStyle given attrs).value.map Prod.snd = .ok r')
    (hp : (r.params scope).contains p) : (r'.params scope).contains p := by
  obtain ⟨name, s, extended, -, -, rfl⟩ := registerStyle_eq_ok h
  unfold ensureStyle
  split
  case h_1 =>
    unfold params
    rw [scope?, scopes_restyle]
    exact hp
  case h_2 =>
    exact contains_params_modify (f := (·.set .style name ⟨r.styles.size⟩)) (scopes_restyle ..)
      (fun _ hs => hs) hp

theorem contains_params_run (hp : (r.params scope).contains p) (c : Call) :
    ((c.run r).params scope).contains p := by
  have hsettle {result : Except RegistryError Registry}
      (h : ∀ r', result = .ok r' → (r'.params scope).contains p) :
      ((Call.run.settle r result).params scope).contains p :=
    Call.run.settle_cases (motive := fun r' => (r'.params scope).contains p) hp h
  cases c
  case ensureScope name => exact contains_params_ensureScope name hp
  case register kind _ _ _ _ =>
    refine hsettle fun _ h => contains_params_modifyScope h (fun s hs => ?_) hp
    cases kind <;> exact hs
  case registerStyle => exact hsettle fun _ h => contains_params_registerStyle h hp
  case setComponent =>
    exact hsettle fun _ h => contains_params_modifyScope h (fun _ hs => hs) hp
  case registerParam scope' name default =>
    refine hsettle fun _ h => contains_params_modifyScope h (fun s hs => ?_) hp
    unfold Assoc.contains at hs ⊢
    by_cases hname : name = p
    case pos => rw [hname, Assoc.get?_set_self]; rfl
    case neg => rwa [Assoc.get?_set_of_ne _ _ hname]

end Registry

theorem Context.size_le_perform (c : Context) (p : Processor) (parent : Option ObjId)
    (attrs : Attrs) (s : Scene) : s.size ≤ (c.perform p parent attrs s).2.size := by
  have hcreate : s.size ≤ (p.create (c.env s) parent attrs s).value.2.size := by
    obtain he | ⟨r, -, -, he⟩ := p.exists_request parent
    · exact Nat.le_of_eq (congrArg Scene.size he.symm)
    · exact he ▸ Scene.Request.size_le_run
  unfold perform
  split
  case h_1 he => rwa [he] at hcreate
  case h_2 he =>
    rw [he] at hcreate
    exact Nat.le_trans hcreate (Nat.le_of_eq (Build.size_edits _ _).symm)

def lasting (r₀ : Registry) (s₀ : Scene) : Condition where
  holds r s := (∀ scope p, (r₀.params scope).contains p → (r.params scope).contains p) ∧
    s₀.size ≤ s.size
  home _ _  := True

theorem invariant_lasting (r₀ : Registry) (s₀ : Scene) : (lasting r₀ s₀).Invariant := by
  have hrun {r : Registry} {s : Scene} (h : (lasting r₀ s₀).holds r s) (c : Registry.Call) :
      (lasting r₀ s₀).holds (c.run r) s :=
    ⟨fun scope p hp => Registry.contains_params_run (h.1 scope p hp) c, h.2⟩
  constructor
  case entry =>
    intro r s h scope e
    have hregistry : (lasting r₀ s₀).holds (e.registry scope r s) s :=
      e.registry_induction (motive := fun r => (lasting r₀ s₀).holds r s) h fun c _ => hrun h c
    exact ⟨⟨hregistry.1, Nat.le_trans h.2 e.leads_scene.size_le⟩, fun _ => trivial⟩
  case element =>
    intro c s parent h _ p attrs
    have hsize := Nat.le_trans h.2 (c.size_le_perform p parent attrs s)
    exact ⟨⟨⟨h.1, hsize⟩, fun _ => trivial⟩, fun _ _ => trivial⟩
  case adorn =>
    intro c s parent id h _ _ p attrs
    exact ⟨⟨h.1, Nat.le_trans h.2 (Nat.le_of_eq (Build.size_edits _ _).symm)⟩, fun _ => trivial⟩
  case ensureScope  => exact fun h name => hrun h (.ensureScope name)
  case setComponent =>
    exact fun h _ _ _ hr => Registry.Call.run_setComponent hr ▸ hrun h _

-- Objects were added, and the last of them is a label with that text, on which nothing else was
-- set.
def Scene.AddsLabel (s : Scene) (text : String) (s' : Scene) : Prop :=
  ∃ id o, s.size ≤ id.index ∧ id.index + 1 = s'.size ∧ s'.obj? id = some o ∧ o.kind = .label ∧
    o.toContent = { props := [.text text] }

theorem Scene.AddsLabel.mono {s₀ s s' s'' : Scene} {v : String} (h : s.AddsLabel v s')
    (hsize : s₀.size ≤ s.size) (hobjects : s''.objects = s'.objects) : s₀.AddsLabel v s'' := by
  obtain ⟨id, o, hid, hlast, ho, hrest⟩ := h
  unfold obj? at ho
  rw [size, ← hobjects] at hlast
  rw [← hobjects] at ho
  exact ⟨id, o, Nat.le_trans hsize hid, hlast, ho, hrest⟩

theorem Scene.exists_obj?_push (s : Scene) (kind : WidgetKind) (parent : Option ObjId) :
    ∃ o, (s.push kind parent).2.obj? s.next = some o ∧ o.kind = kind ∧ o.toContent = {} := by
  cases parent
  case none => exact ⟨_, by rw [push_none, obj?_added, if_pos rfl], rfl, rfl⟩
  case some p =>
    have hnext : (s.visit p).next = s.next := by simp [next]
    rw [push_some, obj?_modify, obj?_added, hnext, if_pos rfl]
    split
    case isTrue  => exact ⟨_, rfl, rfl, rfl⟩
    case isFalse => exact ⟨_, rfl, rfl, rfl⟩

theorem WidgetKind.apply_label_text (env : Env) (v : String) :
    (WidgetKind.label.apply env [("text", v)]).value = [.prop (.text v)] := by
  have hcommon : ObjAttr.edits env "text" v = pure [] :=
    ObjAttr.edits_of_not_accepts (by decide +kernel) env v
  unfold WidgetKind.apply ObjAttr.apply
  simp only [Noted.value_bind, Noted.value_collect, List.flatMap_singleton, hcommon]
  rfl

theorem Context.perform_label (c : Context) (parent : Option ObjId) (v : String) (s : Scene) :
    s.AddsLabel v (c.perform (.widget .label) parent [("text", v)] s).2 := by
  let pushed := (s.push .label parent).2
  obtain ⟨o, ho, hkind, hcontent⟩ := s.exists_obj?_push .label parent
  have hcreate : ((Processor.widget .label).create (c.env s) parent [("text", v)] s).value =
      (some (.obj s.next), pushed) := by
    simp [Processor.create, Scene.createWidget, pushed]
  have happly : ((Processor.widget .label).apply (c.env pushed) parent (some (.obj s.next))
      [("text", v)]).value = [(s.next, .prop (.text v))] := by
    simp [Processor.apply, Processor.onto, Item.obj?, WidgetKind.apply_label_text]
  unfold perform
  rw [hcreate]
  dsimp only
  rw [happly]
  refine ⟨s.next, o.edit (.prop (.text v)), Nat.le_refl _, ?_, ?_, hkind, ?_⟩
  · simp [Scene.next, pushed, Scene.edit]
  · simp [Scene.edit, Scene.obj?_modify, pushed, ho]
  · rw [Obj.edit, hcontent]
    rfl

namespace Build

variable {setup : Setup} {levels k : Nat} {t : WidgetTable} {r : Registry} {b b' : Build}
  {scope next : ScopeId} {attrs given : Attrs} {body : Forest} {c : Component} {o : Order}
  {tag p q v : String} {brief : Bool}

-- Scopes, their components and their parameters are still there, and no object went away.
structure Lasts (b b' : Build) : Prop where
  names      : b'.registry.names = b.registry.names
  components : ∀ id, b'.registry.component? id = b.registry.component? id
  params     : ∀ scope p, (b.registry.params scope).contains p →
    (b'.registry.params scope).contains p
  size       : b.scene.size ≤ b'.scene.size

theorem Lasts.componentScope? (h : b.Lasts b') (tag : String) :
    b'.registry.componentScope? tag = b.registry.componentScope? tag :=
  congrFun (Registry.componentScope?_congr h.names h.components) tag

theorem lasts_fill (setup : Setup) (levels : Nat) (o : Order) :
    o.build.Lasts (o.fill setup (instantiate setup levels)).2 := by
  have hI := invariant_lasting o.build.registry o.build.scene
  have hmeets : o.build.Meets (lasting o.build.registry o.build.scene) :=
    ⟨⟨fun _ _ h => h, Nat.le_refl _⟩, fun _ _ => trivial, fun _ _ => trivial⟩
  have hdone := (hmeets.createElement hI setup (Instantiate.makes_instantiate hI setup levels)
    o.tag o.attrs).meets.holds
  exact ⟨names_createElement (Instantiate.keepsNames_instantiate setup levels) o.tag o.attrs,
    (resumes_fill (Instantiate.resumes_instantiate setup levels)).components, hdone.1, hdone.2⟩

structure Takes (r : Registry) (scope : ScopeId) (p : String) (attrs : Attrs) (body : Forest) :
    Prop where
  component : r.component? scope = some (.ofView attrs body)
  param     : (r.params scope).contains p

-- The tag is that of a component, and of no widget.
structure Names (t : WidgetTable) (r : Registry) (tag : String) (scope : ScopeId) : Prop where
  widget : t.get? tag = none
  scope  : r.componentScope? tag = some scope

-- Through `k` components, the parameter `p` of the first one is passed on to a label in the last
-- one: to an instance of the next component in the view, or by the view, which extends the next.
inductive Passes (t : WidgetTable) (r : Registry) : Nat → ScopeId → String → Prop
  | shown {scope : ScopeId} {p : String} {attrs : Attrs} {brief : Bool} :
    Takes r scope p attrs (.element "label" [("text", "$" ++ p)] brief .empty .empty) →
    Passes t r 1 scope p
  | inside {k : Nat} {scope next : ScopeId} {p q tag : String} {attrs : Attrs} {brief : Bool} :
    Takes r scope p attrs (.element tag [(q, "$" ++ p)] brief .empty .empty) →
    Names t r tag next → Passes t r k next q → Passes t r (k + 1) scope p
  | extended {k : Nat} {scope next : ScopeId} {p q : String} {attrs : Attrs} :
    Takes r scope p attrs .empty → attrs.ofBase = [(q, "$" ++ p)] →
    Names t r attrs.base next → Passes t r k next q → Passes t r (k + 1) scope p

theorem Takes.lasts (h : Takes b.registry scope p attrs body) (hb : b.Lasts b') :
    Takes b'.registry scope p attrs body where
  component := (hb.components scope).trans h.component
  param     := hb.params scope p h.param

theorem Names.lasts (h : Names t b.registry tag next) (hb : b.Lasts b') :
    Names t b'.registry tag next where
  widget := h.widget
  scope  := (hb.componentScope? tag).trans h.scope

theorem Passes.lasts (h : Passes t b.registry k scope p) (hb : b.Lasts b') :
    Passes t b'.registry k scope p := by
  induction h
  case shown h               => exact .shown (h.lasts hb)
  case inside h hn _ hi      => exact .inside (h.lasts hb) (hn.lasts hb) hi
  case extended h he hn _ hi => exact .extended (h.lasts hb) he (hn.lasts hb) hi

-- Where the parameter is given, a reference to it stands for its value, whatever the value is.
theorem value_resolveAttrs_parameter (hp : b.doc.arguments.bind (·.get? p) = some v) (q : String) :
    (b.resolveAttrs [(q, "$" ++ p)]).value = [(q, v)] := by
  have hattr : (b.resolveAttr (q, "$" ++ p)).value = [(q, v)] := by
    unfold resolveAttr
    rw [Text.after?_append]
    dsimp only
    rw [hp]
    rfl
  rw [resolveAttrs, Noted.value_collect, List.flatMap_singleton, hattr]

theorem argument_inside (b : Build) (scope : ScopeId) (p v : String) :
    (b.inside scope [(p, v)]).doc.arguments.bind (·.get? p) = some v := by
  have hgiven : (arguments (b.registry.params scope) [(p, v)]).get? p = some v := by
    rw [get?_arguments, argument?]
    simp [Attrs.get?, Assoc.get?]
  exact hgiven

structure Viewing (b : Build) (p v : String) (b' : Build) : Prop where
  lasts     : b.Lasts b'
  depth     : b'.doc.depth = 1
  recording : b'.doc.recording = none
  argument  : b'.doc.arguments.bind (·.get? p) = some v

theorem viewing_opening (setup : Setup) (levels : Nat) (b : Build) (scope : ScopeId) (p v : String)
    (attrs : Attrs) :
    Viewing b p v
      (opening setup (instantiate setup levels) (b.inside scope [(p, v)]) "view" attrs) := by
  let o := Order.of (b.inside scope [(p, v)]).enterView attrs.base attrs.ofBase
  have hresumes : o.build.Resumes (o.fill setup (instantiate setup levels)).2 :=
    resumes_fill (Instantiate.resumes_instantiate setup levels)
  obtain ⟨item, hdoc⟩ := hresumes.doc
  rw [opening_root (b := b.inside scope [(p, v)]) rfl rfl]
  refine ⟨{ lasts_fill setup levels o with }, ?depth, ?recording, ?argument⟩
  all_goals
    dsimp only [modifyDoc, DocState.openFrame]
    rw [show (o.fill setup (instantiate setup levels)).2.doc = _ from hdoc]
  case depth     => rfl
  case recording => rfl
  case argument  => exact argument_inside b scope p v

theorem objects_replay_child {inst : Instantiate} (hr : b.doc.recording = none)
    (hd : b.doc.depth = 1) (hmax : 2 ≤ setup.config.maxDepth) (tag : String) (attrs : Attrs)
    (brief : Bool) :
    ((replay setup inst b (Forest.element tag attrs brief .empty .empty).events).closing
      "view").scene.objects =
      (Order.fill setup inst (.of (b.setDepth 2) tag attrs)).2.scene.objects := by
  have hd₀ : b.doc.depth ≠ 0 := by omega
  have horder : b.order? setup (.opening tag attrs) = some (.of (b.setDepth 2) tag attrs) := by
    rw [order?_inside hr hd₀, if_neg (by omega), hd]
  have hopening : opening setup inst b tag attrs =
      (Order.fill setup inst (.of (b.setDepth 2) tag attrs)).2.modifyDoc
        (·.openFrame (Order.fill setup inst (.of (b.setDepth 2) tag attrs)).1) := by
    rw [opening_inside hr hd₀, horder]
  rw [(files_closing _).spares.objects, replay_element]
  exact ((files_closing _).spares.objects).trans (congrArg (·.scene.objects) hopening)

-- All that is given to an instance is a parameter, so nothing is left to be done at the root.
theorem scene_instantiate_parameter (levels : Nat) (h : Takes b.registry scope p attrs body)
    (v : String) :
    (instantiate setup (levels + 1) b scope [(p, v)]).2.scene =
      ((replay setup (instantiate setup levels) (opening setup (instantiate setup levels)
        (b.inside scope [(p, v)]) "view" attrs) body.events).closing "view").scene := by
  have hrest :
      ([(p, v)] : Attrs).filter (fun a => !(b.registry.params scope).contains a.1) = [] := by
    simp [h.param]
  rw [instantiate_inside levels h.component, hrest, ← replay_view]
  dsimp only
  split <;> rfl

def HandsOn (setup : Setup) (levels : Nat) (b : Build) (scope : ScopeId) (p v tag q : String) :
    Prop :=
  ∃ o : Order, o.tag = tag ∧ o.attrs = [(q, v)] ∧ b.Lasts o.build ∧
    (instantiate setup (levels + 1) b scope [(p, v)]).2.scene.objects =
      (o.fill setup (instantiate setup levels)).2.scene.objects

theorem handsOn_child (hmax : 2 ≤ setup.config.maxDepth)
    (h : Takes b.registry scope p attrs (.element tag [(q, "$" ++ p)] brief .empty .empty))
    (levels : Nat) (v : String) : HandsOn setup levels b scope p v tag q := by
  let opened := opening setup (instantiate setup levels) (b.inside scope [(p, v)]) "view" attrs
  have hview : Viewing b p v opened := viewing_opening setup levels b scope p v attrs
  refine ⟨.of (opened.setDepth 2) tag [(q, "$" ++ p)], rfl, ?attrs, { hview.lasts with }, ?objects⟩
  case attrs   => exact value_resolveAttrs_parameter (b := opened.setDepth 2) hview.argument q
  case objects =>
    rw [scene_instantiate_parameter levels h v]
    exact objects_replay_child hview.recording hview.depth hmax tag _ brief

theorem handsOn_base (h : Takes b.registry scope p attrs .empty)
    (hbase : attrs.ofBase = [(q, "$" ++ p)]) (levels : Nat) (v : String) :
    HandsOn setup levels b scope p v attrs.base q := by
  let inside := b.inside scope [(p, v)]
  refine ⟨.of inside.enterView attrs.base attrs.ofBase, rfl, ?attrs,
    ⟨rfl, fun _ => rfl, fun _ _ h => h, Nat.le_refl _⟩, ?objects⟩
  case attrs =>
    rw [hbase]
    exact value_resolveAttrs_parameter (b := inside.enterView) (argument_inside b scope p v) q
  case objects =>
    rw [scene_instantiate_parameter levels h v, (files_closing _).spares.objects]
    exact congrArg (·.scene.objects) (opening_root (b := inside) rfl rfl attrs)

theorem HandsOn.shown (h : HandsOn setup levels b scope p v "label" "text")
    (hlabel : setup.widgets.get? "label" = some (.widget .label)) :
    b.scene.AddsLabel v (instantiate setup (levels + 1) b scope [(p, v)]).2.scene := by
  obtain ⟨o, htag, hattrs, hlasts, hobjects⟩ := h
  rw [← htag] at hlabel
  have hfill : (o.fill setup (instantiate setup levels)).2.scene = _ :=
    (createElement_of_get? _ (b := o.build) hlabel o.attrs).2.scene_eq
  rw [hfill, hattrs] at hobjects
  exact (Context.perform_label ..).mono hlasts.size hobjects

theorem HandsOn.passed (h : HandsOn setup levels b scope p v tag q)
    (hn : Names setup.widgets b.registry tag next)
    (hnext : ∀ b', b.Lasts b' →
      b'.scene.AddsLabel v (instantiate setup levels b' next [(q, v)]).2.scene) :
    b.scene.AddsLabel v (instantiate setup (levels + 1) b scope [(p, v)]).2.scene := by
  obtain ⟨o, rfl, hattrs, hlasts, hobjects⟩ := h
  have hnames := hn.lasts hlasts
  have hcomponent := Order.component?_eq_some.mpr ⟨hnames.widget, hnames.scope⟩
  rw [scene_fill hcomponent, hattrs] at hobjects
  exact (hnext o.build hlasts).mono hlasts.size hobjects

-- By induction on the length of the chain, because the registry may have grown before the next
-- instance. Each instance resolves one reference to the parameter that it was given and hands the
-- value on as an attribute of the next one, where it is not looked at any more.
theorem text_passed (hlabel : setup.widgets.get? "label" = some (.widget .label))
    (hmax : 2 ≤ setup.config.maxDepth) (h : Passes setup.widgets b.registry k scope p)
    (hlevels : k ≤ levels) (v : String) :
    b.scene.AddsLabel v (instantiate setup levels b scope [(p, v)]).2.scene := by
  induction k generalizing b levels scope p
  case zero => cases h
  case succ k hi =>
    obtain ⟨levels, rfl⟩ := Nat.exists_eq_add_of_le' (Nat.le_trans (Nat.le_add_left 1 k) hlevels)
    have hle : k ≤ levels := Nat.le_of_succ_le_succ hlevels
    cases h
    case shown htakes => exact (handsOn_child hmax htakes levels v).shown hlabel
    case inside hn hrest htakes =>
      exact (handsOn_child hmax htakes levels v).passed hn fun _ hb => hi (hrest.lasts hb) hle
    case extended hn hrest hbase htakes =>
      exact (handsOn_base htakes hbase levels v).passed hn fun _ hb => hi (hrest.lasts hb) hle

theorem constant_name_passed :
    let r : Registry := { scopes := #[
      { name := "globals", consts := [("x", "1")] },
      { name := "card", params := [("head", none)], component := some <|
        .ofView [("extends", "button")] (.element "row" [("t", "$head")] true .empty .empty) },
      { name := "row", params := [("t", none)], component := some <|
        .ofView [("extends", "title"), ("text", "$t")] .empty },
      { name := "title", params := [("text", some "none")], component := some <|
        .ofView [] (.element "label" [("text", "$text")] true .empty .empty) }] }
    let out := instance? {} { registry := r } ⟨1⟩ [("head", "#x")]
    Scene.AddsLabel {} "#x" out.2.scene ∧
    out.2.scene.objects.map (·.props) = #[[], [], [.text "#x"]] := by
  intro r out
  have htitle : Passes .builtin r 1 ⟨3⟩ "text" := .shown ⟨rfl, rfl⟩
  have hrow : Passes .builtin r 2 ⟨2⟩ "t" :=
    .extended ⟨rfl, rfl⟩ rfl ⟨rfl, by decide +kernel⟩ htitle
  have hcard : Passes .builtin r 3 ⟨1⟩ "head" :=
    .inside ⟨rfl, rfl⟩ ⟨rfl, by decide +kernel⟩ hrow
  have hlabel : ({} : Setup).widgets.get? "label" = some (.widget .label) := rfl
  exact ⟨text_passed (b := { registry := r }) hlabel (by decide) hcard (by decide) "#x",
    by decide +kernel⟩

end Build

end UiMarkup
