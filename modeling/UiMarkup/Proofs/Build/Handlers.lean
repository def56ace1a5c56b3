import UiMarkup.Proofs.Build.Entries

namespace UiMarkup

namespace Build

inductive Handler
  | param | const | gradient | stop | style | font | image | subject | timeline
deriving DecidableEq

inductive Delivery
  | entry (handler : Handler) (tag : String) (attrs : Attrs)
  | done (tag : String)
deriving DecidableEq

def Handler.run (c : Config) (b : Build) (tag : String) (attrs : Attrs) : Handler → Build
  | param    => b.paramEntry tag attrs
  | const    => b.constEntry tag attrs
  | gradient => b.gradientEntry tag attrs
  | stop     => b.stopEntry tag attrs
  | style    => b.styleEntry tag attrs
  | font     => fontEntry c b tag attrs
  | image    => imageEntry c b tag attrs
  | subject  => b.subjectEntry tag attrs
  | timeline => b.timelineEntry tag attrs

def Delivery.run (c : Config) (b : Build) : Delivery → Build
  | entry h tag attrs => h.run c b tag attrs
  | done tag          => b.endEntry tag

def deliver (c : Config) (b : Build) (ds : List Delivery) : Build :=
  ds.foldl (Delivery.run c) b

end Build

open Build (Handler)

def Block.handler? : Block → Option Handler
  | .none            => Option.none
  | .view            => Option.none
  | .api             => some .param
  | .consts          => some .const
  | .gradients       => some .gradient
  | .stops           => some .stop
  | .styles          => some .style
  | .fonts           => some .font
  | .images          => some .image
  | .subjects        => some .subject
  | .animation       => some .timeline
  | .includeTimeline => some .timeline
  | .timeline        => some .timeline

namespace Build

variable {c : Config} {b : Build} {tag : String} {attrs : Attrs}

-- A change of the document that handlers do not notice: they look at its scope and at what is
-- pending, and change nothing but the latter.
structure Unnoticed (g : DocState → DocState) : Prop where
  scope      : ∀ d, (g d).scope = d.scope
  pending    : ∀ d, (g d).pending = d.pending
  setPending : ∀ d pending, g { d with pending } = { g d with pending }

section Unnoticed

variable {g : DocState → DocState}

theorem keep_modifyDoc {b' : Build} (h : b' = b.modifyDoc g) (refused : RegistryError → Diagnostic)
    (result : Except RegistryError Registry) :
    b'.keep refused result = (b.keep refused result).modifyDoc g := by
  cases result <;> cases h <;> rfl

variable (hg : Unnoticed g)
include hg

theorem scope_modifyDoc : (b.modifyDoc g).doc.scope = b.doc.scope :=
  hg.scope b.doc

theorem pending_modifyDoc : (b.modifyDoc g).doc.pending = b.doc.pending :=
  hg.pending b.doc

theorem setPending_modifyDoc (pending : Option Pending) :
    (b.modifyDoc g).setPending pending = (b.setPending pending).modifyDoc g :=
  congrArg (fun doc => { b with doc }) (hg.setPending b.doc pending).symm

theorem register_modifyDoc (kind : EntryKind) (name : String) (value : kind.Value) :
    (b.modifyDoc g).register kind name value = (b.register kind name value).modifyDoc g := by
  unfold register
  rw [scope_modifyDoc hg]
  exact keep_modifyDoc rfl ..

theorem paramEntry_modifyDoc :
    (b.modifyDoc g).paramEntry tag attrs = (b.paramEntry tag attrs).modifyDoc g := by
  unfold paramEntry
  rw [scope_modifyDoc hg]
  split
  case isTrue  => rfl
  case isFalse =>
    split
    case h_1 => rfl
    case h_2 => exact keep_modifyDoc rfl ..

theorem constEntry_modifyDoc :
    (b.modifyDoc g).constEntry tag attrs = (b.constEntry tag attrs).modifyDoc g := by
  unfold constEntry
  split
  case h_1 => exact register_modifyDoc hg ..
  case h_2 => rfl

theorem gradientEntry_modifyDoc :
    (b.modifyDoc g).gradientEntry tag attrs = (b.gradientEntry tag attrs).modifyDoc g := by
  unfold gradientEntry
  split
  case h_1 => rfl
  case h_2 =>
    split
    case h_1 => rfl
    case h_2 => exact setPending_modifyDoc hg _

theorem stopEntry_modifyDoc :
    (b.modifyDoc g).stopEntry tag attrs = (b.stopEntry tag attrs).modifyDoc g := by
  unfold stopEntry
  rw [pending_modifyDoc hg]
  split
  case isTrue  => rfl
  case isFalse =>
    split
    case h_1 => exact setPending_modifyDoc hg (b := (b.take (readStop attrs)).2) _
    case h_2 => rfl

theorem styleEntry_modifyDoc :
    (b.modifyDoc g).styleEntry tag attrs = (b.styleEntry tag attrs).modifyDoc g := by
  unfold styleEntry
  rw [scope_modifyDoc hg]
  split
  case isTrue  => rfl
  case isFalse =>
    dsimp only
    exact keep_modifyDoc (by rfl) ..

theorem fontEntry_modifyDoc :
    fontEntry c (b.modifyDoc g) tag attrs = (fontEntry c b tag attrs).modifyDoc g := by
  unfold fontEntry
  split
  case h_1 => rfl
  case h_2 =>
    split
    case h_1 => rfl
    case h_2 => rfl
    case h_3 =>
      dsimp only [modifyDoc]
      split
      case h_1          => rfl
      case h_2 id scene _ => exact register_modifyDoc hg (b := { b with scene }) ..

theorem imageEntry_modifyDoc :
    imageEntry c (b.modifyDoc g) tag attrs = (imageEntry c b tag attrs).modifyDoc g := by
  unfold imageEntry
  split
  case isTrue  => rfl
  case isFalse =>
    split
    case h_1 => exact register_modifyDoc hg ..
    case h_2 => rfl

theorem subjectEntry_modifyDoc :
    (b.modifyDoc g).subjectEntry tag attrs = (b.subjectEntry tag attrs).modifyDoc g := by
  unfold subjectEntry
  split
  case h_1        => rfl
  case h_2 kind _ =>
    dsimp only
    split
    case h_1        => rfl
    case h_2 name _ =>
      let read := (b.take (initialValue kind attrs)).2
      let scene := (read.scene.createSubject (initialValue kind attrs).value).2
      exact register_modifyDoc hg (b := { read with scene }) ..

theorem beginTimeline_modifyDoc :
    (b.modifyDoc g).beginTimeline attrs = (b.beginTimeline attrs).modifyDoc g := by
  unfold beginTimeline
  split
  case h_1        => rfl
  case h_2 name _ =>
    let begun : Build := { b with scene := b.scene.createTimeline.2 }
    have hregister := register_modifyDoc hg (b := begun) .timeline name b.scene.createTimeline.1
    exact (congrArg (setPending · _) hregister).trans (setPending_modifyDoc hg _)

theorem addStep_modifyDoc :
    (b.modifyDoc g).addStep tag attrs = (b.addStep tag attrs).modifyDoc g := by
  unfold addStep
  rw [pending_modifyDoc hg]
  split
  case h_1 =>
    simp only [take]
    split <;> rfl
  case h_2 => rfl

theorem timelineEntry_modifyDoc :
    (b.modifyDoc g).timelineEntry tag attrs = (b.timelineEntry tag attrs).modifyDoc g := by
  unfold timelineEntry
  rw [beginTimeline_modifyDoc hg, addStep_modifyDoc hg]
  split
  case isTrue  => rfl
  case isFalse => split <;> rfl

theorem endGradient_modifyDoc (name : String) (gradient : Gradient) :
    (b.modifyDoc g).endGradient name gradient = (b.endGradient name gradient).modifyDoc g := by
  unfold endGradient
  rw [setPending_modifyDoc hg]
  dsimp only
  split
  case isTrue  => exact register_modifyDoc hg ..
  case isFalse =>
    exact register_modifyDoc hg (b := (b.setPending none).note (.tooFewStops name)) ..

theorem endEntry_modifyDoc :
    (b.modifyDoc g).endEntry tag = (b.endEntry tag).modifyDoc g := by
  unfold endEntry
  rw [pending_modifyDoc hg]
  split
  case h_1 =>
    rw [endGradient_modifyDoc hg]
    split <;> rfl
  case h_2 =>
    rw [setPending_modifyDoc hg]
    split <;> rfl
  case h_3 => rfl

theorem run_modifyDoc (d : Delivery) : d.run c (b.modifyDoc g) = (d.run c b).modifyDoc g := by
  cases d
  case done tag => exact endEntry_modifyDoc hg
  case entry h tag attrs =>
    cases h
    case param    => exact paramEntry_modifyDoc hg
    case const    => exact constEntry_modifyDoc hg
    case gradient => exact gradientEntry_modifyDoc hg
    case stop     => exact stopEntry_modifyDoc hg
    case style    => exact styleEntry_modifyDoc hg
    case font     => exact fontEntry_modifyDoc hg
    case image    => exact imageEntry_modifyDoc hg
    case subject  => exact subjectEntry_modifyDoc hg
    case timeline => exact timelineEntry_modifyDoc hg

theorem deliver_modifyDoc (ds : List Delivery) :
    deliver c (b.modifyDoc g) ds = (deliver c b ds).modifyDoc g := by
  induction ds generalizing b
  case nil          => rfl
  case cons d ds hi => exact (congrArg (deliver c · ds) (run_modifyDoc hg d)).trans hi

end Unnoticed

def atBlock (b : Build) (block : Block) : Build :=
  b.modifyDoc fun d => { d with block }

theorem unnoticed_block (block : Block) : Unnoticed fun d => { d with block } :=
  ⟨fun _ => rfl, fun _ => rfl, fun _ _ => rfl⟩

theorem run_atBlock (block : Block) (d : Delivery) :
    d.run c (b.atBlock block) = (d.run c b).atBlock block :=
  run_modifyDoc (unnoticed_block block) d

theorem deliver_atBlock (block : Block) (ds : List Delivery) :
    deliver c (b.atBlock block) ds = (deliver c b ds).atBlock block :=
  deliver_modifyDoc (unnoticed_block block) ds

-- The open block decides who handles an entry, and tags decide which block is open.

theorem entry_eq_run {h : Handler} (hb : b.doc.block.handler? = some h) :
    entry c b tag attrs = h.run c b tag attrs := by
  unfold entry
  cases hblock : b.doc.block
  all_goals
    rw [hblock] at hb
    cases hb
  all_goals rfl

theorem keeps_run (d : Delivery) : b.Keeps (d.run c b) := by
  cases d
  case done tag => exact .endEntry tag
  case entry h tag attrs =>
    cases h
    case param    => exact .paramEntry tag attrs
    case const    => exact .constEntry tag attrs
    case gradient => exact .gradientEntry tag attrs
    case stop     => exact .stopEntry tag attrs
    case style    => exact .styleEntry tag attrs
    case font     => exact .fontEntry c tag attrs
    case image    => exact .imageEntry c tag attrs
    case subject  => exact .subjectEntry tag attrs
    case timeline => exact .timelineEntry tag attrs

theorem depth_run (d : Delivery) : (d.run c b).doc.depth = b.doc.depth := by
  obtain ⟨_, _, hdoc⟩ := (keeps_run (c := c) d).doc
  rw [hdoc]

theorem doc_deliver (ds : List Delivery) :
    ∃ block pending, (deliver c b ds).doc = { b.doc with block, pending } := by
  induction ds generalizing b
  case nil => exact ⟨_, _, rfl⟩
  case cons d ds hi =>
    obtain ⟨_, _, hrun⟩ := (keeps_run (c := c) d).doc
    obtain ⟨block, pending, hdoc⟩ := hi (b := d.run c b)
    rw [hrun] at hdoc
    exact ⟨block, pending, hdoc⟩

theorem deliver_append (ds ds' : List Delivery) :
    deliver c b (ds ++ ds') = deliver c (deliver c b ds) ds' :=
  List.foldl_append

theorem endEntry_idle (h : b.doc.pending = none) : b.endEntry tag = b := by
  unfold endEntry
  rw [h]

def Handler.IsPlain (h : Handler) : Prop :=
  h ≠ .gradient ∧ h ≠ .stop ∧ h ≠ .timeline

instance {h : Handler} : Decidable h.IsPlain :=
  inferInstanceAs (Decidable (h ≠ .gradient ∧ h ≠ .stop ∧ h ≠ .timeline))

theorem doc_paramEntry : (b.paramEntry tag attrs).doc = b.doc := by
  unfold paramEntry
  split
  case isTrue  => rfl
  case isFalse =>
    split
    case h_1 => rfl
    case h_2 => exact doc_keep

theorem doc_constEntry : (b.constEntry tag attrs).doc = b.doc := by
  unfold constEntry
  split
  case h_1 => exact doc_keep
  case h_2 => rfl

theorem doc_styleEntry : (b.styleEntry tag attrs).doc = b.doc := by
  unfold styleEntry
  split
  case isTrue  => rfl
  case isFalse => exact doc_keep

theorem doc_fontEntry : (fontEntry c b tag attrs).doc = b.doc := by
  unfold fontEntry
  split
  case h_1 => rfl
  case h_2 =>
    split
    case h_1 => rfl
    case h_2 => rfl
    case h_3 =>
      dsimp only
      split
      case h_1 => rfl
      case h_2 => exact doc_keep

theorem doc_imageEntry : (imageEntry c b tag attrs).doc = b.doc := by
  unfold imageEntry
  split
  case isTrue  => rfl
  case isFalse =>
    split
    case h_1 => exact doc_keep
    case h_2 => rfl

theorem doc_subjectEntry : (b.subjectEntry tag attrs).doc = b.doc := by
  unfold subjectEntry
  split
  case h_1 => rfl
  case h_2 =>
    dsimp only
    split
    case h_1 => rfl
    case h_2 => exact doc_keep

theorem doc_run {h : Handler} (hplain : h.IsPlain) : (h.run c b tag attrs).doc = b.doc := by
  cases h
  case param    => exact doc_paramEntry
  case const    => exact doc_constEntry
  case style    => exact doc_styleEntry
  case font     => exact doc_fontEntry
  case image    => exact doc_imageEntry
  case subject  => exact doc_subjectEntry
  case gradient => exact absurd rfl hplain.1
  case stop     => exact absurd rfl hplain.2.1
  case timeline => exact absurd rfl hplain.2.2

def Pending.IsGradient : Pending → Prop
  | .gradient .. => True
  | _            => False

def Pending.IsTimeline : Pending → Prop
  | .timeline _ => True
  | _           => False

def AtMost (own : Pending → Prop) : Option Pending → Prop
  | none   => True
  | some q => own q

theorem atMost_of_none {own : Pending → Prop} (h : b.doc.pending = none) :
    AtMost own b.doc.pending := by
  rw [h]
  trivial

theorem atMost_gradientEntry (h : b.doc.pending = none) :
    AtMost Pending.IsGradient (b.gradientEntry tag attrs).doc.pending := by
  unfold gradientEntry
  split
  case h_1 => exact atMost_of_none h
  case h_2 =>
    split
    case h_1 => exact atMost_of_none h
    case h_2 => trivial

theorem atMost_stopEntry (h : AtMost Pending.IsGradient b.doc.pending) :
    AtMost Pending.IsGradient (b.stopEntry tag attrs).doc.pending := by
  unfold stopEntry
  split
  case isTrue  => exact h
  case isFalse =>
    split
    case h_1 => trivial
    case h_2 => exact h

theorem atMost_beginTimeline (h : b.doc.pending = none) :
    AtMost Pending.IsTimeline (b.beginTimeline attrs).doc.pending := by
  unfold beginTimeline
  split
  case h_1 => exact atMost_of_none h
  case h_2 => trivial

theorem doc_addStep : (b.addStep tag attrs).doc = b.doc := by
  unfold addStep
  split
  case h_1 =>
    dsimp only
    split <;> rfl
  case h_2 => rfl

theorem doc_endGradient (name : String) (gradient : Gradient) :
    (b.endGradient name gradient).doc = { b.doc with pending := none } := by
  unfold endGradient
  dsimp only
  split <;> exact doc_keep

theorem doc_endEntry_gradient (h : AtMost Pending.IsGradient b.doc.pending)
    (htag : (gradientShape? tag).isSome) :
    (b.endEntry tag).doc = { b.doc with pending := none } := by
  cases hp : b.doc.pending
  case none => rw [endEntry_idle hp, ← hp]
  case some q =>
    rw [hp] at h
    cases q
    case gradient name gradient =>
      unfold endEntry
      rw [hp]
      dsimp only
      rw [if_pos htag, doc_endGradient]
    all_goals exact h.elim

theorem doc_endEntry_timeline (h : AtMost Pending.IsTimeline b.doc.pending) :
    (b.endEntry "timeline").doc = { b.doc with pending := none } := by
  cases hp : b.doc.pending
  case none => rw [endEntry_idle hp, ← hp]
  case some q =>
    rw [hp] at h
    cases q
    case timeline id =>
      unfold endEntry
      rw [hp]
      rfl
    all_goals exact h.elim

-- Nothing but the deliveries happened, except that another block may be open.
def Delivers (c : Config) (b : Build) (ds : List Delivery) (b' : Build) : Prop :=
  ∃ block, b' = (deliver c b ds).atBlock block

namespace Delivers

variable {b₁ b₂ : Build} {ds ds' : List Delivery}

theorem refl : Delivers c b [] b :=
  ⟨b.doc.block, rfl⟩

theorem trans (h : Delivers c b ds b₁) (h' : Delivers c b₁ ds' b₂) :
    Delivers c b (ds ++ ds') b₂ := by
  obtain ⟨_, rfl⟩ := h
  obtain ⟨block, rfl⟩ := h'
  refine ⟨block, ?_⟩
  rw [deliver_atBlock, deliver_append]
  rfl

theorem atBlock (h : Delivers c b ds b₁) (block : Block) : Delivers c b ds (b₁.atBlock block) := by
  obtain ⟨_, rfl⟩ := h
  exact ⟨block, rfl⟩

end Delivers

end Build

end UiMarkup
