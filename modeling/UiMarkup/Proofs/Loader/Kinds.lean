import UiMarkup.Proofs.Loader.Intact

namespace UiMarkup

namespace Action

def assigned? (id : SubjectId) : Action → Option SubjectValue
  | assign id' value => if id' = id then some value else none
  | _                => none

def lastAssigned? (id : SubjectId) : List Action → Option SubjectValue
  | []           => none
  | a :: actions => (lastAssigned? id actions).or (a.assigned? id)

-- The kind that a subject of kind `kind` has after an action, or after several.
def kindAfter (id : SubjectId) (kind : SubjectKind) (a : Action) : SubjectKind :=
  ((a.assigned? id).map (·.kind)).getD kind

theorem foldl_kindAfter (id : SubjectId) (actions : List Action) (kind : SubjectKind) :
    actions.foldl (kindAfter id) kind = ((lastAssigned? id actions).map (·.kind)).getD kind := by
  induction actions generalizing kind
  case nil => rfl
  case cons a actions hi =>
    rw [List.foldl_cons, hi, lastAssigned?, kindAfter]
    cases lastAssigned? id actions <;> rfl

theorem kind_update {a : Action} {id : SubjectId} (h : a.subject? = some id) (v : SubjectValue) :
    (a.update v).kind = a.kindAfter id v.kind := by
  cases a
  case toggle    => cases v <;> rfl
  case increment => cases v <;> rfl
  case assign    => cases h; simp [update, kindAfter, assigned?]
  all_goals cases h

theorem kindAfter_of_ne {a : Action} {id : SubjectId} (h : a.subject? ≠ some id)
    (kind : SubjectKind) : a.kindAfter id kind = kind := by
  cases a
  case assign id' value =>
    have hne : id' ≠ id := fun he => h (congrArg some he)
    simp [kindAfter, assigned?, hne]
  all_goals rfl

end Action

open UiMarkup.Action (kindAfter lastAssigned?)

namespace Scene

variable {s : Scene} {target : ObjId} {code : EventCode}

theorem subjects_run (a : Action) :
    (Scene.run target code s a).2.subjects =
      (a.subject?.map fun id => s.subjects.modify id.index a.update).getD s.subjects := by
  cases a <;> rfl

theorem subjectKind?_run (a : Action) (id : SubjectId) :
    (Scene.run target code s a).2.subjectKind? id = (s.subjectKind? id).map (a.kindAfter id) := by
  unfold subjectKind? subject?
  rw [subjects_run]
  by_cases hid : a.subject? = some id
  case pos =>
    simp [hid, Array.getElem?_modify, Function.comp_def, Action.kind_update hid]
  case neg =>
    have hkeep : a.kindAfter id = fun kind => kind := funext (Action.kindAfter_of_ne hid)
    rw [hkeep]
    cases hsubject : a.subject?
    case none => simp [Function.comp_def]
    case some id' =>
      have hne : id'.index ≠ id.index := fun he =>
        hid (hsubject.trans (congrArg (fun n => some (SubjectId.mk n)) he))
      simp [Array.getElem?_modify, hne, Function.comp_def]

theorem subjectKind?_runAll (actions : List Action) (calls : List Call) (id : SubjectId) :
    (actions.foldl (fun (calls, s) a =>
      let (more, s) := Scene.run target code s a
      (calls ++ more, s)) (calls, s)).2.subjectKind? id =
      (s.subjectKind? id).map (actions.foldl (kindAfter id)) := by
  induction actions generalizing calls s
  case nil => simp
  case cons a actions hi =>
    refine (hi _).trans ((congrArg (Option.map _) (subjectKind?_run a id)).trans ?_)
    rw [Option.map_map]
    rfl

theorem subjectKind?_send (target : ObjId) (code : EventCode) (id : SubjectId) :
    (s.send target code).2.subjectKind? id =
      (s.subjectKind? id).map ((s.actions target code).foldl (kindAfter id)) :=
  subjectKind?_runAll _ [] id

theorem actions_send (e : ObjId × EventCode) : (s.send e.1 e.2).2.actions = s.actions := by
  funext target code
  unfold actions obj?
  rw [objects_send]

def sendAll (s : Scene) (events : List (ObjId × EventCode)) : Scene :=
  events.foldl (fun s e => (s.send e.1 e.2).2) s

-- Every value that an event leaves assigned to a subject has the kind of that subject.
def AssignsKinds (s : Scene) : Prop :=
  ∀ target code id, ∀ value ∈ lastAssigned? id (s.actions target code),
    ∀ kind ∈ s.subjectKind? id, value.kind = kind

theorem AssignsKinds.subjectKind?_send (h : s.AssignsKinds) (e : ObjId × EventCode) :
    (s.send e.1 e.2).2.subjectKind? = s.subjectKind? := by
  funext id
  rw [Scene.subjectKind?_send]
  cases hkind : s.subjectKind? id
  case none => rfl
  case some kind =>
    rw [Option.map_some, Action.foldl_kindAfter]
    cases hlast : lastAssigned? id (s.actions e.1 e.2)
    case none       => rfl
    case some value => exact congrArg some (h e.1 e.2 id value hlast kind hkind)

theorem AssignsKinds.send (h : s.AssignsKinds) (e : ObjId × EventCode) :
    (s.send e.1 e.2).2.AssignsKinds := by
  unfold AssignsKinds
  rw [actions_send, h.subjectKind?_send]
  exact h

theorem AssignsKinds.subjectKind?_sendAll (h : s.AssignsKinds) (events : List (ObjId × EventCode)) :
    (s.sendAll events).subjectKind? = s.subjectKind? := by
  induction events generalizing s
  case nil             => rfl
  case cons e events hi => exact (hi (h.send e)).trans (h.subjectKind?_send e)

-- What no action changes, no event changes.
theorem send_eq {α : Type} (f : Scene → α) (h : ∀ s a, f (Scene.run target code s a).2 = f s)
    (s : Scene) : f (s.send target code).2 = f s := by
  have hall (actions : List Action) (calls : List Call) (s : Scene) :
      f (actions.foldl (fun (calls, s) a =>
        let (more, s) := Scene.run target code s a
        (calls ++ more, s)) (calls, s)).2 = f s := by
    induction actions generalizing calls s
    case nil               => rfl
    case cons a actions hi => exact (hi _ _).trans (h s a)
  exact hall _ _ s

theorem AssignsKinds.stock_send (h : s.AssignsKinds) (e : ObjId × EventCode) (n : Nat) :
    (s.send e.1 e.2).2.stock n = s.stock n := by
  unfold stock
  rw [send_eq (·.fonts.size) (by intro _ a; cases a <;> rfl),
    send_eq (·.timelines.size) (by intro _ a; cases a <;> rfl), h.subjectKind?_send]

theorem AssignsKinds.good_sendAll (h : s.AssignsKinds) (events : List (ObjId × EventCode)) {n : Nat}
    (hs : s.Good (s.stock n)) : (s.sendAll events).Good ((s.sendAll events).stock n) := by
  induction events generalizing s
  case nil => exact hs
  case cons e events hi =>
    refine hi (h.send e) ?_
    rw [h.stock_send]
    exact hs.of_objects (objects_send e.2)

-- Requests never change the kind of a subject; events keep all kinds just if what they assign fits.
theorem kinds_kept_iff (s : Scene) :
    (∀ (r : Request) id, ∀ kind ∈ s.subjectKind? id, kind ∈ (r.run s).subjectKind? id) ∧
    ((∀ events, (s.sendAll events).subjectKind? = s.subjectKind?) ↔ s.AssignsKinds) := by
  have hgrow (r : Request) : (s.stock 0).Grows ((r.run s).stock 0) := grows_run
  refine ⟨fun r id kind hkind => (hgrow r).kind? hkind, fun h => ?_,
    fun h => h.subjectKind?_sendAll⟩
  intro target code id value hvalue kind hkind
  have hsend : (s.send target code).2.subjectKind? id = s.subjectKind? id :=
    congrFun (h [(target, code)]) id
  rw [Scene.subjectKind?_send, hkind, Option.map_some, Action.foldl_kindAfter, hvalue] at hsend
  exact Option.some.inj hsend

end Scene

namespace Loader

variable {setup : Setup} {l : Loader} {s : Scene}

theorem kind_changed_by_event :
    let globals := Call.loadGlobals
      "<globals><subjects><int name='count' value='3'/></subjects></globals>"
    let view := Call.loadView none
      "<view extends='button'><subject_set_string_event subject='count' value='x'/></view>"
    let l := globals.run {} .empty
    let l' := view.run l.1 l.2
    Reaches {} l'.1 l'.2 ∧ l'.2.subjectKind? ⟨0⟩ = some .int ∧
      (l'.2.send ⟨0⟩ .clicked).2.subjectKind? ⟨0⟩ = some .str := by
  intro globals view l l'
  have hglobals : Reaches {} l.1 l.2 := .call .new globals nofun
  exact ⟨.call hglobals view nofun, by decide +kernel, by decide +kernel⟩

-- Unless events assign values of other kinds, all that is bound to a subject goes on to fit it.
theorem Reaches.intact_after_events (h : Reaches setup l s) (ha : s.AssignsKinds)
    (events : List (ObjId × EventCode)) :
    ∀ o ∈ (s.sendAll events).objects, o.toContent.Intact l.registry (s.sendAll events) := by
  have ⟨_, hs⟩ := h.holds invariant_intactness (fun _ => trivial) ⟨.new, Scene.good_empty⟩
  intro o hm
  have ⟨i, hi⟩ := Array.mem_iff_getElem?.mp hm
  exact (ha.good_sendAll events hs ⟨i⟩ o hi).intact

end Loader

end UiMarkup
