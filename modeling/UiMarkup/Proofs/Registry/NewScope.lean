import UiMarkup.Registry.Style

namespace UiMarkup

def Scope.Bare (s : Scope) : Prop :=
  ∀ kind name, s.get? kind name = none

namespace Registry

def nextScope (r : Registry) : ScopeId :=
  ⟨r.scopes.size⟩

def withScope (r : Registry) (s : Scope) : Registry :=
  { r with scopes := r.scopes.push s }

variable {r : Registry} {s : Scope} {id : ScopeId}

theorem scope?_withScope_next : (r.withScope s).scope? r.nextScope = some s := by
  simp [scope?, withScope, nextScope]

theorem scope?_withScope_of_ne (h : id ≠ r.nextScope) :
    (r.withScope s).scope? id = r.scope? id := by
  have hi : id.index ≠ r.scopes.size := fun hi => h (by cases id; simp_all [nextScope])
  simp [scope?, withScope, Array.getElem?_push, hi]

theorem ensureScope_of_none {name : String} (h : r.scopeByName? name = none) :
    r.ensureScope name = (r.nextScope, r.withScope { name }) := by
  unfold ensureScope
  rw [h]
  rfl

theorem modifyScope_withScope_next (f : Scope → Scope) :
    (r.withScope s).modifyScope r.nextScope f = .ok (r.withScope (f s)) := by
  have hmodify : (r.scopes.push s).modify r.scopes.size f = r.scopes.push (f s) := by
    apply Array.ext
    case h₁ => simp
    case h₂ =>
      intro i _ _
      simp only [Array.getElem_modify, Array.getElem_push]
      grind
  simp [modifyScope, withScope, nextScope, hmodify]

theorem entries_next (kind : EntryKind) (name : String) :
    r.entry? kind r.nextScope name = none := by
  unfold entry?
  simp [scope?, nextScope]

theorem entries_withScope (hs : s.Bare) (kind : EntryKind) (id : ScopeId) (name : String) :
    entry? (r.withScope s) kind id name = r.entry? kind id name := by
  by_cases hid : id = r.nextScope
  case pos =>
    rw [hid, entries_next]
    unfold entry?
    rw [scope?_withScope_next]
    exact hs kind name
  case neg =>
    unfold entry?
    rw [scope?_withScope_of_ne hid]

theorem lookup?_withScope (hs : s.Bare) (kind : EntryKind) (scope : Option ScopeId)
    (name : String) : (r.withScope s).lookup? kind scope name = r.lookup? kind scope name := by
  unfold lookup?
  rw [entries_withScope hs, entries_withScope hs]

theorem lookup?_next (kind : EntryKind) (name : String) :
    r.lookup? kind (some r.nextScope) name = r.lookup? kind none name := by
  simp [lookup?, entries_next]

theorem scopeByName?_withScope_self (h : r.scopeByName? s.name = none) :
    (r.withScope s).scopeByName? s.name = some r.nextScope := by
  have hnone : r.scopes.findIdx? (·.name == s.name) = none := by simpa [scopeByName?] using h
  simp [scopeByName?, withScope, Array.findIdx?_push, hnone, nextScope]

theorem scopeByName?_withScope_of_ne {name : String} (h : name ≠ s.name) :
    (r.withScope s).scopeByName? name = r.scopeByName? name := by
  have hne : (s.name == name) = false := by simpa using Ne.symm h
  simp [scopeByName?, withScope, Array.findIdx?_push, hne]

-- A scope of that name may be there now, but then nothing is in it.
theorem bind_scopeByName?_withScope (hs : s.Bare) (hname : r.scopeByName? s.name = none)
    (kind : EntryKind) (qualifier bare : String) :
    ((r.withScope s).scopeByName? qualifier).bind
        (fun id => entry? (r.withScope s) kind id bare) =
      (r.scopeByName? qualifier).bind (fun id => r.entry? kind id bare) := by
  by_cases hq : qualifier = s.name
  case pos =>
    rw [hq, scopeByName?_withScope_self hname, hname, Option.bind_some, entries_withScope hs,
      entries_next, Option.bind_none]
  case neg => simp only [scopeByName?_withScope_of_ne hq, entries_withScope hs]

theorem params_withScope_next : (r.withScope s).params r.nextScope = s.params := by
  unfold params
  rw [scope?_withScope_next]
  rfl

theorem component?_withScope_next : (r.withScope s).component? r.nextScope = s.component := by
  unfold component?
  rw [scope?_withScope_next]
  rfl

theorem componentScope?_withScope_self (h : r.scopeByName? s.name = none)
    (hc : s.component.isSome) :
    (r.withScope s).componentScope? s.name = some r.nextScope := by
  unfold componentScope?
  rw [scopeByName?_withScope_self h, Option.filter_some, component?_withScope_next, if_pos hc]

end Registry

end UiMarkup
