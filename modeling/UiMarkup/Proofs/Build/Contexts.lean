import UiMarkup.Proofs.Build.Elements
import UiMarkup.Proofs.Widget.Agreement

namespace UiMarkup

open Markup

namespace Markup.Forest

def mapAttrs (f : Attrs → Attrs) : Forest → Forest
  | empty => empty
  | element tag attrs brief body rest =>
    element tag (f attrs) brief (body.mapAttrs f) (rest.mapAttrs f)

def height : Forest → Nat
  | empty => 0
  | element _ _ _ body rest => max (body.height + 1) rest.height

variable {f : Forest}

theorem Every.mono {P Q : String → Attrs → Prop} (h : f.Every P)
    (hpq : ∀ {tag attrs}, P tag attrs → Q tag attrs) : f.Every Q := by
  induction f
  case empty => trivial
  case element hbody hrest => exact ⟨hpq h.1, hbody h.2.1, hrest h.2.2⟩

theorem mapAttrs_id : f.mapAttrs id = f := by
  induction f
  case empty => rfl
  case element hbody hrest => rw [mapAttrs, hbody, hrest, id]

theorem every_mapAttrs {σ : Attrs → Attrs} {P : String → Prop} (h : f.Every fun tag _ => P tag) :
    (f.mapAttrs σ).Every fun tag _ => P tag := by
  induction f
  case empty => trivial
  case element hbody hrest => exact ⟨h.1, hbody h.2.1, hrest h.2.2⟩

end Markup.Forest

namespace Context

def Agrees (ok : String → Prop) (c₁ c₂ : Context) : Prop :=
  ∀ s, (c₁.env s).Agrees ok (c₂.env s)

variable {ok : String → Prop} {c c₁ c₂ : Context} {t : WidgetTable}

theorem perform_congr (h : c₁.Agrees ok c₂) (p : Processor) (parent : Option ObjId) {attrs : Attrs}
    (ha : ∀ a ∈ attrs, a.1 = "timeline" → ok a.2) (s : Scene) :
    c₁.perform p parent attrs s = c₂.perform p parent attrs s := by
  unfold perform
  rw [(h s).create]
  split
  case h_1 => rfl
  case h_2 s' _ => rw [(h s').apply ha]

def SameAttrs (ok : String → Prop) (c₁ c₂ : Context) (attrs₁ attrs₂ : Attrs) : Prop :=
  c₁.read attrs₁ = c₂.read attrs₂ ∧ ∀ a ∈ c₂.read attrs₂, a.1 = "timeline" → ok a.2

theorem enter_congr (h : c₁.Agrees ok c₂) (parent : Option ObjId) (tag : String)
    {attrs₁ attrs₂ : Attrs} (ha : SameAttrs ok c₁ c₂ attrs₁ attrs₂) (s : Scene) :
    c₁.enter t parent tag attrs₁ s = c₂.enter t parent tag attrs₂ s := by
  unfold enter
  split
  case h_1 => rfl
  case h_2 p _ => rw [ha.1, perform_congr h p parent ha.2]

theorem grow_congr (h : c₁.Agrees ok c₂) {σ : Attrs → Attrs} {f : Forest}
    (hf : f.Every fun _ attrs => SameAttrs ok c₁ c₂ (σ attrs) attrs) (levels : Nat)
    (parent : Option ObjId) (s : Scene) :
    c₁.grow t levels parent (f.mapAttrs σ) s = c₂.grow t levels parent f s := by
  induction f generalizing levels parent s
  case empty => rfl
  case element tag attrs brief body rest hbody hrest =>
    obtain ⟨ha, hfbody, hfrest⟩ := hf
    cases levels
    case zero => rfl
    case succ levels =>
      rw [Forest.mapAttrs, grow, grow, enter_congr h parent tag ha]
      dsimp only
      rw [hbody hfbody, hrest hfrest]

-- More levels than the elements need make no difference.
theorem grow_levels {f : Forest} {l₁ l₂ : Nat} (h₁ : f.height ≤ l₁) (h₂ : f.height ≤ l₂)
    (parent : Option ObjId) (s : Scene) : c.grow t l₁ parent f s = c.grow t l₂ parent f s := by
  induction f generalizing l₁ l₂ parent s
  case empty => rfl
  case element tag attrs brief body rest hbody hrest =>
    rw [Forest.height] at h₁ h₂
    obtain ⟨n₁, rfl⟩ := Nat.exists_eq_add_one.mpr (show 0 < l₁ by omega)
    obtain ⟨n₂, rfl⟩ := Nat.exists_eq_add_one.mpr (show 0 < l₂ by omega)
    rw [grow, grow]
    dsimp only
    rw [hbody (by omega : body.height ≤ n₁) (by omega : body.height ≤ n₂),
      hrest (by omega : rest.height ≤ n₁ + 1) (by omega : rest.height ≤ n₂ + 1)]

end Context

end UiMarkup
