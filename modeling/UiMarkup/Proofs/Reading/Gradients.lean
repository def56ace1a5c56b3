import UiMarkup.Proofs.Build.Filing
import UiMarkup.Proofs.Reading.Values

namespace UiMarkup

open Markup

open Build (gradientShape?)
open Reading

structure GradientStop.Described (attrs : Attrs) (stop : GradientStop) : Prop where
  color    : Said SaysColor .black (attrs.get? "color") stop.color
  opacity  : Said SaysOpacity .cover (attrs.get? "opa") stop.opacity
  position : Said SaysLevel 0 (attrs.get? "frac") stop.position

inductive GradientExtend.Named : String → GradientExtend → Prop
  | repeat  : Named "repeat" .repeat
  | reflect : Named "reflect" .reflect
  | pad {s : String} (h₁ : s ≠ "repeat") (h₂ : s ≠ "reflect") : Named s .pad

inductive GradientGeometry.Described (attrs : Attrs) : GradientDir → GradientGeometry → Prop
  | linear {start stop : Point} (h₁ : Said SaysPoint (0, 0) (attrs.get? "start") start)
    (h₂ : Said SaysPoint (0, 0) (attrs.get? "end") stop) :
    Described attrs .linear (.linear start stop)
  | radial {center : Point} {radius : Int}
    (h₁ : Said SaysPoint (0, 0) (attrs.get? "center") center)
    (h₂ : Said SaysInt 0 (attrs.get? "radius") radius) :
    Described attrs .radial (.radial center radius)
  | conical {center angles : Point} (h₁ : Said SaysPoint (0, 0) (attrs.get? "center") center)
    (h₂ : Said SaysPoint (0, 360) (attrs.get? "angle") angles) :
    Described attrs .conical (.conical center angles.1 angles.2)
  | hor : Described attrs .hor .simple
  | ver : Described attrs .ver .simple

namespace Gradient

def directions : Assoc String GradientDir := [
  ("linear_gradient",     .linear),
  ("radial_gradient",     .radial),
  ("conical_gradient",    .conical),
  ("horizontal_gradient", .hor),
  ("vertical_gradient",   .ver)]

structure Described (e : Node) (g : Gradient) : Prop where
  dir      : (e.tag, g.dir) ∈ directions
  geometry : GradientGeometry.Described e.attrs g.dir g.geometry
  spread   : Said GradientExtend.Named .pad (e.attrs.get? "extend") g.spread
  stops    : List.Forall₂ GradientStop.Described (e.body.collect fun _ attrs => [attrs]) g.stops

end Gradient

def Markup.Forest.IsGradients (f : Forest) : Prop :=
  f.HasGroups ⟨.gradient, Gradient.directions.contains⟩ ⟨.stop, ["stop"].contains⟩

instance {f : Forest} : Decidable f.IsGradients :=
  inferInstanceAs (Decidable (f.HasGroups _ _))

-- What is said is what is read.

section Read

variable {tag name : String} {attrs : Attrs} {body : Forest} {dir : GradientDir}

def GradientStop.ofAttrs (attrs : Attrs) : GradientStop where
  color    := ((attrs.get? "color").map fun s => (Reading.color s).value).getD .black
  opacity  := ((attrs.get? "opa").map Reading.opacity).getD .cover
  position := ((attrs.get? "frac").map Reading.level).getD 0

theorem GradientStop.described_iff {stop : GradientStop} :
    Described attrs stop ↔ ofAttrs attrs = stop := by
  constructor
  case mp =>
    intro h
    rw [ofAttrs, answers_color.said_iff.mp h.color, answers_opacity.said_iff.mp h.opacity,
      answers_level.said_iff.mp h.position]
  case mpr =>
    rintro rfl
    exact ⟨answers_color.said_iff.mpr rfl, answers_opacity.said_iff.mpr rfl,
      answers_level.said_iff.mpr rfl⟩

theorem GradientExtend.pad_of_ne {s : String} (h₁ : s ≠ "repeat") (h₂ : s ≠ "reflect") :
    (Vocabulary.ofToken? s).getD GradientExtend.pad = .pad := by
  cases h : (Vocabulary.ofToken? s : Option GradientExtend)
  case none   => rfl
  case some e =>
    have hs := Vocabulary.token_of_ofToken? h
    cases e
    case pad      => rfl
    case «repeat» => exact absurd hs.symm h₁
    case reflect  => exact absurd hs.symm h₂

theorem GradientExtend.answers_named :
    Answers (fun s => (Vocabulary.ofToken? s).getD .pad) GradientExtend.Named where
  sound s := by
    by_cases h₁ : s = "repeat"
    case pos => exact h₁ ▸ .repeat
    case neg =>
      by_cases h₂ : s = "reflect"
      case pos => exact h₂ ▸ .reflect
      case neg => exact (pad_of_ne h₁ h₂).symm ▸ .pad h₁ h₂
  complete := by
    intro s e h
    cases h
    case «repeat»  => rfl
    case reflect   => rfl
    case pad h₁ h₂ => exact pad_of_ne h₁ h₂

theorem GradientExtend.said_iff {e : GradientExtend} :
    Said Named .pad (attrs.get? "extend") e ↔ Build.spread attrs = e := by
  rw [answers_named.said_iff, Build.spread]
  cases attrs.get? "extend" <;> rfl

theorem GradientGeometry.described_iff {g : GradientGeometry} (hdir : dir ≠ .none) :
    Described attrs dir g ↔ Build.geometry dir attrs = g := by
  constructor
  case mp =>
    intro h
    cases h
    case linear h₁ h₂ =>
      exact congrArg₂ linear (answers_point.said_iff.mp h₁) (answers_point.said_iff.mp h₂)
    case radial h₁ h₂ =>
      exact congrArg₂ radial (answers_point.said_iff.mp h₁) (answers_int.said_iff.mp h₂)
    case conical h₁ h₂ =>
      exact congrArg₂ (fun center angles : Point => conical center angles.1 angles.2)
        (answers_point.said_iff.mp h₁) (answers_point.said_iff.mp h₂)
    case hor => rfl
    case ver => rfl
  case mpr =>
    rintro rfl
    cases dir
    case none    => exact absurd rfl hdir
    case linear  => exact .linear (answers_point.said_iff.mpr rfl) (answers_point.said_iff.mpr rfl)
    case radial  => exact .radial (answers_point.said_iff.mpr rfl) (answers_int.said_iff.mpr rfl)
    case conical =>
      exact .conical (answers_point.said_iff.mpr rfl) (answers_point.said_iff.mpr rfl)
    case hor     => exact .hor
    case ver     => exact .ver

namespace Gradient

theorem get?_directions (tag : String) : directions.get? tag = gradientShape? tag := by
  unfold gradientShape?
  split
  case h_6 h₁ h₂ h₃ h₄ h₅ =>
    refine Assoc.get?_of_forall_ne ?_
    simp only [directions, List.forall_mem_cons]
    exact ⟨Ne.symm h₁, Ne.symm h₂, Ne.symm h₃, Ne.symm h₄, Ne.symm h₅, by simp⟩
  all_goals rfl

theorem mem_directions_iff : (tag, dir) ∈ directions ↔ gradientShape? tag = some dir := by
  have hown : ∀ e ∈ directions, gradientShape? e.1 = some e.2 := by decide
  exact ⟨hown (tag, dir), fun h => Assoc.mem_of_get? (get?_directions tag ▸ h)⟩

end Gradient

def Markup.Forest.stops (f : Forest) : List GradientStop :=
  f.collect fun _ attrs => [.ofAttrs attrs]

theorem Markup.Forest.forall₂_stops_iff {stops : List GradientStop} :
    List.Forall₂ GradientStop.Described (body.collect fun _ attrs => [attrs]) stops ↔
      body.stops = stops := by
  have hstops : body.stops = (body.collect fun _ attrs => [attrs]).map .ofAttrs :=
    body.collect_map (fun _ attrs => [attrs]) GradientStop.ofAttrs
  have hread : GradientStop.Described = fun attrs stop => GradientStop.ofAttrs attrs = stop := by
    funext attrs stop
    exact propext GradientStop.described_iff
  rw [hread, hstops, ← List.forall₂_eq_eq_eq, List.forall₂_map_left_iff]

namespace Gradient

def ofNode (dir : GradientDir) (e : Node) : Gradient where
  dir
  geometry := Build.geometry dir e.attrs
  spread   := Build.spread e.attrs
  stops    := e.body.stops

theorem described_iff {e : Node} {g : Gradient} (hdir : gradientShape? e.tag = some dir) :
    Described e g ↔ g = ofNode dir e := by
  have hne : ∀ e ∈ directions, e.2 ≠ .none := by decide
  have hmem := mem_directions_iff.mpr hdir
  constructor
  case mp =>
    intro h
    have hsame : g.dir = dir :=
      Option.some.inj ((mem_directions_iff.mp h.dir).symm.trans hdir)
    have hgeometry := h.geometry
    rw [hsame] at hgeometry
    rw [ofNode, (GradientGeometry.described_iff (hne _ hmem)).mp hgeometry,
      GradientExtend.said_iff.mp h.spread, Forest.forall₂_stops_iff.mp h.stops, ← hsame]
  case mpr =>
    rintro rfl
    exact ⟨hmem, (GradientGeometry.described_iff (hne _ hmem)).mpr rfl,
      GradientExtend.said_iff.mpr rfl, Forest.forall₂_stops_iff.mpr rfl⟩

end Gradient

end Read

end UiMarkup
