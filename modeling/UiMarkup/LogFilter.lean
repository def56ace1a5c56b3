import UiMarkup.Assoc
import UiMarkup.Diagnostic
import UiMarkup.Pattern.Reader

namespace UiMarkup

namespace Level

def values : List Level :=
  [.error, .warn, .info, .debug, .trace]

def word : Level → String
  | .error => "error"
  | .warn  => "warn"
  | .info  => "info"
  | .debug => "debug"
  | .trace => "trace"

def detail : Level → Nat
  | .error => 1
  | .warn  => 2
  | .info  => 3
  | .debug => 4
  | .trace => 5

end Level

structure LogLine where
  level  : Level
  target : String
  text   : String
deriving DecidableEq, Repr, Inhabited

abbrev Threshold := Option Level

namespace Threshold

def detail : Threshold → Nat
  | none       => 0
  | some level => level.detail

def admits (t : Threshold) (level : Level) : Bool :=
  level.detail ≤ t.detail

def ofWord? (word : String) : Option Threshold :=
  if word.toLower = "off" then some none
  else (Level.values.find? (·.word = word.toLower)).map some

def max (t t' : Threshold) : Threshold :=
  if t.detail < t'.detail then t' else t

theorem detail_max (t t' : Threshold) : (t.max t').detail = Nat.max t.detail t'.detail := by
  simp only [max, Nat.max_def]
  split <;> split <;> omega

end Threshold

-- Thresholds by the beginnings of targets; `none` stands for every target.
abbrev LogDirectives := Assoc (Option String) Threshold

namespace LogDirectives

def ofThreshold (t : Threshold) : LogDirectives :=
  [(none, t)]

def fallback : LogDirectives :=
  ofThreshold (some .error)

def directive? (item : String) : Option (Option String × Threshold) :=
  match Text.split '=' item with
  | [word] => some (((Threshold.ofWord? word).map (none, ·)).getD (some word, some .trace))
  | [target, word] =>
    match Text.trimmed word with
    | ""   => some (some target, some .trace)
    | word => (Threshold.ofWord? word).map (some target, ·)
  | _ => none

def ofText (s : String) : LogDirectives :=
  let items := ((Text.split ',' s).map Text.trimmed).filter (!·.isEmpty)
  match items.filterMap directive? with
  | []         => fallback
  | directives => directives.foldl (fun ds d => Assoc.set ds d.1 d.2) []

def covers (target : String) : Option String → Bool
  | none      => true
  | some lead => Text.begins lead target

def width : Option String → Nat
  | none      => 0
  | some lead => lead.utf8ByteSize

-- The directive that decides about a target: the last of the longest ones that cover it.
def deciding? (ds : LogDirectives) (target : String) : Option (Option String × Threshold) :=
  (ds.filter (covers target ·.1)).foldl
    (fun best d => if width d.1 < (best.map (width ·.1)).getD 0 then best else some d) none

def admits (ds : LogDirectives) (line : LogLine) : Bool :=
  match ds.deciding? line.target with
  | some (_, t) => t.admits line.level
  | none        => false

def maxLevel (ds : LogDirectives) : Threshold :=
  ds.foldl (fun t d => t.max d.2) none

theorem detail_le_foldl_max (ds : LogDirectives) (t : Threshold) :
    t.detail ≤ (ds.foldl (fun t d => t.max d.2) t).detail ∧
    ∀ d ∈ ds, d.2.detail ≤ (ds.foldl (fun t d => t.max d.2) t).detail := by
  induction ds generalizing t with
  | nil => simp
  | cons d ds ih =>
    have ⟨h, h'⟩ := ih (t.max d.2)
    rw [Threshold.detail_max] at h
    refine ⟨Nat.le_trans (Nat.le_max_left ..) h, fun d' hd => ?_⟩
    cases hd with
    | head => exact Nat.le_trans (Nat.le_max_right ..) h
    | tail _ hd => exact h' d' hd

theorem mem_of_foldl_some {α : Type} {p : Option α → α → Bool} {xs : List α} {best : Option α}
    {a : α} (h : xs.foldl (fun best d => if p best d then best else some d) best = some a) :
    best = some a ∨ a ∈ xs := by
  induction xs generalizing best with
  | nil => exact .inl h
  | cons x xs ih =>
    cases ih h with
    | inr h => exact .inr (.tail _ h)
    | inl h =>
      dsimp only at h
      split at h
      case isTrue => exact .inl h
      case isFalse => cases h; exact .inr (.head _)

theorem mem_of_deciding? {ds : LogDirectives} {target : String} {d : Option String × Threshold}
    (h : ds.deciding? target = some d) : d ∈ ds := by
  have h : (ds.filter (covers target ·.1)).foldl (fun best d =>
      if decide (width d.1 < (best.map (width ·.1)).getD 0) then best else some d) none =
      some d := by
    simpa [deciding?] using h
  cases mem_of_foldl_some h with
  | inl h => cases h
  | inr h => exact (List.mem_filter.1 h).1

theorem detail_le_maxLevel_of_admits {ds : LogDirectives} {line : LogLine} (h : ds.admits line) :
    line.level.detail ≤ ds.maxLevel.detail := by
  simp only [admits] at h
  split at h
  case h_1 t hd =>
    have := (detail_le_foldl_max ds none).2 _ (mem_of_deciding? hd)
    exact Nat.le_trans (by simpa [Threshold.admits] using h) this
  case h_2 => cases h

end LogDirectives

structure LogFilter where
  directives : LogDirectives
  pattern    : Option Pattern := none
deriving Repr, Inhabited

namespace LogFilter

-- Directives and, behind a slash, a pattern, which is left out if it cannot be read. With a second
-- slash all of the text means nothing.
def ofText (s : String) : LogFilter :=
  match Text.split '/' s with
  | [directives] => { directives := .ofText directives }
  | [directives, pattern] =>
    { directives := .ofText directives, pattern := Pattern.ofText? pattern }
  | _ => { directives := .fallback }

def passes (f : LogFilter) (line : LogLine) : Bool :=
  f.directives.admits line && f.pattern.all (·.isFoundIn line.text)

def maxLevel (f : LogFilter) : Threshold :=
  f.directives.maxLevel

theorem detail_le_maxLevel_of_passes {f : LogFilter} {line : LogLine} (h : f.passes line) :
    line.level.detail ≤ f.maxLevel.detail := by
  simp only [passes, Bool.and_eq_true] at h
  exact LogDirectives.detail_le_maxLevel_of_admits h.1

end LogFilter

end UiMarkup
