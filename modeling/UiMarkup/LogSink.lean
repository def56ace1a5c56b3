import UiMarkup.LogFilter

namespace UiMarkup

inductive Coloring
  | auto | never
deriving DecidableEq, Repr, Inhabited

-- How to set up a log. A filter of its own comes before the one of the environment, and that
-- before the level.
structure LogConfig where
  filter   : Option String := none
  level    : Threshold     := some .info
  coloring : Coloring      := .auto
  captured : Bool          := false
deriving DecidableEq, Repr, Inhabited

namespace LogConfig

def forTests : LogConfig where
  level    := some .debug
  coloring := .never
  captured := true

def chosen (c : LogConfig) (environment : Option String) : LogFilter :=
  match c.filter.or environment with
  | some text => .ofText text
  | none      => { directives := .ofThreshold c.level }

end LogConfig

inductive LogSink
  | unset
  | foreign (most : Threshold)
  | filtered (filter : LogFilter)
deriving Repr, Inhabited

namespace LogSink

def maxLevel : LogSink → Threshold
  | .unset           => none
  | .foreign most    => most
  | .filtered filter => filter.maxLevel

def written : LogSink → List LogLine → List LogLine
  | .filtered filter, lines => lines.filter filter.passes
  | _, _                    => []

def greeting : LogLine where
  level  := .debug
  target := "luixml_scene::logging::init"
  text   := "logging initialized"

def setUp (s : LogSink) (c : LogConfig) (environment : Option String) :
    LogSink × List LogLine :=
  match s with
  | .unset =>
    let s := .filtered (c.chosen environment)
    (s, s.written [greeting])
  | s => (s, [])

theorem setUp_of_ne_unset {s : LogSink} (h : s ≠ .unset) (c : LogConfig)
    (environment : Option String) : s.setUp c environment = (s, []) := by
  cases s with
  | unset => exact absurd rfl h
  | foreign => rfl
  | filtered => rfl

theorem fst_setUp_ne_unset (s : LogSink) (c : LogConfig) (environment : Option String) :
    (s.setUp c environment).1 ≠ .unset := by
  cases s <;> simp [setUp]

end LogSink

end UiMarkup
