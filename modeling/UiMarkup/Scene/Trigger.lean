import UiMarkup.Numeric.Decimal
import UiMarkup.Scene.Basic

namespace UiMarkup

structure Call where
  callback : CallbackId
  code     : EventCode
  target   : ObjId
  userData : Option String
deriving DecidableEq, Repr, Inhabited

-- The number after a step. A sum that leaves the range of 32 bits stays at its end; then one that
-- passes a bound stops there, or starts over at the other one.
def stepped (n step min max : Int) (rollover : Bool) : Int :=
  let next := Decimal.saturate (n + step)
  if max < next then (if rollover then min else max)
  else if next < min then (if rollover then max else min)
  else next

def Action.update : Action → SubjectValue → SubjectValue
  | .toggle _, .int n                           => .int (if n = 0 then 1 else 0)
  | .assign _ value, _                          => value
  | .increment _ step min max rollover, .int n  => .int (stepped n step min max rollover)
  | _, value                                    => value

def Action.subject? : Action → Option SubjectId
  | .toggle id         => some id
  | .assign id _       => some id
  | .increment id ..   => some id
  | _                  => none

namespace Scene

def actions (s : Scene) (id : ObjId) (code : EventCode) : List Action :=
  (((s.obj? id).map (·.hooks)).getD []).filterMap fun (c, a) =>
    if c = code ∨ c = .all then some a else none

def run (id : ObjId) (code : EventCode) (s : Scene) (a : Action) : List Call × Scene :=
  match a with
  | .call callback userData  => ([⟨callback, code, id, userData⟩], s)
  | .loadScreen screen ..    => ([], { s with loadedScreens := s.loadedScreens ++ [screen] })
  | .playTimeline timeline _ _ =>
    ([], { s with playedTimelines := s.playedTimelines ++ [timeline] })
  | a =>
    match a.subject? with
    | some subject => ([], { s with subjects := s.subjects.modify subject.index a.update })
    | none         => ([], s)

-- Fires an event. Which actions run is settled before the first one does.
def send (s : Scene) (id : ObjId) (code : EventCode) : List Call × Scene :=
  (s.actions id code).foldl (fun (calls, s) a =>
    let (more, s) := run id code s a
    (calls ++ more, s)) ([], s)

end Scene

end UiMarkup
