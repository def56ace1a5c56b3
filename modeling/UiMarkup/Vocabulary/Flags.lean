import UiMarkup.Assoc

namespace UiMarkup

structure ObjFlags where
  bits : BitVec 32
deriving DecidableEq, Repr, Inhabited

namespace ObjFlags

def none : ObjFlags := ⟨0⟩

def names : List String := [
  "hidden", "clickable", "click_focusable", "checkable", "scrollable", "scroll_elastic",
  "scroll_momentum", "scroll_one", "scroll_chain_hor", "scroll_chain_ver", "scroll_on_focus",
  "scroll_with_arrow", "snappable", "press_lock", "event_bubble", "gesture_bubble", "adv_hittest",
  "ignore_layout", "floating", "send_draw_task_events", "overflow_visible", "flex_in_new_track"]

def ofName? (name : String) : Option ObjFlags :=
  (names.idxOf? name).map fun i => ⟨1#32 <<< i⟩

def switch (f flag : ObjFlags) (on : Bool) : ObjFlags :=
  ⟨if on then f.bits ||| flag.bits else f.bits &&& ~~~flag.bits⟩

end ObjFlags

structure States where
  bits : BitVec 32
deriving DecidableEq, Repr, Inhabited

namespace States

def none : States := ⟨0⟩
def any : States := ⟨0xffff⟩

def names : Assoc String States := [
  ("default",   none),
  ("checked",   ⟨0x0001⟩),
  ("focused",   ⟨0x0002⟩),
  ("focus_key", ⟨0x0004⟩),
  ("edited",    ⟨0x0008⟩),
  ("hovered",   ⟨0x0010⟩),
  ("pressed",   ⟨0x0020⟩),
  ("scrolled",  ⟨0x0040⟩),
  ("disabled",  ⟨0x0080⟩),
  ("user_1",    ⟨0x1000⟩),
  ("user_2",    ⟨0x2000⟩),
  ("user_3",    ⟨0x4000⟩),
  ("user_4",    ⟨0x8000⟩),
  ("any",       any)]

def ofName? (name : String) : Option States :=
  Assoc.get? names name

-- The states that make sense as a switch: all but the empty one and the full one.
def single? (name : String) : Option States :=
  (ofName? name).filter fun s => s ≠ none && s ≠ any

def switch (s state : States) (on : Bool) : States :=
  ⟨if on then s.bits ||| state.bits else s.bits &&& ~~~state.bits⟩

end States

-- A part of an object; the high half of a selector. Parts are numbered, not combined, but a
-- selector joins their bits like any others.
structure Part where
  bits : BitVec 32
deriving DecidableEq, Repr, Inhabited

namespace Part

def names : Assoc String Part := [
  ("main",         ⟨0x00000⟩),
  ("scrollbar",    ⟨0x10000⟩),
  ("indicator",    ⟨0x20000⟩),
  ("knob",         ⟨0x30000⟩),
  ("selected",     ⟨0x40000⟩),
  ("items",        ⟨0x50000⟩),
  ("cursor",       ⟨0x60000⟩),
  ("custom_first", ⟨0x80000⟩),
  ("any",          ⟨0xf0000⟩)]

def ofName? (name : String) : Option Part :=
  Assoc.get? names name

end Part

structure Selector where
  bits : BitVec 32
deriving DecidableEq, Repr, Inhabited

namespace Selector

def default : Selector := ⟨0⟩

instance : OrOp Selector := ⟨fun a b => ⟨a.bits ||| b.bits⟩⟩

def ofStates (s : States) : Selector := ⟨s.bits⟩
def ofPart (p : Part) : Selector := ⟨p.bits⟩

def states (s : Selector) : States := ⟨s.bits &&& 0xffff⟩
def part (s : Selector) : Part := ⟨s.bits &&& 0xff0000⟩

end Selector

structure BorderSides where
  bits : BitVec 8
deriving DecidableEq, Repr, Inhabited

namespace BorderSides

def none : BorderSides := ⟨0⟩

instance : OrOp BorderSides := ⟨fun a b => ⟨a.bits ||| b.bits⟩⟩

def names : Assoc String BorderSides := [
  ("none",     none),
  ("bottom",   ⟨0x01⟩),
  ("top",      ⟨0x02⟩),
  ("left",     ⟨0x04⟩),
  ("right",    ⟨0x08⟩),
  ("full",     ⟨0x0f⟩),
  ("internal", ⟨0x10⟩)]

end BorderSides

structure CellControls where
  bits : BitVec 8
deriving DecidableEq, Repr, Inhabited

namespace CellControls

def none : CellControls := ⟨0⟩

instance : OrOp CellControls := ⟨fun a b => ⟨a.bits ||| b.bits⟩⟩

def names : Assoc String CellControls := [
  ("none",        none),
  ("merge_right", ⟨0x01⟩),
  ("text_crop",   ⟨0x02⟩),
  ("custom_1",    ⟨0x10⟩),
  ("custom_2",    ⟨0x20⟩),
  ("custom_3",    ⟨0x40⟩),
  ("custom_4",    ⟨0x80⟩)]

end CellControls

end UiMarkup
