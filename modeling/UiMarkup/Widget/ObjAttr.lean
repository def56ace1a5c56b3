import UiMarkup.Attrs
import UiMarkup.Widget.Env

namespace UiMarkup.ObjAttr

def props : Assoc String (String → Noted ObjProp) := [
  ("name",   fun s => pure (.name s)),
  ("x",      fun s => pure (.x (Reading.size s))),
  ("y",      fun s => pure (.y (Reading.size s))),
  ("width",  fun s => pure (.width (Reading.size s))),
  ("height", fun s => pure (.height (Reading.size s))),
  ("align",  fun s => .align <$> Reading.token s)]

def styles (env : Env) (text : String) : Edits :=
  Noted.collect (fun w =>
    let (name, selector) := Reading.styleSelector w
    env.addStyle name selector) (Text.words text)

def switch? (name : String) : Option (Bool → Edit) :=
  ((ObjFlags.ofName? name).map Edit.flag).or ((States.single? name).map Edit.state)

def edits (env : Env) (name text : String) : Edits :=
  match Assoc.get? props name with
  | some read => (fun p => [.prop p]) <$> read text
  | none =>
    if name = "styles" then styles env text
    else if name = "bind_checked" then env.bind text .checked "bind_checked"
    else match Text.after? "style_" name with
      | some key => env.localStyle key text
      | none =>
        match switch? name with
        | some edit => (fun on => [edit on]) <$> Reading.bool text
        | none      => pure []

def accepts (name : String) : Bool :=
  Assoc.contains props name || name == "styles" || name == "bind_checked" ||
  Text.begins "style_" name || (switch? name).isSome

def apply (env : Env) (attrs : Attrs) : Edits :=
  Noted.collect (fun a => edits env a.1 a.2) attrs

end UiMarkup.ObjAttr
