import UiMarkup.Text.Split

namespace UiMarkup.Preview

structure Job where
  globals    : String
  components : List (String × String) := []
  screen     : String
  assets     : Option String := none
deriving DecidableEq, Repr, Inhabited

inductive Command
  | preview (job : Job)
  | help
  | version
deriving DecidableEq, Repr, Inhabited

inductive Argument
  | operand (text : String)
  | option (name : String) (value : Option String)
  | letter (c : Char)
deriving DecidableEq, Repr, Inhabited

def Argument.ofText (s : String) : Argument :=
  match s.toList with
  | '-' :: '-' :: name =>
    match Text.cutFirst '=' name with
    | some (name, value) => .option (.ofList name) (some (.ofList value))
    | none               => .option (.ofList name) none
  | '-' :: c :: _ => .letter c
  | _             => .operand s

structure Draft where
  operands   : List String := []
  components : List (String × String) := []
  assets     : Option String := none
deriving DecidableEq, Repr, Inhabited

namespace Draft

def addOperand (d : Draft) (path : String) : Option Draft :=
  if path.isEmpty || 2 ≤ d.operands.length then none
  else some { d with operands := d.operands ++ [path] }

def addOption (d : Draft) (name value : String) : Option Draft :=
  match name with
  | "component" =>
    match Text.cutFirst? '=' value with
    | some (name, path) =>
      if name.isEmpty || path.isEmpty then none
      else some { d with components := d.components ++ [(name, path)] }
    | none => none
  | "assets" => if d.assets.isSome then none else some { d with assets := some value }
  | _ => none

def command? (d : Draft) : Option Command :=
  match d.operands with
  | [globals, screen] => some (.preview { d with globals, screen })
  | _ => none

-- Reads the rest of a command line. After `--` there are operands only.
def read? : List String → Draft → Option Command
  | [], d => d.command?
  | arg :: rest, d =>
    if arg = "--" then (rest.foldlM addOperand d).bind command?
    else match Argument.ofText arg with
      | .operand path => (d.addOperand path).bind (read? rest)
      | .letter 'V' | .option "version" none => some .version
      | .letter 'h' | .option "help" none => some .help
      | .letter _ => none
      | .option name (some value) => (d.addOption name value).bind (read? rest)
      | .option name none =>
        match rest with
        | [] => none
        | next :: rest =>
          match Argument.ofText next with
          | .operand value => (d.addOption name value).bind (read? rest)
          | _ => none

end Draft

def Command.ofArgs? (args : List String) : Option Command :=
  Draft.read? args {}

def versionText : String :=
  "luixml-preview 0.1.0\n"

def helpText : String :=
  "Prints the object tree a luixml screen builds

Usage: luixml-preview [OPTIONS] <GLOBALS> <SCREEN>

Arguments:
  <GLOBALS>  Document with the `<globals>` definitions
  <SCREEN>   Screen document, registered under its file stem

Options:
      --component <NAME=PATH>  Registers a component from a file; repeatable
      --assets <PREFIX>        Prefix for relative image and font paths
  -h, --help                   Print help
  -V, --version                Print version
"

end UiMarkup.Preview
