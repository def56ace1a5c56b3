import UiMarkup.LogSink
import UiMarkup.Preview.Run

open UiMarkup Preview

def fileText? (path : String) : IO (Option String) := do
  try
    return some (← IO.FS.readFile path)
  catch _ =>
    return none

def fileTexts (job : Job) : IO (Assoc String String) := do
  let mut texts : Assoc String String := []
  for path in job.globals :: job.screen :: job.components.map (·.2) do
    if let some text ← fileText? path then
      texts := Assoc.set texts path text
  return texts

def runJob (job : Job) : IO UInt32 := do
  let texts ← fileTexts job
  let (result, log) := run (Assoc.get? texts) job
  let (sink, _) := LogSink.unset.setUp {} none
  let lines := log.toList.map fun d => { level := d.level, target := "", text := d.message }
  for line in sink.written lines do
    IO.eprintln ("[" ++ line.level.word.toUpper ++ "] " ++ line.text)
  match result with
  | .ok listing =>
    IO.print listing
    return 0
  | .error failure =>
    IO.eprintln ("Error: " ++ failure.message)
    if let some cause := failure.cause? then
      IO.eprintln ("\nCaused by:\n    " ++ cause.message)
    return 1

def main (args : List String) : IO UInt32 := do
  match Command.ofArgs? args with
  | some (.preview job) => runJob job
  | some .version =>
    IO.print versionText
    return 0
  | some .help =>
    IO.print helpText
    return 0
  | none =>
    IO.eprint helpText
    return 2
