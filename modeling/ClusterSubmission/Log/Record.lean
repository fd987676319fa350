import ClusterSubmission.Log.Layout
import ClusterSubmission.Log.Logger
import ClusterSubmission.Value.Template

/-!
# Log records

A record is given to a logger, which writes it if its level is high enough: to a file as a line of
its own, to the console as markup in columns. A message that cannot be formed is left out of a file,
and fails on the console.
-/
namespace ClusterSubmission.Log

/-- A record: its level, a template for the message, its arguments, and the place in a program that
it comes from. -/
structure Record where
  level : Int
  message : Value
  arguments : List Value := []
  path : String
  line : Int

def Record.text (r : Record) : Except Reason String := Template.fill r.message.plain r.arguments

def Record.place (r : Record) : String :=
  let name := Text.pathName r.path
  if name == "" || r.line = 0 then name else name ++ ":" ++ Text.intText r.line

def Record.console (r : Record) (logger : String) (width : Nat) : Except Reason (List String) := do
  let message ← renderMarkup ("[bold]" ++ logger ++ "[/] - " ++ (← r.text))
  return consoleLines width (levelName r.level) message r.place.toList

def Record.fileLine (r : Record) (logger : String) : Except Reason String := do
  return "[" ++ levelName r.level ++ " 1970-01-01 00:00:00 " ++ logger ++ "] : " ++ (← r.text)
    ++ "\n"

/-- Writes a record to where a handler writes. Nothing is written to a file that is gone. -/
def Record.write (r : Record) (logger : String) (width : Nat) : LogHandler → Run Unit
  | .console => do
    let lines ← Run.ofExcept (r.console logger width)
    modify fun w => { w with console := lines.reverse ++ w.console }
  | .file path => do
    match r.fileLine logger, (← get).files.find? path with
    | .ok line, some _ =>
      let files ← Run.ofExcept ((← get).files.append path (Text.utf8 line))
      modify fun w => { w with files }
    | _, _ => pure ()

def record (logger : String) (width : Nat) (r : Record) : Run Unit := do
  let w ← get
  if w.isLogged logger r.level then
    for h in (w.logger logger).handlers do
      r.write logger width h

end ClusterSubmission.Log
