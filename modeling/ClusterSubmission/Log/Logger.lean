import ClusterSubmission.World

/-!
# Loggers

A logger takes records from a level on and writes them to the console or to a file. Asking for a
logger sets its level and where it writes; a handler of the kind that is asked for stays as it is.
-/
namespace ClusterSubmission.Log

/-- The levels by their names. The first name of a level is the one that it is shown under. -/
def levelNames : List (String × Int) :=
  [("CRITICAL", 50), ("FATAL", 50), ("ERROR", 40), ("WARNING", warningLevel),
    ("WARN", warningLevel), ("INFO", infoLevel), ("DEBUG", debugLevel), ("NOTSET", 0)]

def levelOf : Value → Except Reason Int
  | .int n => .ok n
  | .bool b => .ok (if b then 1 else 0)
  | .text s =>
    match levelNames.find? (·.1 == s) with
    | some (_, n) => .ok n
    | none => .error (.levelUnknown s)
  | _ => .error .wrongType

def levelName (level : Int) : String :=
  match levelNames.find? (·.2 == level) with
  | some (name, _) => name
  | none => "Level " ++ Text.intText level

def levelVariable : String := "RESUBMIT_LOG_LEVEL"

/-- The path of the file that a logger is to write to, none for the console. -/
def filePath? : Value → Option String
  | .text s | .path s => some (Text.directPath s)
  | _ => none

def isFile : LogHandler → Bool
  | .file _ => true
  | .console => false

/-- A handler for a file or for the console. The file is there from then on. -/
def newHandler (file : Option String) : Run LogHandler := do
  match file with
  | none => return .console
  | some path =>
    let files ← Run.ofExcept ((← get).files.append path [])
    modify fun w => { w with files }
    return .file path

/-- Sets up the logger with a name, the library's own one by default, and gives the name. The target
is a path, or whether everything from the level on is written; otherwise only warnings are. By
default everything is written if a level is given or set in the environment. -/
def getLogger (name level target : Value) : Run String := do
  let default ← Run.environmentValue? levelVariable
  let level := if level.isSet then level else match default with
    | some s => .text s
    | none => .null
  let target := if target.isNull then .bool !level.isNull else target
  let name ← match name.orElse (.text libraryName) with
    | .text s => pure s
    | _ => Run.fail .wrongType
  let change (f : Logger → Logger) : Run Unit :=
    modify fun w => w.setLogger name (f (w.logger name))
  change fun l => { l with propagate := false }
  let file := filePath? target
  if !((← get).logger name).handlers.any fun h => isFile h == file.isSome then
    change fun l => { l with handlers := [] }
    let handler ← newHandler file
    change fun l => { l with handlers := [handler] }
  let least ← Run.ofExcept (levelOf
    (if target.isSet then level.orElse (.int infoLevel) else .int warningLevel))
  change fun l => { l with level := least }
  return name

end ClusterSubmission.Log
