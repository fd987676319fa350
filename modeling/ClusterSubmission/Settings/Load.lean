import ClusterSubmission.Log.Logger
import ClusterSubmission.Settings.Basic
import ClusterSubmission.Settings.VariableFile
import ClusterSubmission.Yaml.Content
import ClusterSubmission.Yaml.Writer

/-!
# Loading and writing settings

Settings come from a file, from the environment, which variable files extend, and from the caller.
What comes later wins. The merged settings have to fit the model; then they take effect.
-/
namespace ClusterSubmission.Settings

def configurationDirectory : String := ".resubmit"

def defaultFile : String := Text.pathBelow configurationDirectory "submit.yaml"

def variableFiles : List String := [Text.pathBelow configurationDirectory ".env", ".env"]

def filePath (path : Value) : Except Reason String :=
  match path.orElse (.text defaultFile) with
  | .text s | .path s => .ok (Text.normalPath s)
  | _ => .error .wrongType

/-- The settings in a file, none if there is no such file. -/
def readFile (path : String) : Run (List (Value × Value)) := do
  match (← get).files.read path with
  | .error (.notFound _) =>
    Run.debug ("No settings file at " ++ path)
    return []
  | .error r => Run.fail r
  | .ok (bs, _) =>
    match Yaml.content bs with
    | .error .malformedDocument =>
      throw ((Reason.settingsUnreadable path Reason.malformedDocument.message).failure.causedBy
        Reason.malformedDocument.failure)
    | .error r => Run.fail r
    | .ok v =>
      if !v.isSet then return []
      else match v with
        | .mapping entries => return entries
        | _ => Run.fail (.settingsNotMapping path)

def readVariables (path : String) : Run (List (String × Option String)) := do
  match (← get).files.read path with
  | .error _ => return []
  | .ok (bs, _) =>
    match Text.ofUtf8? bs with
    | some text => return VariableFile.read (← get).environment text
    | none => Run.fail .illFormedText

def hasNul (s : String) : Bool := s.toList.contains '\x00'

def setVariable (name value : String) : Run Unit := do
  if (← Run.environmentValue? name).isNone then
    if hasNul name || hasNul value then Run.fail .variableWithNul
    else if name.toList.contains '=' then Run.fail .variableNameInvalid
    else modify fun w => { w with environment := w.environment ++ [(name, value)] }

/-- Sets the variables of the variable files that have a value and are not set yet. -/
def loadVariables : Run Unit := do
  Run.debug "Loading environment variables from .env files..."
  let files ← variableFiles.mapM readVariables
  let merged := files.foldl
    (fun done file => file.foldl (fun done v => VariableFile.store done v.1 v.2) done) []
  for (name, value) in merged do
    match value with
    | some value => setVariable name value
    | none => pure ()

/-- Whether certificates are verified, by a word; any other word is a path. -/
def verifyOf (s : String) : Value :=
  let word := Text.lower (Text.strip s)
  if ["1", "true", "yes"].contains word then .bool true
  else if ["0", "false", "no"].contains word then .bool false
  else .text s

/-- The settings that the environment gives. Proxies are never among them. -/
def ofEnvironment : Run (List (Value × Value)) := do
  let found ← (names.filter (· != "proxies")).mapM fun name => do
    let value ← Run.environmentValue? ("RESUBMIT_" ++ Text.upper name)
    return value.toList.map fun s =>
      (Value.text name,
        if name == "verify" then verifyOf s
        else if name == "auth" then .text (Text.lower s)
        else .text s)
  return found.flatten

/-- Loads the settings: those of a file, of the environment, and those given outright unless they
are null. A level among them sets the level of the library's own logger. -/
def load (path : Value) (given : List (String × Value)) : Run Settings := do
  if given.any fun g => g.1 == "path" || g.1 == "cls" then Run.fail .wrongType
  let fromFile ← readFile (← Run.ofExcept (filePath path))
  loadVariables
  let merged := Value.update fromFile (← ofEnvironment)
  let chosen := given.filter fun g => !g.2.isNull
  let merged := Value.update merged (chosen.map fun g => (.text g.1, g.2))
  if !Value.entriesBelow textBound merged then Run.fail .integerTextTooLong
  Run.debug ("Loaded settings: " ++ (Value.mapping merged).literal)
  match Message.readValue .lenient .settings (.mapping merged) with
  | .error r =>
    match r.kind with
    | .mismatch => throw ((Reason.settingsInvalid r.message).failure.causedBy r.failure)
    | _ => Run.fail r
  | .ok part =>
    let s := ofPart part
    match s.logLevel with
    | .text level =>
      if level != "" then
        let _ ← Log.getLogger (.text libraryName) (.text (Text.upper level)) .null
      return s
    | _ => return s

/-- Writes the given settings to a file and gives its path. The file is there even if they have no
text. -/
def write (given : List (String × Value)) (path : Value) : Run String := do
  let path ← Run.ofExcept (filePath path)
  Run.debug ("Writing settings to " ++ path)
  let files ← Run.ofExcept ((← get).files.place path [])
  modify fun w => { w with files }
  let text ← Run.ofExcept (do Yaml.write (← (toPart given).wireForm))
  let files ← Run.ofExcept ((← get).files.write path (Text.utf8 text))
  modify fun w => { w with files }
  return path

end ClusterSubmission.Settings
