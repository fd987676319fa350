import ClusterSubmission.Failure

/-!
# The launch command

The command that starts the driver inside its container: tokens in a fixed order, each part taken
from what was set last. The command line that the cluster runs joins the tokens with spaces.
-/
namespace ClusterSubmission

/-- A value as a sequence of values: null is empty, and what has no members stands for itself. Text
and bytes are not taken apart. -/
def Value.asSequence : Value → List Value
  | .null => []
  | .text s => [.text s]
  | .bytes bs => [.bytes bs]
  | v => v.members?.getD [v]

def Value.isSequence : Value → Bool
  | .text _ | .bytes _ => false
  | v => v.members?.isSome

def Value.asTokens (v : Value) : List String := v.asSequence.map Value.plain

/-- Why a sequence has no tokens, if it has none: the first of its members that have no text. -/
def Value.tokenFault? (v : Value) : Option Reason := v.asSequence.findSome? Value.textFault?

/-- The tokens of a sequence whose members have a text. -/
def Value.tokens (v : Value) : Except Reason (List String) := v.asSequence.mapM Value.shown

def joinCommand (tokens : List Value) : String :=
  String.intercalate " " ((tokens.map Value.plain).filter (· != ""))

/-- The command line of tokens that all have a text. -/
def commandLine (tokens : List Value) : Except Reason String :=
  (tokens.findSome? Value.textFault?).elim (.ok (joinCommand tokens)) .error

/-- Separates class path entries; the node that runs the driver replaces it. -/
def classpathSeparator : String := "<CPS>"

/-- The directory of the container's log files; the node that runs the driver replaces it. -/
def logDirectoryVariable : String := "<LOG_DIR>"

def defaultJavaPath : String := "\x7b\x7bJAVA_HOME\x7d\x7d/bin/java"

def defaultClasspath : String :=
  String.intercalate classpathSeparator
    ["\x7b\x7bPWD\x7d\x7d", "\x7b\x7bPWD\x7d\x7d/local/*", "\x7b\x7bPWD\x7d\x7d/global/*",
      "$HADOOP_CONF_DIR"]

/-- The parts of a launch command as they were set. -/
structure LaunchCommand where
  wrapper : List String := []
  javaPath : Value := .text defaultJavaPath
  assertions : Value := .bool false
  memory : Value := .null
  jvmOptions : List String := []
  classpath : Value := .text defaultClasspath
  launcher : Value := .null
  configurationPaths : List String := []
  outputPath : Value := .null
  errorPath : Value := .null

/-- The parts of a launch command that can be set. -/
inductive LaunchPart where
  | wrapper | javaPath | assertions | memory | jvmOptions | classpath | launcher
  | configurationPaths | outputPath | errorPath
  deriving DecidableEq, Repr

namespace LaunchCommand

def withWrapper (c : LaunchCommand) (v : Value) : Except Reason LaunchCommand := do
  return { c with wrapper := ← v.tokens }

def withJavaPath (c : LaunchCommand) (v : Value) : LaunchCommand :=
  { c with javaPath := v.orElse (.text defaultJavaPath) }

def withAssertions (c : LaunchCommand) (v : Value) : LaunchCommand :=
  { c with assertions := v }

/-- Sets the heap size, which must be a positive number unless it is null. -/
def withMemory (c : LaunchCommand) (v : Value) : Except Reason LaunchCommand :=
  if v.isNull then .ok { c with memory := v }
  else match v.quantity? with
    | none => .error .wrongType
    | some q =>
      if q.le (.int 0) then do throw (.memoryNotPositive (← v.shown))
      else .ok { c with memory := v }

def withJvmOptions (c : LaunchCommand) (v : Value) : Except Reason LaunchCommand := do
  return { c with jvmOptions := ← v.tokens }

def withClasspath (c : LaunchCommand) (v : Value) : LaunchCommand :=
  { c with classpath := v.orElse (.text defaultClasspath) }

def withLauncher (c : LaunchCommand) (v : Value) : LaunchCommand :=
  { c with launcher := v }

def withConfigurationPaths (c : LaunchCommand) (v : Value) : Except Reason LaunchCommand := do
  return { c with configurationPaths := ← v.tokens }

def withOutputPath (c : LaunchCommand) (v : Value) : LaunchCommand :=
  { c with outputPath := v }

def withErrorPath (c : LaunchCommand) (v : Value) : LaunchCommand :=
  { c with errorPath := v }

/-- Sets a part of the command. Only the heap size is checked, but the members of a sequence are
taken by their text. -/
def set (c : LaunchCommand) (part : LaunchPart) (v : Value) : Except Reason LaunchCommand :=
  match part with
  | .wrapper => c.withWrapper v
  | .javaPath => .ok (c.withJavaPath v)
  | .assertions => .ok (c.withAssertions v)
  | .memory => c.withMemory v
  | .jvmOptions => c.withJvmOptions v
  | .classpath => .ok (c.withClasspath v)
  | .launcher => .ok (c.withLauncher v)
  | .configurationPaths => c.withConfigurationPaths v
  | .outputPath => .ok (c.withOutputPath v)
  | .errorPath => .ok (c.withErrorPath v)

def tokenIf (condition : Bool) (token : String) : List Value :=
  if condition then [.text token] else []

/-- A token with the text of a value in it, if there is to be one. -/
def shownIf (condition : Bool) (v : Value) (token : String → String) :
    Except Reason (List Value) :=
  if condition then return [.text (token (← v.shown))] else return []

/-- The tokens of the command in their fixed order. There is no command without an entry point. -/
def build (c : LaunchCommand) : Except Reason (List Value) :=
  if !c.launcher.isSet then .error .launcherMissing
  else do
    let heap ← shownIf (!c.memory.isNull) c.memory ("-Xmx" ++ · ++ "m")
    let output ← shownIf c.outputPath.isSet c.outputPath ("1>" ++ ·)
    let error ← shownIf c.errorPath.isSet c.errorPath ("2>" ++ ·)
    return c.wrapper.map .text ++ [c.javaPath] ++ tokenIf c.assertions.isSet "-ea" ++ heap
      ++ c.jvmOptions.map .text ++ [.text "-classpath", c.classpath, c.launcher]
      ++ c.configurationPaths.map .text ++ output ++ error

end LaunchCommand
end ClusterSubmission
