import ClusterSubmission.Launch
import ClusterSubmission.Message.Context

/-!
# Changes of parameters

Each parameter of a submission can be changed on its own. Most values are checked first; a change
with a value that is refused changes nothing.
-/
namespace ClusterSubmission

/-- A change of one parameter. -/
inductive Change where
  | name (v : Value)
  | memory (megabytes : Value)
  | node (host : Value)
  | localResource (name resource : Value)
  | priority (v : Value)
  | preserveContainers (v : Value)
  | maxAttempts (v : Value)
  | queue (v : Value)
  | launcher (v : Value)
  | configurationPaths (v : Value)
  | outputPath (v : Value)
  | errorPath (v : Value)
  | type (v : Value)
  | tags (tags : List Value)
  | environment (given : Value) (named : List (String × Value))

/-- Whether a value is an integer that is not below a limit; truth values are no integers. -/
def Value.isAtLeast (v : Value) (limit : Int) : Bool :=
  match v with
  | .int n => limit ≤ n
  | _ => false

def Value.isResource : Value → Bool
  | .resource .. => true
  | _ => false

/-- A tag as it is given: its value, and what looking at it fails with, if it does. Whether it
counts as set can fail, and so can comparing it with a tag that is there. -/
structure Tag where
  value : Value
  truthFault? : Option Reason := none
  equalFault? : Value → Option Reason := fun _ => none

namespace Tag

/-- A value as a tag that nothing fails with. -/
def of (v : Value) : Tag := { value := v }

def truth (t : Tag) : Except Reason Bool := t.truthFault?.elim (.ok t.value.isSet) .error

def equals (t : Tag) (v : Value) : Except Reason Bool :=
  (t.equalFault? v).elim (.ok (v == t.value)) .error

/-- Whether a tag is to be added: it is set, and none of the tags that are there equals it. -/
def isNewIn (t : Tag) (present : Value) : Except Reason Bool := do
  if !(← t.truth) then return false
  match present with
  | .list items => return !(← items.anyM t.equals)
  | _ => throw .wrongType

end Tag

namespace Change

def refusedIf (condition : Bool) (r : Reason) : Option Reason := if condition then some r else none

/-- The reason that is given for a value, whose literal is part of it. -/
def aboutLiteral (v : Value) (r : String → Reason) : Reason :=
  v.literalFault?.getD (r v.literal)

/-- Why the value of a change is refused, if it is. -/
def refusal? : Change → Option Reason
  | .name v => refusedIf (!v.isSet) .nameEmpty
  | .memory v => refusedIf (!v.isAtLeast 1) (aboutLiteral v .memoryInvalid)
  | .node v => refusedIf (!v.isSet) .hostEmpty
  | .localResource key resource =>
    if !key.isSet then some .resourceNameEmpty
    else refusedIf (!resource.isResource)
      (key.textFault?.getD (.resourceInvalid key.plain resource.kindName))
  | .priority v => refusedIf (!v.isAtLeast 0) (aboutLiteral v .priorityInvalid)
  | .maxAttempts v => refusedIf (!v.isAtLeast 1) (aboutLiteral v .attemptsInvalid)
  | .queue v => refusedIf (!v.isSet) .queueEmpty
  | .launcher v => refusedIf (!v.isSet) .launcherEmpty
  | .type v => refusedIf (!v.isSet) .typeEmpty
  | .configurationPaths v => v.tokenFault?
  | .preserveContainers _ | .outputPath _ | .errorPath _ | .tags _ | .environment .. => none

def storeUnder (mapping key v : Value) : Except Reason Value :=
  match mapping with
  | .mapping es => if key.isKey then .ok (.mapping (Value.insert es key v)) else .error .wrongType
  | _ => .error .wrongType

def withMember (present v : Value) : Value :=
  match present with
  | .list items => .list (items ++ [v])
  | _ => present

/-- Adds tags one after the other. The first one that fails ends this, and those before it stay. -/
def extendTags (present : Value) : List Tag → Except Reason Unit × Value
  | [] => (.ok (), present)
  | t :: ts =>
    match t.isNewIn present with
    | .error r => (.error r, present)
    | .ok isNew => extendTags (if isNew then withMember present t.value else present) ts

def withTags (present : Value) (tags : List Value) : Except Reason Value :=
  match extendTags present (tags.map Tag.of) with
  | (.ok _, v) => .ok v
  | (.error r, _) => .error r

/-- Variables as text, each with its value. -/
def textEntries (es : List (Value × Value)) : Except Reason (List (Value × Value)) :=
  es.mapM fun e => do return (.text (← e.1.shown), .text (← e.2.shown))

/-- An environment with further variables; named ones win over those in a mapping. -/
def withVariables (present given : Value) (named : List (String × Value)) :
    Except Reason Value := do
  let es ← present.entriesOf
  let more ← match given.orElse (.mapping []) with
    | .mapping more => pure more
    | _ => throw .wrongType
  let all := Value.update more (named.map fun e => (.text e.1, e.2))
  return .mapping (Value.update es (← textEntries all))

/-- The parameters after a change. -/
def apply (p : Parameters) : Change → Except Reason Parameters
  | .name v => .ok { p with applicationName := v }
  | .memory v => .ok { p with driverMemory := v }
  | .node v => .ok { p with driverHost := v }
  | .localResource key resource => do
    return { p with localResources := ← storeUnder p.localResources key resource }
  | .priority v => .ok { p with priority := v }
  | .preserveContainers v => .ok { p with keepContainers := .bool v.isSet }
  | .maxAttempts v => .ok { p with maxAttempts := v }
  | .queue v => .ok { p with queue := v }
  | .launcher v => .ok { p with launcher := v }
  | .configurationPaths v =>
    .ok (p.replace "configuration_paths" (.list (v.asTokens.map .text)))
  | .outputPath v => .ok { p with outputPath := v }
  | .errorPath v => .ok { p with errorPath := v }
  | .type v => .ok { p with applicationType := v }
  | .tags more => do return { p with applicationTags := ← withTags p.applicationTags more }
  | .environment given named => do
    return { p with environment := ← withVariables p.environment given named }

end Change
end ClusterSubmission
