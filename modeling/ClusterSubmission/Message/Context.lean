import ClusterSubmission.Message.Part
import ClusterSubmission.Submission.Record

/-!
# The submission context

The message that submits an application, made from the records of a submission. Nothing is
validated here: the resource manager judges what it is sent.
-/
namespace ClusterSubmission

def Value.membersOf (v : Value) : Except Reason (List Value) :=
  match v.members? with
  | some vs => .ok vs
  | none => .error .wrongType

/-- The text of a handle, whose id has to be text, or of any other value. -/
def Value.handleText : Value → Except Reason String
  | .handle (.text s) => .ok s
  | .handle _ => .error .wrongType
  | v => .ok v.plain

/-- Entries from a sequence of pairs, counted from an index. -/
def Value.pairs (index : Nat) : List Value → Except Reason (List (Value × Value))
  | [] => .ok []
  | v :: vs =>
    match v.members? with
    | some [k, w] => do
      if !k.isKey then throw .wrongType
      return (k, w) :: (← Value.pairs (index + 1) vs)
    | some ms => .error (.pairLength index ms.length)
    | none => .error .wrongType

/-- A value as a mapping of its own: the entries of a mapping, or a sequence of pairs. -/
def Value.asMapping : Value → Except Reason (List (Value × Value))
  | .mapping es => .ok es
  | v => do return Value.update [] (← Value.pairs 0 (← v.membersOf))

def Value.entriesOf : Value → Except Reason (List (Value × Value))
  | .mapping es => .ok es
  | _ => .error .noAttribute

namespace Message

/-- A map as the resource manager takes it, a list of keys and values; an empty map is left out. -/
def entriesPart (es : List (Value × Part)) : Part :=
  if es.isEmpty then .leaf .null
  else .record .entries [some (.list (es.map fun e =>
    .record .keyValue [some (.leaf e.1), some e.2]))]

/-- The list of keys and values of a mapping, none of a value that is not set. -/
def entriesOf (v : Value) : Except Reason (Option Part) :=
  if !v.isSet then .ok none
  else do
    let es ← v.entriesOf
    return some (entriesPart (es.map fun e => (e.1, .leaf e.2)))

def resourcePart : Value → Except Reason Part
  | .resource location size timestamp type visibility =>
    .ok (.record .resourceDetails [some (.leaf location), some (.leaf type),
      some (.leaf visibility), some (.leaf size), some (.leaf timestamp)])
  | _ => .error .noAttribute

def resourceParts : List (Value × Value) → Except Reason (List (Value × Part))
  | [] => .ok []
  | (k, v) :: es => do
    let p ← resourcePart v
    return (k, p) :: (← resourceParts es)

/-- The command of a specification in one line. -/
def lineOf (spec : LaunchSpec) : Except Reason String := do
  commandLine (← spec.command.membersOf)

/-- The launch context of the driver's container. -/
def containerPart (spec : LaunchSpec) : Except Reason Part := do
  let command ← lineOf spec
  let resources ← resourceParts (← spec.localResources.entriesOf)
  let environment ← spec.environment.asMapping
  let leaves := fun (es : List (Value × Value)) => es.map fun e => (e.1, Part.leaf e.2)
  let credentials ←
    if spec.tokens.isSet then do
      let tokens ← spec.tokens.asMapping
      pure (Part.record .credentials [some (entriesPart (leaves tokens)), none])
    else pure (Part.leaf .null)
  return .record .container [some (.record .commands [some (.leaf (.text command))]),
    some (entriesPart resources), some (entriesPart (leaves environment)), some credentials]

def tagsPart (tags : Value) : Except Reason Part :=
  if tags.isSet then do
    let tags ← tags.membersOf
    return .record .tags [some (.list (tags.map .leaf))]
  else .ok (.leaf .null)

/-- The submission context of an application. -/
def contextPart (handle : Value) (request : ResourceRequest) (spec : LaunchSpec)
    (policy : AttemptPolicy) (parameters : Parameters) (unmanaged : Value) :
    Except Reason Part := do
  let resource := Part.record .resource [some (.leaf request.memory), some (.leaf request.vcores)]
  let id ← handle.handleText
  let container ← containerPart spec
  let placement := Part.record .placement [some (.leaf request.resourceName), some resource,
    some (.leaf request.numContainers), some (.leaf request.relaxLocality)]
  let tags ← tagsPart parameters.applicationTags
  return .record .submissionContext [some (.leaf (.text id)),
    some (.leaf parameters.applicationName), some (.leaf parameters.queue),
    some (.leaf parameters.priority), some container, some resource, some placement,
    some (.leaf policy.maxAttempts), some (.leaf policy.keepContainers), some (.leaf unmanaged),
    some (.leaf parameters.applicationType), some tags]

end Message
end ClusterSubmission
