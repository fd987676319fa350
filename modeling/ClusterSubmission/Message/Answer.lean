import ClusterSubmission.Message.Reader
import ClusterSubmission.Submission.Record

/-!
# What answers say

An answer holds a message as a document, as the text of one, or as a mapping. An answer without it
is trouble in the communication. A submission goes by some parts of the messages: the new
application and the largest container, the version of the cluster, and how far the application has
come.
-/
namespace ClusterSubmission.Message

mutual
/-- A value as a document. -/
def documentOf : Value → Document
  | .null => .null
  | .bool b => .bool b
  | .int n => .int n
  | .float x => .float x
  | .text s => .text (some s)
  | .list vs | .tuple vs => .array (documentsOf vs) true
  | .version v => .array (v.parts.map .int) true
  | .mapping es => .object (entryDocuments es) true
  | v => .other v.kindName

def documentsOf : List Value → List Document
  | [] => []
  | v :: vs => documentOf v :: documentsOf vs

def entryDocuments : List (Value × Value) → List (DocumentKey × Document)
  | [] => []
  | (k, v) :: es =>
    ((match k with
      | .text s => .name (some s)
      | k => .other (documentKind (documentOf k))), documentOf v) :: entryDocuments es
end

def readBytes (mode : Strictness) (m : Model) (bs : List UInt8) : Except Reason Part :=
  match Json.read bs with
  | (d, finished) =>
    match read mode [] (.record m) d with
    | .ok p => if finished then .ok p else .error .malformedDocument
    | .error e => .error e

/-- The record of a model in a value: the text or the bytes of a document, or a mapping. -/
def readValue (mode : Strictness) (m : Model) : Value → Except Reason Part
  | .text s => readBytes mode m (Text.utf8 s)
  | .bytes bs => readBytes mode m bs
  | .mapping es => read mode [] (.record m) (documentOf (.mapping es))
  | _ => .error .wrongType

/-- The message of a model in an answer. An answer that is no such message counts as trouble in the
communication. -/
def decode (m : Model) (v : Value) : Except Failure Part :=
  match readValue .lenient m v with
  | .ok p => .ok p
  | .error e =>
    match e.kind with
    | .mismatch | .malformed =>
      .error ((Reason.messageUnexpected m.title e.message).failure.causedBy e.failure)
    | _ => .error e.failure

/-- The handle of a new application, and the largest container that the cluster grants. -/
def grantOf (answer : Part) : Value × Ceiling :=
  let capability := answer.get "maximum_resource_capability"
  (.handle (answer.field "application_id"),
    ⟨capability.field "memory", capability.field "vcores"⟩)

def reportedVersion (info : Part) : Value :=
  (info.field "hadoopVersion").orElse (info.field "resourceManagerVersion")

def inState (report : Part) (states : List String) : Bool :=
  match report.field "state" with
  | .text s => states.contains s
  | _ => false

def isPending (report : Part) : Bool := inState report ["NEW", "NEW_SAVING", "SUBMITTED"]

def isAccepted (report : Part) : Bool := inState report ["ACCEPTED", "RUNNING"]

end ClusterSubmission.Message
