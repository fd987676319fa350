import ClusterSubmission.ApplicationId
import ClusterSubmission.Launch

/-!
# Message schemas

Every message of the resource manager has a model: its fields in order, with their names in the
library and on the wire, the shape of their values, and what stands for a field that is not given.
-/
namespace ClusterSubmission.Message

/-- The models of messages, and of the two records that are stored in the same way. -/
inductive Model where
  | capability | newApplication | clusterInfo | clusterInfoEnvelope
  | report | reportEnvelope | delegationToken
  | resourceDetails | keyValue | entries | commands | credentials | container
  | resource | placement | tags | submissionContext
  | securityCredential | settings
  deriving DecidableEq, Repr

/-- What a text has to satisfy. -/
inductive TextRule where
  | any | nonEmpty | applicationId
  deriving DecidableEq, Repr

/-- The shapes of values. -/
inductive Shape where
  | text (rule : TextRule)
  | optionalText
  | integer (least : Option Int)
  | optionalInteger
  | boolean
  | booleanOrText
  | choice (names : List String)
  | optionalChoice (names : List String)
  | record (m : Model)
  | optionalRecord (m : Model)
  | recordOrText (m : Model)
  | list (item : Shape)
  | textMap
  deriving Repr

/-- What stands for a field that is not given. -/
inductive Default where
  | required
  | value (v : Value)
  | emptyList
  | emptyMapping

/-- A field of a model. -/
structure Field where
  name : String
  wire : String
  shape : Shape
  default : Default := .required

def plainField (name : String) (shape : Shape) (default : Default := .required) : Field :=
  ⟨name, name, shape, default⟩

def dashedField (name : String) (shape : Shape) (default : Default := .required) : Field :=
  ⟨name, String.ofList (name.toList.map fun c => if c = '_' then '-' else c), shape, default⟩

def applicationStates : List String :=
  ["NEW", "NEW_SAVING", "SUBMITTED", "ACCEPTED", "RUNNING", "FINISHED", "FAILED", "KILLED"]

def resourceTypes : List String := ["ARCHIVE", "FILE", "PATTERN"]

def resourceVisibilities : List String := ["PUBLIC", "PRIVATE", "APPLICATION"]

def delegationTokenKind : String := "RM_DELEGATION_TOKEN"

def defaultApplicationType : String := "RESUBMIT"

namespace Model

/-- The name of a model in messages. -/
def title : Model → String
  | .capability => "Capability"
  | .newApplication => "NewApplicationResponse"
  | .clusterInfo => "ClusterInfo"
  | .clusterInfoEnvelope => "ClusterInfoResponse"
  | .report => "ApplicationReport"
  | .reportEnvelope => "ApplicationResponse"
  | .delegationToken => "DelegationToken"
  | .resourceDetails => "ResourceDetails"
  | .keyValue => "KeyValue"
  | .entries => "Entries"
  | .commands => "Commands"
  | .credentials => "Credentials"
  | .container => "AMContainer"
  | .resource => "Resource"
  | .placement => "AMResourceRequest"
  | .tags => "ApplicationTags"
  | .submissionContext => "ApplicationSubmissionContext"
  | .securityCredential => "SecurityCredential"
  | .settings => "Settings"

/-- The fields of a model, in order. -/
def fields : Model → List Field
  | .capability =>
    [plainField "memory" (.integer (some 0)),
      ⟨"vcores", "vCores", .integer (some 0), .value (.int 1)⟩]
  | .newApplication =>
    [dashedField "application_id" (.text .applicationId),
      dashedField "maximum_resource_capability" (.record .capability)]
  | .clusterInfo =>
    [plainField "id" .optionalInteger (.value .null),
      plainField "state" .optionalText (.value .null),
      plainField "hadoopVersion" .optionalText (.value .null),
      plainField "resourceManagerVersion" .optionalText (.value .null)]
  | .clusterInfoEnvelope => [plainField "clusterInfo" (.record .clusterInfo)]
  | .report =>
    [plainField "id" (.text .any),
      plainField "state" (.choice applicationStates),
      plainField "diagnostics" (.text .any) (.value (.text "")),
      plainField "queue" .optionalText (.value .null),
      plainField "unmanagedApplication" .boolean (.value (.bool false))]
  | .reportEnvelope => [plainField "app" (.record .report)]
  | .delegationToken =>
    [plainField "token" (.text .nonEmpty),
      plainField "renewer" .optionalText (.value .null),
      plainField "owner" .optionalText (.value .null),
      plainField "kind" (.text .any) (.value (.text delegationTokenKind)),
      dashedField "expiration_time" .optionalInteger (.value .null)]
  | .resourceDetails =>
    [plainField "resource" (.text .nonEmpty),
      plainField "type" (.choice resourceTypes),
      plainField "visibility" (.choice resourceVisibilities),
      plainField "size" (.integer (some 0)),
      plainField "timestamp" (.integer (some 0))]
  | .keyValue =>
    [plainField "key" (.text .nonEmpty), plainField "value" (.recordOrText .resourceDetails)]
  | .entries => [plainField "entry" (.list (.record .keyValue)) .emptyList]
  | .commands => [plainField "command" (.text .nonEmpty)]
  | .credentials =>
    [plainField "tokens" (.optionalRecord .entries) (.value .null),
      plainField "secrets" (.optionalRecord .entries) (.value .null)]
  | .container =>
    [plainField "commands" (.record .commands),
      dashedField "local_resources" (.optionalRecord .entries) (.value .null),
      plainField "environment" (.optionalRecord .entries) (.value .null),
      plainField "credentials" (.optionalRecord .credentials) (.value .null)]
  | .resource =>
    [plainField "memory" (.integer (some 1)),
      ⟨"vcores", "vCores", .integer (some 1), .value (.int 1)⟩]
  | .placement =>
    [dashedField "resource_name" (.text .any),
      plainField "capability" (.record .resource),
      dashedField "num_containers" (.integer (some 1)) (.value (.int 1)),
      dashedField "relax_locality" .boolean (.value (.bool true))]
  | .tags => [plainField "tag" (.list (.text .any)) .emptyList]
  | .submissionContext =>
    [dashedField "application_id" (.text .applicationId),
      dashedField "application_name" (.text .nonEmpty),
      plainField "queue" (.text .nonEmpty),
      plainField "priority" (.integer (some 0)) (.value (.int 0)),
      dashedField "am_container_spec" (.record .container),
      plainField "resource" (.record .resource),
      dashedField "am_container_resource_request" (.optionalRecord .placement) (.value .null),
      dashedField "max_app_attempts" (.integer (some 1)) (.value (.int 1)),
      dashedField "keep_containers_across_application_attempts" .boolean (.value (.bool false)),
      dashedField "unmanaged_AM" .boolean (.value (.bool false)),
      dashedField "application_type" (.text .nonEmpty) (.value (.text defaultApplicationType)),
      dashedField "application_tags" (.optionalRecord .tags) (.value .null)]
  | .securityCredential =>
    [plainField "token" (.text .nonEmpty),
      plainField "kind" (.text .any) (.value (.text delegationTokenKind)),
      plainField "service" (.text .any) (.value (.text "")),
      plainField "renewer" .optionalText (.value .null),
      plainField "owner" .optionalText (.value .null),
      plainField "expiration" .optionalInteger (.value .null)]
  | .settings =>
    [plainField "rm_address" .optionalText (.value .null),
      plainField "auth" (.optionalChoice ["simple", "kerberos"]) (.value .null),
      plainField "user" .optionalText (.value .null),
      plainField "timeout" (.integer none) (.value (.int 90)),
      plainField "verify" .booleanOrText (.value (.bool true)),
      plainField "proxies" .textMap .emptyMapping,
      plainField "renewer" (.text .any) (.value (.text "yarn")),
      plainField "unmanaged" .boolean (.value (.bool false)),
      plainField "log_level" .optionalText (.value .null)]

/-- Whether a field that has its default is left out when the message is written. -/
def omitsDefaults : Model → Bool
  | .resource | .placement | .submissionContext | .securityCredential => false
  | _ => true

def field? (m : Model) (wire : String) : Option (Nat × Field) :=
  (m.fields.zipIdx.find? fun f => f.1.wire == wire).map fun f => (f.2, f.1)

end Model

/-- The name of the kind of values that a shape asks for. -/
def Shape.kindName : Shape → String
  | .text _ | .choice _ => "str"
  | .optionalText | .optionalChoice _ => "str | null"
  | .integer _ => "int"
  | .optionalInteger => "int | null"
  | .boolean => "bool"
  | .booleanOrText => "bool | str"
  | .record _ => "object"
  | .optionalRecord _ => "object | null"
  | .recordOrText _ => "str | object"
  | .list _ => "array"
  | .textMap => "object"

end ClusterSubmission.Message
