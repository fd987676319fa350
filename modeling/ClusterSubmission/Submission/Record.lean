import ClusterSubmission.Message.Schema

/-!
# Submission records

The records that pass between the parts of a submission: the parameters as they were set, the
request for the driver's container, what is launched in it, and how failed attempts are handled.
Records keep any value; only the names of their fields are checked when they are made.
-/
namespace ClusterSubmission

def anyHost : String := "*"

/-- The identity under which the credentials of unmanaged drivers are recorded. -/
def proxyUser : String := "resubmit-proxy"

def driverConfigurationPath : String := "local/driver.conf"

/-- The parameters of a submission. `renewals` has the names of those that were replaced as a whole,
the last one first; it tells which collections a copy still shares. -/
structure Parameters where
  applicationName : Value := .text "resubmit-driver"
  applicationType : Value := .text Message.defaultApplicationType
  applicationTags : Value := .list []
  driverMemory : Value := .int 512
  driverHost : Value := .null
  priority : Value := .int 0
  queue : Value := .text "default"
  maxAttempts : Value := .int 1
  keepContainers : Value := .bool false
  launcher : Value := .text "org.apache.reef.runtime.common.REEFLauncher"
  configurationPaths : Value := .list [.text driverConfigurationPath]
  outputPath : Value := .text (logDirectoryVariable ++ "/driver.stdout")
  errorPath : Value := .text (logDirectoryVariable ++ "/driver.stderr")
  wrapper : Value := .list []
  localResources : Value := .mapping []
  environment : Value := .mapping []
  renewals : List String := []

/-- The request for the container of the driver. -/
structure ResourceRequest where
  resourceName : Value
  memory : Value
  vcores : Value := .int 1
  numContainers : Value := .int 1
  relaxLocality : Value := .bool true

/-- What is launched in the container of the driver. -/
structure LaunchSpec where
  command : Value
  localResources : Value := .mapping []
  environment : Value := .mapping []
  tokens : Value := .mapping []

/-- How often the driver is started, and whether its containers survive a failed attempt. -/
structure AttemptPolicy where
  maxAttempts : Value := .int 1
  keepContainers : Value := .bool false

/-- The largest container that the cluster grants. -/
structure Ceiling where
  memory : Value
  vcores : Value := .int 1

/-- A token of the resource manager, and what is known about it. -/
structure Credential where
  token : Value
  kind : Value := .text Message.delegationTokenKind
  service : Value := .text ""
  renewer : Value := .null
  owner : Value := .null
  expiration : Value := .null

def ResourceRequest.toList (r : ResourceRequest) : List (String × Value) :=
  [("resource_name", r.resourceName), ("memory", r.memory), ("vcores", r.vcores),
    ("num_containers", r.numContainers), ("relax_locality", r.relaxLocality)]

def LaunchSpec.toList (s : LaunchSpec) : List (String × Value) :=
  [("command", s.command), ("local_resources", s.localResources), ("environment", s.environment),
    ("tokens", s.tokens)]

def AttemptPolicy.toList (p : AttemptPolicy) : List (String × Value) :=
  [("max_attempts", p.maxAttempts), ("keep_containers", p.keepContainers)]

def Ceiling.toList (c : Ceiling) : List (String × Value) :=
  [("memory", c.memory), ("vcores", c.vcores)]

def Credential.toList (c : Credential) : List (String × Value) :=
  [("token", c.token), ("kind", c.kind), ("service", c.service), ("renewer", c.renewer),
    ("owner", c.owner), ("expiration", c.expiration)]

def fieldOr (given : List (String × Value)) (name : String) (default : Value) : Value :=
  match given.find? (·.1 == name) with
  | some (_, v) => v
  | none => default

/-- Checks the names that a record is made from: each has to be a field, and the required fields
have to be there. -/
def checkNames (given : List (String × Value)) (required optional : List String) :
    Except Reason Unit :=
  if given.all (fun g => required.contains g.1 || optional.contains g.1)
      && required.all (fun r => given.any (·.1 == r)) then .ok ()
  else .error .wrongType

namespace Parameters

def names : List String :=
  ["application_name", "application_type", "application_tags", "driver_memory", "driver_host",
    "priority", "queue", "max_attempts", "keep_containers", "launcher", "configuration_paths",
    "stdout_path", "stderr_path", "command_prefix", "local_resources", "environment"]

def toList (p : Parameters) : List (String × Value) :=
  names.zip [p.applicationName, p.applicationType, p.applicationTags, p.driverMemory, p.driverHost,
    p.priority, p.queue, p.maxAttempts, p.keepContainers, p.launcher, p.configurationPaths,
    p.outputPath, p.errorPath, p.wrapper, p.localResources, p.environment]

/-- The parameters with one of them, by its name, set to a value. -/
def set (p : Parameters) (name : String) (v : Value) : Parameters :=
  match name with
  | "application_name" => { p with applicationName := v }
  | "application_type" => { p with applicationType := v }
  | "application_tags" => { p with applicationTags := v }
  | "driver_memory" => { p with driverMemory := v }
  | "driver_host" => { p with driverHost := v }
  | "priority" => { p with priority := v }
  | "queue" => { p with queue := v }
  | "max_attempts" => { p with maxAttempts := v }
  | "keep_containers" => { p with keepContainers := v }
  | "launcher" => { p with launcher := v }
  | "configuration_paths" => { p with configurationPaths := v }
  | "stdout_path" => { p with outputPath := v }
  | "stderr_path" => { p with errorPath := v }
  | "command_prefix" => { p with wrapper := v }
  | "local_resources" => { p with localResources := v }
  | "environment" => { p with environment := v }
  | _ => p

def get? (p : Parameters) (name : String) : Option Value :=
  (p.toList.find? (·.1 == name)).map (·.2)

def replace (p : Parameters) (name : String) (v : Value) : Parameters :=
  { p.set name v with renewals := name :: p.renewals }

def renewalCount (p : Parameters) (name : String) : Nat := p.renewals.count name

def collections : List String :=
  ["application_tags", "configuration_paths", "command_prefix", "local_resources", "environment"]

/-- A copy of the parameters as it is seen later. What was added to a collection since then is seen
in the copy, unless the collection was replaced. -/
def seenLater (copy now : Parameters) : Parameters :=
  collections.foldl (fun p name =>
    if copy.renewalCount name = now.renewalCount name then
      match now.get? name with
      | some v => p.set name v
      | none => p
    else p) copy

/-- The parameters with something added to one of their collections: a member of a list, or entries
of a mapping. Other parameters have nothing to add to. -/
def extend (p : Parameters) (name : String) (v : Value) : Option Parameters :=
  match p.get? name, v with
  | some (.list items), v => some (p.set name (.list (items ++ [v])))
  | some (.mapping es), .mapping more => some (p.set name (.mapping (Value.update es more)))
  | _, _ => none

def ofNamed (given : List (String × Value)) : Except Reason Parameters := do
  checkNames given [] names
  return given.foldl (fun p g => p.set g.1 g.2) {}

end Parameters

def ResourceRequest.ofNamed (given : List (String × Value)) : Except Reason ResourceRequest := do
  checkNames given ["resource_name", "memory"] ["vcores", "num_containers", "relax_locality"]
  let get := fieldOr given
  return ⟨get "resource_name" .null, get "memory" .null, get "vcores" (.int 1),
    get "num_containers" (.int 1), get "relax_locality" (.bool true)⟩

def LaunchSpec.ofNamed (given : List (String × Value)) : Except Reason LaunchSpec := do
  checkNames given ["command"] ["local_resources", "environment", "tokens"]
  let get := fieldOr given
  return ⟨get "command" .null, get "local_resources" (.mapping []), get "environment" (.mapping []),
    get "tokens" (.mapping [])⟩

def AttemptPolicy.ofNamed (given : List (String × Value)) : Except Reason AttemptPolicy := do
  checkNames given [] ["max_attempts", "keep_containers"]
  let get := fieldOr given
  return ⟨get "max_attempts" (.int 1), get "keep_containers" (.bool false)⟩

def Credential.ofNamed (given : List (String × Value)) : Except Reason Credential := do
  checkNames given ["token"] ["kind", "service", "renewer", "owner", "expiration"]
  let get := fieldOr given
  return ⟨get "token" .null, get "kind" (.text Message.delegationTokenKind),
    get "service" (.text ""), get "renewer" .null, get "owner" .null, get "expiration" .null⟩

def resourceOfNamed (given : List (String × Value)) : Except Reason Value := do
  checkNames given ["location", "size", "timestamp"] ["type", "visibility"]
  let get := fieldOr given
  return .resource (get "location" .null) (get "size" .null) (get "timestamp" .null)
    (get "type" (.text "FILE")) (get "visibility" (.text "APPLICATION"))

/-- What is handed over when an application is submitted. -/
structure SubmissionOrder where
  handle : Value
  request : ResourceRequest
  spec : LaunchSpec
  policy : AttemptPolicy
  parameters : Parameters
  unmanaged : Value := .bool false

def Value.named : Value → List (String × Value)
  | .mapping es => es.map fun e => (e.1.plain, e.2)
  | _ => []

/-- An order from named values, each record in it as a mapping. -/
def SubmissionOrder.ofNamed (given : List (String × Value)) : Except Reason SubmissionOrder := do
  let part := fun name => (fieldOr given name .null).named
  return {
    handle := fieldOr given "handle" .null
    request := ← ResourceRequest.ofNamed (part "request")
    spec := ← LaunchSpec.ofNamed (part "spec")
    policy := ← AttemptPolicy.ofNamed (part "policy")
    parameters := ← Parameters.ofNamed (part "parameters")
    unmanaged := fieldOr given "unmanaged" (.bool false) }

end ClusterSubmission
