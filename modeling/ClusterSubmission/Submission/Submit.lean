import ClusterSubmission.Submission.Basic
import ClusterSubmission.Value.Order

/-!
# Submitting

The parameters are resolved in steps into a request for a container, a launch specification and an
attempt policy, which are handed to the cluster together. A failure says in which step it happened.
What was asked for is adjusted in two cases, with a warning: memory above the largest container, and
containers that the cluster cannot keep.
-/
namespace ClusterSubmission

/-- The steps of submitting, in order. -/
inductive SubmissionStep where
  | validate
  | resourceRequest
  | launchCommand
  | attemptPolicy
  | submit
  | credential
  deriving DecidableEq, Repr

def SubmissionStep.name : SubmissionStep → String
  | .validate => "validate"
  | .resourceRequest => "resource-request"
  | .launchCommand => "launch-command"
  | .attemptPolicy => "attempt-policy"
  | .submit => "submit"
  | .credential => "credential"

/-- What was submitted. -/
structure SubmissionReport where
  handle : String
  request : ResourceRequest
  spec : LaunchSpec
  policy : AttemptPolicy
  credential : Option Credential := none

def SubmissionReport.toList (r : SubmissionReport) : List (String × List (String × Value)) :=
  [("request", r.request.toList), ("spec", r.spec.toList), ("policy", r.policy.toList)]

/-- A failure with the step that it happened in. What is already known about it is kept, and an
interrupt stays as it is. -/
def Failure.inStep (f : Failure) (handle : String) (step : SubmissionStep) : Failure :=
  if f.kind.isInterrupt then f
  else
    let note := "Submission step '" ++ step.name ++ "' of application '" ++ handle ++ "' failed"
    { f with
      applicationId :=
        if f.kind.isSubmission then f.applicationId.orElse (.text handle) else f.applicationId
      step := if f.kind.isSubmission then f.step.orElse (.text step.name) else f.step
      notes := f.notes ++ [note] }

def warn (kind : SubmissionWarning) (message : String) : Run Unit := do
  Run.log warningLevel message
  modify fun w => { w with warnings := w.warnings ++ [(kind, message)] }

/-- Whether a value comes before another one, where there has to be an order. -/
def Value.isBefore (v w : Value) : Except Reason Bool :=
  match v.isBefore? w with
  | some b => .ok b
  | none => .error .wrongType

namespace Submission

def inStep {α : Type} (s : Submission) (step : SubmissionStep) (body : Run α) : Run α := do
  Run.debug ("Submission step '" ++ step.name ++ "' of application '" ++ s.handle ++ "'")
  fun w =>
    match body w with
    | (.ok a, w) => (.ok a, w)
    | (.error f, w) => (.error (f.inStep s.handle step), w)

def validate (s : Submission) : Except Reason Unit := do
  if s.state ≠ .configuring then throw (.alreadySubmitted s.handle s.state.name)
  if !s.parameters.driverHost.isSet then throw .hostMissing

/-- The memory of the driver: what was asked for, but not more than the largest container has. -/
def memory (s : Submission) : Except Reason Value := do
  let asked := s.parameters.driverMemory
  return if ← s.ceiling.memory.isBefore asked then s.ceiling.memory else asked

/-- The request for the container of the driver. -/
def resourceRequest (s : Submission) : Run ResourceRequest := do
  let asked := s.parameters.driverMemory
  let memory ← Run.ofExcept s.memory
  if ← Run.ofExcept (memory.isBefore asked) then
    let requested ← Run.ofExcept asked.shown
    let most ← Run.ofExcept s.ceiling.memory.shown
    warn .memoryCapped ("Requested " ++ requested ++ "MB of memory for the driver. The max on "
      ++ "this YARN installation is " ++ most ++ ". Using " ++ most
      ++ " as the memory for the driver.")
  let host := s.parameters.driverHost
  return { resourceName := host, memory, relaxLocality := .bool (host == .text anyHost) }

/-- The tokens of the command that launches the driver. -/
def launchTokens (s : Submission) (r : ResourceRequest) : Except Reason (List Value) := do
  let p := s.parameters
  let command : LaunchCommand := {}
  let command ← command.withWrapper p.wrapper
  let command ← (command.withLauncher p.launcher).withConfigurationPaths p.configurationPaths
  let command ← (command.withClasspath s.classpath).withMemory r.memory
  ((command.withOutputPath p.outputPath).withErrorPath p.errorPath).build

/-- The launch specification of the driver. -/
def launchSpec (s : Submission) (r : ResourceRequest) : Run LaunchSpec := do
  let tokens ← Run.ofExcept (s.launchTokens r)
  let resources ← Run.ofExcept s.parameters.localResources.asMapping
  let environment ← Run.ofExcept s.parameters.environment.asMapping
  return {
    command := .tuple tokens
    localResources := .mapping resources
    environment := .mapping environment
    tokens := .mapping ((← get).tokenSink s.sink).tokens }

/-- Whether containers are kept across attempts, which the cluster has to support. -/
def keepsContainers (s : Submission) : Run Value := do
  let keep := s.parameters.keepContainers
  if !keep.isSet then return keep
  let version ← s.negotiator.clusterVersion
  if version.keepsContainers then
    Run.debug ("Hadoop version " ++ version.text ++ " is " ++ Version.keepContainersSince.text
      ++ " or after, containers are kept across application attempts")
    return keep
  warn .keepContainersUnsupported ("Hadoop version " ++ version.text ++ " does not yet support "
    ++ "keeping containers across application attempts. Driver restarts will not support "
    ++ "recovering evaluators.")
  return .bool false

def attemptPolicy (s : Submission) : Run AttemptPolicy := do
  let maxAttempts := s.parameters.maxAttempts
  let keepContainers ← s.keepsContainers
  if keepContainers.isSet && maxAttempts == .int 1 then
    warn .keepContainersNoEffect ("Application will not be restarted even though preserve "
      ++ "evaluators is set to true since the max application attempts is 1. Proceeding to submit "
      ++ "application...")
  return { maxAttempts, keepContainers }

def handOver (s : Submission) (o : SubmissionOrder) : Run Unit := do
  Run.info ("Submitting application '" ++ s.handle ++ "' to YARN")
  Run.info ("Driver command: " ++ (← Run.ofExcept (Message.lineOf o.spec)))
  s.negotiator.submit o

/-- Obtains the credential of the driver, and puts its token where the next submissions find it. -/
def deliverCredential (s : Submission) : Run Credential := do
  let c ← s.manager.issue s.negotiator s.handleValue
  addCredential s.sink c
  return c

/-- Submits the application, and says what was submitted. A submission that fails stays as it
was. -/
def submit (s : Submission) : Run (SubmissionReport × Submission) := do
  s.inStep .validate (Run.ofExcept s.validate)
  let request ← s.inStep .resourceRequest s.resourceRequest
  let spec ← s.inStep .launchCommand (s.launchSpec request)
  let policy ← s.inStep .attemptPolicy s.attemptPolicy
  let order : SubmissionOrder :=
    ⟨s.handleValue, request, spec, policy, s.parameters, s.unmanaged⟩
  s.inStep .submit (s.handOver order)
  let credential ←
    if s.unmanaged.isSet then do pure (some (← s.inStep .credential s.deliverCredential))
    else pure none
  return (⟨s.handle, request, spec, policy, credential⟩, { s with state := .submitted })

end Submission
end ClusterSubmission
