import ClusterSubmission.ApplicationId
import ClusterSubmission.Choice
import ClusterSubmission.Submission.Change
import ClusterSubmission.Submission.TokenManager

/-!
# Submissions

A submission reserves an application when it begins. Its parameters can be changed until it is
submitted, which can happen once; closing it ends the session with the cluster.
-/
namespace ClusterSubmission

/-- A submission: how it talks to the cluster, the application that was reserved and the largest
container there is, how the driver is launched, where its tokens go, its parameters, and how far it
has come. -/
structure Submission where
  negotiator : Negotiator
  handle : String
  ceiling : Ceiling
  classpath : Value
  unmanaged : Value
  manager : TokenManager
  sink : Nat
  parameters : Parameters
  state : SubmissionState := .configuring

/-- Runs an operation, and another one if the first fails. If both fail, the second failure
counts. -/
def Run.onFailure {α : Type} (body : Run α) (finish : Run Unit) : Run α := fun w =>
  match body w with
  | (.ok a, w) => (.ok a, w)
  | (.error f, w) =>
    match finish w with
    | (.ok _, w) => (.error f, w)
    | (.error g, w) => (.error g, w)

/-- What a submission begins with besides its negotiator. -/
structure SubmissionPlan where
  classpath : Value := .text defaultClasspath
  unmanaged : Value := .bool false
  wrapper : Value := .null
  manager : TokenManager
  sink : Nat

namespace Submission

/-- Begins a submission. The session is closed if no application can be reserved. -/
def start (n : Negotiator) (plan : SubmissionPlan) : Run Submission := do
  let parameters : Parameters := { wrapper := .list plan.wrapper.asSequence }
  Run.debug "Requesting application id from YARN"
  let (id, ceiling) ← n.createApplication.onFailure n.close
  let handle ← Run.ofExcept id.handleText
  Run.info ("YARN application id: " ++ handle)
  return {
    negotiator := n
    handle
    ceiling
    classpath := plan.classpath
    unmanaged := plan.unmanaged
    manager := plan.manager
    sink := plan.sink
    parameters }

def handleValue (s : Submission) : Value := .handle (.text s.handle)

def applicationNumber (s : Submission) : Except Reason Int :=
  ApplicationId.sequence (.text s.handle)

def text (s : Submission) : String :=
  "SubmissionHelper<" ++ s.handle ++ ", " ++ s.state.name ++ ">"

/-- The failure of a refused change. One of the submission says which application it belongs to. -/
def refused (s : Submission) (r : Reason) : Failure :=
  if r.kind.isSubmission then { r.failure with applicationId := .text s.handle } else r.failure

def frozen (s : Submission) : Failure := s.refused (.parametersFrozen s.handle s.state.name)

/-- The submission after a change of its parameters, which is possible until it is submitted. -/
def change (s : Submission) (c : Change) : Except Failure Submission := do
  if let some r := c.refusal? then throw (s.refused r)
  if s.state ≠ .configuring then throw s.frozen
  match c.apply s.parameters with
  | .ok p => return { s with parameters := p }
  | .error r => throw r.failure

/-- Adds tags of any kind. Other than the changes above, this can fail with some of them added. -/
def addTags (s : Submission) (tags : List Tag) : Except Failure Unit × Submission :=
  if s.state ≠ .configuring then (.error s.frozen, s)
  else
    let (r, present) := Change.extendTags s.parameters.applicationTags tags
    (r.mapError Reason.failure,
      { s with parameters := { s.parameters with applicationTags := present } })

/-- Closes a submission, which changes its state even if the session cannot be closed properly.
Closing twice does nothing. -/
def close (s : Submission) : StateM World (Except Failure Unit × Submission) := fun w =>
  if s.state = .closed then ((.ok (), s), w)
  else
    match Run.debug ("Closing YARN application: " ++ s.handle) w with
    | (.error f, w) => ((.error f, s), w)
    | (.ok _, w) =>
      match s.negotiator.close w with
      | (r, w) => ((r, { s with state := .closed }), w)

end Submission
end ClusterSubmission
