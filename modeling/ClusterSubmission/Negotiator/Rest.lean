import ClusterSubmission.Message.Answer
import ClusterSubmission.World
import ClusterSubmission.ResourceManager
import ClusterSubmission.Submission.Credential
import ClusterSubmission.Version.Reader

/-!
# Negotiating with a resource manager

The operations of a submission by way of the services of a resource manager. The version of the
cluster is asked for once. A token is only asked for once the application is accepted; until then
its state is looked at again and again, for a limited time.
-/
namespace ClusterSubmission

/-- A negotiator on a resource manager: who may renew its tokens, how long an application may take
to be accepted, and how long to wait before its state is looked at again. -/
structure RestNegotiator where
  manager : ResourceManager
  renewer : Value := .text "yarn"
  acceptTimeout : Value := .int 30
  pollInterval : Value := .float (Binary64.ofDecimal false 5 (-1))

namespace RestNegotiator

def ofNamed (auth : Option AuthHandler) (given : List (String × Value)) : Run RestNegotiator := do
  let n : RestNegotiator := { manager := ← ResourceManager.ofNamed auth given }
  return { n with
    renewer := fieldOr given "renewer" n.renewer
    acceptTimeout := fieldOr given "accept_timeout" n.acceptTimeout
    pollInterval := fieldOr given "poll_interval" n.pollInterval }

def text (n : RestNegotiator) : String := "RestResourceNegotiator<" ++ n.manager.address ++ ">"

def checkOpen (n : RestNegotiator) : Run Unit := do
  if !(← n.manager.isOpen) then Run.fail .sessionClosed

def createApplication (n : RestNegotiator) : Run (Value × Ceiling) := do
  n.checkOpen
  let answer ← Run.ofResult (Message.decode .newApplication (← n.manager.newApplication))
  Run.debug ("New application '" ++ (answer.field "application_id").plain ++ "' created")
  return Message.grantOf answer

/-- The version that the cluster reports, which is kept for the session. -/
def askVersion (n : RestNegotiator) : Run Version := do
  let answer ← Run.ofResult (Message.decode .clusterInfoEnvelope (← n.manager.cluster))
  let reported := Message.reportedVersion (answer.get "clusterInfo")
  if reported.isNull then Run.fail .versionMissing
  let version ← Run.ofExcept (Version.ofValue reported)
  modify fun w => w.setSession n.manager.session
    { w.session n.manager.session with version := some version }
  Run.debug ("Cluster reports Hadoop version " ++ version.text)
  return version

def clusterVersion (n : RestNegotiator) : Run Version := do
  n.checkOpen
  match ((← get).session n.manager.session).version with
  | some version => return version
  | none => n.askVersion

def submit (n : RestNegotiator) (o : SubmissionOrder) : Run Unit := do
  n.checkOpen
  let context ← Run.ofExcept
    (Message.contextPart o.handle o.request o.spec o.policy o.parameters o.unmanaged)
  let _ ← n.manager.submitApplication (← Run.ofExcept context.toMapping)
  Run.info ("Application '" ++ (← Run.ofExcept o.handle.handleText) ++ "' submitted to queue '"
    ++ o.parameters.queue.plain ++ "'")

def whenDeclined {α : Type} (body : Run α) (other : Failure → Reason) : Run α := fun w =>
  match body w with
  | (.error f, w) =>
    if f.kind = .rejected then (.error ((other f).failure.causedBy f), w) else (.error f, w)
  | r => r

def report (n : RestNegotiator) (handle : Value) : Run Message.Part := do
  let id ← Run.ofExcept handle.handleText
  whenDeclined
    (do
      let answer ← n.manager.application (.text id)
      return (← Run.ofResult (Message.decode .reportEnvelope answer)).get "app")
    fun _ => .applicationUnknown id

def quantityOf (v : Value) : Run Quantity :=
  match v.quantity? with
  | some q => pure q
  | none => Run.fail .wrongType

def addQuantities (p q : Quantity) : Run Quantity :=
  match Quantity.add? p q with
  | some r => pure r
  | none => Run.fail .overflow

/-- Pauses, by which nothing but the clock changes. It goes on by the length of the pause, whatever
this is. -/
def sleep (v : Value) : Run Unit := do
  modify fun w => { w with sleeps := v :: w.sleeps }
  let now ← addQuantities (← get).clock (← quantityOf v)
  modify fun w => { w with clock := now }

/-- Looks at the report on an application until it is no longer pending or time is up. The first
argument bounds how often. -/
def awaitAcceptance (n : RestNegotiator) (handle : Value) (deadline : Quantity) :
    Nat → Run Message.Part
  | 0 => n.report handle
  | fuel + 1 => do
    let report ← n.report handle
    if !Message.isPending report || Quantity.le deadline (← get).clock then return report
    Run.debug ("Application '" ++ (← Run.ofExcept handle.handleText) ++ "' is "
      ++ (report.field "state").plain ++ ", waiting to be accepted")
    sleep n.pollInterval
    n.awaitAcceptance handle deadline fuel

/-- A quantity as a number of smallest units, none unless it is finite. -/
def units? : Quantity → Option Int
  | .int m => some (m * (Binary64.scale : Int))
  | .float x => x.scaled?

/-- More than how often the state can be looked at before time is up. Where the time does not pass,
the number of looks is not limited by it. -/
def lookLimit (timeout interval : Value) : Nat :=
  match timeout.quantity?.bind units?, interval.quantity?.bind units? with
  | some t, some p => Nat.pow 2 62 + if 0 < p then (t / p).toNat + 1 else 0
  | _, _ => Nat.pow 2 62

/-- The report on an application that is accepted, dead, or has not been accepted in time. -/
def waitForAcceptance (n : RestNegotiator) (handle : Value) : Run Message.Part := do
  let deadline ← addQuantities (← get).clock (← quantityOf n.acceptTimeout)
  n.awaitAcceptance handle deadline (lookLimit n.acceptTimeout n.pollInterval)

/-- A credential for an application that was submitted. -/
def obtainCredential (n : RestNegotiator) (handle : Value) : Run Credential := do
  n.checkOpen
  let report ← n.waitForAcceptance handle
  let id ← Run.ofExcept handle.handleText
  if !Message.isAccepted report then
    Run.fail (.applicationNotAlive id (report.field "state").plain
      (report.field "diagnostics").plain)
  let token ← whenDeclined
    (do Run.ofResult (Message.decode .delegationToken (← n.manager.delegationToken n.renewer)))
    fun f => .tokenDeclined f.message
  Run.debug ("Obtained " ++ (token.field "kind").plain ++ " for application '" ++ id ++ "'")
  return Credential.ofToken token (← Run.ofExcept (Url.hostOf n.manager.address))

def close (n : RestNegotiator) : Run Unit := n.manager.close

def operations (n : RestNegotiator) : Negotiator :=
  ⟨n.createApplication, n.clusterVersion, n.submit, n.obtainCredential, n.close⟩

end RestNegotiator
end ClusterSubmission
