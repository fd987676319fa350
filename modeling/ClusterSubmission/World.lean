import ClusterSubmission.FileTree
import ClusterSubmission.Http.Exchange
import ClusterSubmission.Log.Markup
import ClusterSubmission.Negotiator.Script
import ClusterSubmission.Submission.Credential

/-!
# The world of a submission

Everything that an operation can see and change besides its own arguments: environment variables,
files, the server and what was sent to it, the clock, sessions with their cookies, loggers, and the
tokens that submissions share. An operation is a function from a world to a result and a world; what
it changed stays changed when it fails.
-/
namespace ClusterSubmission

/-- A session with the server: how the caller proves who it is, the proxies, whether certificates
are verified, the cookies, whether the session is still open, and the version of the cluster once it
is known. -/
structure Session where
  auth : Option AuthHandler := none
  proxies : Value := .mapping []
  verify : Value := .bool true
  cookies : List (String × String) := []
  isOpen : Bool := true
  version : Option Version := none

/-- Where a logger writes. -/
inductive LogHandler where
  | console
  | file (path : String)
  deriving DecidableEq, Repr

/-- A logger: the least level that it writes, and where it writes. -/
structure Logger where
  level : Int := 0
  propagate : Bool := true
  handlers : List LogHandler := []

def debugLevel : Int := 10

def infoLevel : Int := 20

def warningLevel : Int := 30

def libraryName : String := "resubmit"

def rootName : String := "root"

/-- The warnings that a submission gives when it changes what was asked for. -/
inductive SubmissionWarning where
  | memoryCapped
  | keepContainersUnsupported
  | keepContainersNoEffect
  deriving DecidableEq, Repr

/-- The properties of a site file that was read, by its path and the time of its last change. -/
structure SiteEntry where
  path : String
  stamp : Stamp
  properties : List (Option String × Option String)

/-- The world. The list of Kerberos tickets is what the tool for it prints, taken to be text, and
none if the tool cannot be started. -/
structure World where
  environment : List (String × String) := []
  files : FileTree := {}
  server : Server := fun _ _ => ⟨[], .error (Reason.given (.transport .connection) []).failure⟩
  history : List Request := []
  clock : Quantity := .int 1000
  sleeps : List Value := []
  sessions : List Session := []
  cookieCache : List ((Nat × String) × String) := []
  ticketList : Option String := some ""
  loggers : List (String × Logger) := [(libraryName, ⟨warningLevel, false, [.console]⟩)]
  console : List String := []
  warnings : List (SubmissionWarning × String) := []
  siteCache : List SiteEntry := []
  scripts : List Script := []
  tokenStores : List TokenStore := []
  tokenSinks : List CredentialSink := []

namespace World

/-- The logger with a name. One that is new has no level of its own, except the one above all. -/
def logger (w : World) (name : String) : Logger :=
  match w.loggers.find? (·.1 == name) with
  | some (_, l) => l
  | none => if name == rootName then { level := warningLevel } else {}

def setLogger (w : World) (name : String) (l : Logger) : World :=
  { w with loggers := (w.loggers.filter (·.1 != name)) ++ [(name, l)] }

/-- The names above a name, the nearest first: what is before its last point, and so on. The
characters are those of the name from its end. -/
def namesAbove : Nat → List Char → List String
  | 0, _ => []
  | fuel + 1, cs =>
    match cs.dropWhile (· != '.') with
    | _ :: c :: above => String.ofList (c :: above).reverse :: namesAbove fuel above
    | _ => []

/-- The level that counts for a logger: its own one, or that of the nearest logger above it which
has one. -/
def levelFor (w : World) (name : String) : Int :=
  let own := (w.logger name).level
  if own ≠ 0 then own
  else
    let above := (namesAbove name.length name.toList.reverse).map fun n => (w.logger n).level
    (above.find? (· ≠ 0)).getD (w.logger rootName).level

def isLogged (w : World) (name : String) (level : Int) : Bool :=
  0 < level && w.levelFor name ≤ level

end World

abbrev Run := ExceptT Failure (StateM World)

namespace Run

def fail {α : Type} (r : Reason) : Run α := throw r.failure

def ofExcept {α : Type} : Except Reason α → Run α
  | .ok v => pure v
  | .error r => fail r

def ofResult {α : Type} : Except Failure α → Run α
  | .ok v => pure v
  | .error f => throw f

def environmentValue? (name : String) : Run (Option String) := do
  return ((← get).environment.find? (·.1 == name)).map (·.2)

def variableOrEmpty (name : String) : Run String := do
  return (← Run.environmentValue? name).getD ""

/-- Gives a record to the library's own logger. A console that shows the record fails if the markup
in it is at fault. -/
def log (level : Int) (message : String) : Run Unit := do
  let w ← get
  if w.isLogged libraryName level && (w.logger libraryName).handlers.contains .console then
    match Log.renderMarkup ("[bold]" ++ libraryName ++ "[/] - " ++ message) with
    | .ok _ => pure ()
    | .error r => fail r

def debug (message : String) : Run Unit := log debugLevel message

def info (message : String) : Run Unit := log infoLevel message

/-- Runs an operation and then another one, whether the first failed or not. If both fail, the
second failure counts. -/
def andFinally {α : Type} (body : Run α) (finish : Run Unit) : Run α := fun w =>
  match body w with
  | (r, w) =>
    match finish w with
    | (.ok _, w) => (r, w)
    | (.error f, w) => (.error f, w)

end Run

/-- The operations that a submission needs from the cluster. Anything that can do them is a
negotiator: the services of a resource manager, or a script that stands in for it. -/
structure Negotiator where
  createApplication : Run (Value × Ceiling)
  clusterVersion : Run Version
  submit : SubmissionOrder → Run Unit
  obtainCredential : Value → Run Credential
  close : Run Unit

end ClusterSubmission
