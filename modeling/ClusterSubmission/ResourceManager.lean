import ClusterSubmission.Http.Session
import ClusterSubmission.Json.Content
import ClusterSubmission.Message.Context

/-!
# The resource manager's services

The services below the address of the resource manager, each a request with one answer. An answer
is the content of a document, or its text if it is no document. Once its session is closed, the
resource manager is not talked to any more.
-/
namespace ClusterSubmission

/-- A resource manager: the address of its services, the usual timeout, and the session. -/
structure ResourceManager where
  address : String
  timeout : Value
  session : Nat

namespace ResourceManager

def root : String := "/ws/v1/cluster/"

def usualTimeout : Value := .int 90

/-- Opens a session with the resource manager at an address. -/
def connect (address : Value) (auth : Option AuthHandler) (timeout verify proxies : Value) :
    Run ResourceManager := do
  let base ← Run.ofExcept (Url.joinValues address (.text root))
  let verify := match verify with
    | .null => .bool true
    | .path s => .text s
    | v => v
  let session ← newSession { auth, verify, proxies := proxies.orElse (.mapping []) }
  return ⟨base.plain, timeout.orElse usualTimeout, session⟩

def ofNamed (auth : Option AuthHandler) (given : List (String × Value)) : Run ResourceManager :=
  let get := fun name => fieldOr given name .null
  connect (get "address") auth (get "timeout") (get "verify") (get "proxies")

def text (rm : ResourceManager) : String := "ResourceManager<" ++ rm.address ++ ">"

def isOpen (rm : ResourceManager) : Run Bool := do
  return ((← get).session rm.session).isOpen

def refuseSettings (names : List String) (given : List (String × Value)) : Except Reason Unit :=
  if given.any fun g => names.contains g.1 then .error .wrongType else .ok ()

def presentParameters : Value → Except Reason Value
  | .null => .ok .null
  | .mapping es => .ok (.mapping (es.filter fun e => !e.2.isNull))
  | _ => .error .noAttribute

def requestBody : Value → Except Reason Value
  | .null => .ok .null
  | v => do return .bytes (Text.utf8 (← Message.encodeValue v))

/-- What an answer says: nothing, the content of a document, or just a text. -/
def answerContent (r : Response) : Except Reason Value :=
  if r.body.isEmpty then .ok (.mapping [])
  else match Json.content r.body with
    | .error .malformedDocument => .ok (.text r.text)
    | outcome => outcome

/-- Asks a service. The body, the method and further settings of the request can be given. -/
def request (rm : ResourceManager) (path : String) (method body : Value)
    (given : List (String × Value)) : Run Value := do
  if !(← rm.isOpen) then Run.fail (.sessionToClosed rm.address)
  let params ← Run.ofExcept (presentParameters (fieldOr given "params" .null))
  let data ← Run.ofExcept (requestBody body)
  Run.ofExcept (refuseSettings ["session", "url", "path", "data"] given)
  let response ← makeRequest rm.session {
    url := .text rm.address
    path := .text path
    method := method
    params := params
    data := data
    timeout := (fieldOr given "timeout" .null).orElse rm.timeout
    raiseForStatus := fieldOr given "raise_for_status" (.bool true)
    others := given.filter fun g =>
      !(["params", "timeout", "raise_for_status", "method", "json"].contains g.1) }
  Run.ofExcept (answerContent response)

/-- Asks a service whose method and body may be among the given settings. -/
def ask (rm : ResourceManager) (path : String) (given : List (String × Value)) : Run Value := do
  Run.ofExcept (refuseSettings ["self", "api_path"] given)
  rm.request path (fieldOr given "method" (.text "GET")) (fieldOr given "json" .null) given

def cluster (rm : ResourceManager) (given : List (String × Value) := []) : Run Value :=
  rm.ask "info" given

def newApplication (rm : ResourceManager) (given : List (String × Value) := []) : Run Value := do
  Run.ofExcept (refuseSettings ["self", "api_path", "method"] given)
  rm.request "apps/new-application" (.text "POST") (fieldOr given "json" .null) given

def submitApplication (rm : ResourceManager) (context : Value)
    (given : List (String × Value) := []) : Run Value := do
  Run.debug ("Submitting application context: " ++ context.plain)
  Run.ofExcept (refuseSettings ["self", "api_path", "method", "json"] given)
  rm.request "apps" (.text "POST") context given

def application (rm : ResourceManager) (id : Value) (given : List (String × Value) := []) :
    Run Value := do
  rm.ask ("apps/" ++ (← Run.ofExcept id.handleText)) given

def delegationToken (rm : ResourceManager) (renewer : Value)
    (given : List (String × Value) := []) : Run Value := do
  Run.ofExcept (refuseSettings ["self", "api_path", "method", "json"] given)
  rm.request "delegation-token" (.text "POST") (.mapping [(.text "renewer", renewer)]) given

def close (rm : ResourceManager) : Run Unit := do
  if !(← rm.isOpen) then return
  Run.debug ("Closing session to " ++ rm.address)
  forgetSession rm.session
  modify fun w => w.setSession rm.session { w.session rm.session with isOpen := false }

end ResourceManager
end ClusterSubmission
