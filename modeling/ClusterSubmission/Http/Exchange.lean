import ClusterSubmission.Failure
import ClusterSubmission.Text.Unicode

/-!
# Requests and replies

What is sent to the resource manager and what comes back. The server is any function of the
requests so far, so nothing is assumed about its behaviour.
-/
namespace ClusterSubmission

/-- How a Kerberos negotiation is set up. -/
structure KerberosOptions where
  mutualAuthentication : Value := .int 2
  sanitizeErrors : Value := .bool false
  service : Value := .text "HTTP"
  delegate : Value := .bool false
  forcePreemptive : Value := .bool false
  principal : Value := .null
  hostnameOverride : Value := .null

/-- What proves to the server who the caller is: a user name that is just stated, or a
negotiation. -/
inductive AuthHandler where
  | simple (user : Value)
  | kerberos (options : KerberosOptions)

/-- A request as it is sent. `others` holds named settings of the transport. -/
structure Request where
  method : Value
  url : String
  auth : Option AuthHandler
  data : Value
  headers : List (String × String)
  timeout : Value
  params : Value
  others : List (String × Value) := []

/-- How the text of an answer is read off its bytes. The transport knows this from the server. -/
class TextDecoder where
  decode : List UInt8 → String

/-- An answer of which nothing else is known is read as UTF-8. -/
instance : TextDecoder := ⟨Text.ofUtf8Lossy⟩

/-- An answer of the server. -/
structure Response where
  status : Int
  reason : Value
  body : List UInt8
  [decoder : TextDecoder]

def Response.text (r : Response) : String := r.decoder.decode r.body

/-- What comes back for a request: cookies that are set or removed, and an answer or a failure of
the transport. -/
structure Reply where
  cookies : List (String × Option String) := []
  outcome : Except Failure Response

/-- A server: its reply to a request, by the requests before it, the last one first. -/
abbrev Server := List Request → Request → Reply

def servicePath : List Char := "/ws/v1/cluster/".toList

def afterFirst? (what : List Char) : List Char → Option (List Char)
  | [] => if what.isEmpty then some [] else none
  | c :: cs =>
    if what.isPrefixOf (c :: cs) then some ((c :: cs).drop what.length) else afterFirst? what cs

/-- The path below the services that a request goes to; any other address stands for itself. -/
def Request.servicePath (r : Request) : String :=
  match afterFirst? ClusterSubmission.servicePath r.url.toList with
  | some cs => String.ofList cs
  | none => r.url

/-- The replies to the requests with a method and a path, in turn; the last one is repeated. -/
structure Route where
  method : String
  path : String
  replies : List Reply

def Route.answers (r : Route) (q : Request) : Bool :=
  (match q.method with
    | .text m => m == r.method
    | _ => false) && q.servicePath == r.path

/-- The server with a list of routes, the first that answers a request counts, and a reply for all
other requests. -/
def Server.ofRoutes (routes : List Route) (default : Reply) : Server := fun history q =>
  match routes.find? (·.answers q) with
  | none => default
  | some route =>
    let before := (history.filter route.answers).length
    match route.replies[before]? with
    | some reply => reply
    | none => route.replies.getLast?.getD default

end ClusterSubmission
