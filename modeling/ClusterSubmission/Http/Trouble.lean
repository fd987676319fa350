import ClusterSubmission.World

/-!
# Failed requests

A request fails in the transport or with a status code. What the caller gets to know is a failure
of the submission: the server declined, did not trust the caller, or could not be reached. Each
carries a hint and, if there is one, the text of the server's answer.
-/
namespace ClusterSubmission

def FailureKind.isTransport : FailureKind → Bool
  | .transport _ => true
  | _ => false

def ticketText : Option String → String
  | none => "Cache is not available"
  | some "" => "Cache is empty"
  | some s => s

def badRequestHint : String :=
  "400 Bad Request: The ResourceManager couldn't process the request. Check the submission "
    ++ "parameters, e.g. the priority, the application attempts or the resource request."

def unauthorizedHint (tickets : String) : String :=
  "401 Unauthorized: The request lacks valid authentication. Users can authenticate using either "
    ++ "`'simple'` or `'kerberos'` (SPNEGO) authentication. If using `auth='kerberos'`, ensure a "
    ++ "valid Kerberos ticket is present. You might want to `kinit` again."
    ++ "\nDebug info: List of Kerberos tokens:\n" ++ tickets

def forbiddenHint : String :=
  "403 Forbidden: The ResourceManager understands the request but won't authorize it. Check the "
    ++ "queue ACLs and your permissions. Delegation tokens can only be requested on a Kerberos "
    ++ "authenticated connection."

def notFoundHint : String :=
  "404 Not Found: The ResourceManager can't find the requested resource. Check the "
    ++ "ResourceManager address and the application id."

def serverErrorHint (status : Int) : String :=
  Text.intText status ++ " Server Error: The ResourceManager failed to handle the request. Check "
    ++ "the diagnostics below, e.g. an unknown queue or an exceeded quota."

def connectionHint : String :=
  "Connection Error: There's a problem connecting to the ResourceManager. Check its address, the "
    ++ "network connection and the service itself."

def proxyHint (proxies : String) : String :=
  "Proxy Error: There's an issue with the proxy server. Check your proxy settings. Proxies used: "
    ++ proxies

def certificateHint : String :=
  "SSL Error: There's an issue with the SSL/TLS certificates of the ResourceManager. Provide a "
    ++ "certificate bundle file with the `verify` setting or disable SSL verification (not "
    ++ "recommended)."

/-- The kind of failure and the hint for a status code, none if the code is no failure. -/
def statusHint? (tickets : String) (status : Int) : Option (FailureKind × String) :=
  if status = 400 then some (.rejected, badRequestHint)
  else if status = 401 then some (.auth, unauthorizedHint tickets)
  else if status = 403 then some (.auth, forbiddenHint)
  else if status = 404 then some (.rejected, notFoundHint)
  else if 400 ≤ status then some (.rejected, serverErrorHint status)
  else none

def transportHint (proxies : String) : TransportFault → String
  | .proxy => proxyHint proxies
  | .tls => certificateHint
  | _ => connectionHint

/-- The proxies that a request went through: those of the session, or else those of the
environment. -/
def proxiesText (environment : List (String × String)) (proxies : Value) : String :=
  if proxies.isSet then proxies.plain
  else
    let proxy := fun name => match environment.find? (·.1 == name) with
      | some (_, v) => Value.text v
      | none => Value.null
    (Value.mapping [(.text "http", proxy "HTTP_PROXY"),
      (.text "https", proxy "HTTPS_PROXY")]).plain

/-- The failure that the caller gets to know for a failed request. What is neither a status code nor
trouble of the transport stays what it is. -/
def requestFailure (environment : List (String × String)) (tickets : Option String)
    (failure : Failure) (response : Option Response) (proxies : Value) : Failure :=
  let status := response.map (·.status)
  let byStatus := status.bind (statusHint? (ticketText tickets))
  let found := match byStatus, failure.kind with
    | some found, _ => some found
    | none, .transport fault =>
      some (.communication, transportHint (proxiesText environment proxies) fault)
    | none, _ => none
  match found with
  | none => failure
  | some (kind, hint) =>
    let text := failure.message ++ "\n\n" ++ hint
    let answer := (response.map Response.text).getD ""
    let text := if answer == "" then text
      else text ++ "\n\nOriginal server response:\n" ++ answer
    let code := match kind, status with
      | .rejected, some n => Value.int n
      | _, _ => .null
    { (Reason.requestFailed kind text).failure with statusCode := code, cause := some failure.kind }

end ClusterSubmission
