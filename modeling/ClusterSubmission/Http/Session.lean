import ClusterSubmission.Http.Trouble
import ClusterSubmission.Url.Prepared

/-!
# Requests of a session

A request goes to an address below a base. Once the server has set its authentication cookie, the
cookie is kept for the session and the base, and later requests carry it in place of the session's
own authentication. Simple authentication adds the name of the user to the address as a parameter.
-/
namespace ClusterSubmission

/-- The values of a user name that become parameters: a collection gives one for each member. -/
def userNames (user : Value) : List String :=
  match user with
  | .text s => [s]
  | .bytes bs => [Text.ofUtf8Lossy bs]
  | v => (v.asSequence.filter (!·.isNull)).map Value.plain

/-- The address to which a request goes after a handler was applied to it. -/
def AuthHandler.address (handler : AuthHandler) (url : String) : Except Reason String := do
  let plain ← Url.prepare url []
  match handler with
  | .simple user => Url.prepare plain ((userNames user).map fun s => ("user.name", s))
  | .kerberos _ => return plain

def authCookie : String := "hadoop.auth"

/-- What is asked for in a request of a session. -/
structure RequestPlan where
  url : Value
  path : Value := .text "/"
  method : Value := .text "GET"
  params : Value := .null
  data : Value := .null
  timeout : Value := .null
  raiseForStatus : Value := .bool true
  others : List (String × Value) := []

def RequestPlan.names : List String :=
  ["path", "method", "params", "data", "timeout", "raise_for_status"]

/-- A plan from named values; names that it does not know are settings of the transport. -/
def RequestPlan.ofNamed (given : List (String × Value)) : Except Reason RequestPlan := do
  if !given.any (·.1 == "url") || given.any (·.1 == "session") then throw .wrongType
  let get := fieldOr given
  return {
    url := get "url" .null
    path := get "path" (.text "/")
    method := get "method" (.text "GET")
    params := get "params" .null
    data := get "data" .null
    timeout := get "timeout" .null
    raiseForStatus := get "raise_for_status" (.bool true)
    others := given.filter fun g => g.1 != "url" && !names.contains g.1 }

def World.session (w : World) (id : Nat) : Session := w.sessions[id]?.getD {}

def World.setSession (w : World) (id : Nat) (s : Session) : World :=
  { w with sessions := w.sessions.set id s }

def newSession (s : Session) : Run Nat := fun w =>
  (.ok w.sessions.length, { w with sessions := w.sessions ++ [s] })

def setSessionAuth (id : Nat) (auth : Option AuthHandler) : Run Unit :=
  modify fun w => w.setSession id { w.session id with auth := auth }

def setCookie (jar : List (String × String)) (name : String) (value : Option String) :
    List (String × String) :=
  match value with
  | none => jar.filter (·.1 != name)
  | some v =>
    if jar.any (·.1 == name) then jar.map fun c => if c.1 == name then (name, v) else c
    else jar ++ [(name, v)]

def World.cachedCookie? (w : World) (id : Nat) (url : String) : Option String :=
  (w.cookieCache.find? (·.1 == (id, url))).map (·.2)

def World.cacheCookie (w : World) (id : Nat) (url cookie : String) : World :=
  { w with cookieCache := w.cookieCache.filter (·.1 != (id, url)) ++ [((id, url), cookie)] }

def forgetSession (id : Nat) : Run Unit :=
  modify fun w => { w with cookieCache := w.cookieCache.filter (·.1.1 != id) }

/-- Sends a request and takes the cookies of the reply into the session. -/
def send (id : Nat) (q : Request) : Run Response := fun w =>
  let reply := w.server w.history q
  let s := w.session id
  let jar := reply.cookies.foldl (fun jar c => setCookie jar c.1 c.2) s.cookies
  (reply.outcome, { w.setSession id { s with cookies := jar } with history := q :: w.history })

/-- The failure that stands for a status code, if the code is one of a failure. -/
def statusFailure? (url : String) (r : Response) : Option Failure :=
  let text := fun who =>
    Text.intText r.status ++ who ++ r.reason.plain ++ " for url: " ++ url
  if 400 ≤ r.status && r.status < 500 then
    some (Reason.statusFailed (text " Client Error: ")).failure
  else if 500 ≤ r.status && r.status < 600 then
    some (Reason.statusFailed (text " Server Error: ")).failure
  else none

/-- Keeps the authentication cookie of a session after a successful request. -/
def keepCookie (id : Nat) (url : String) : Run Unit := do
  match ((← get).session id).cookies.find? (·.1 == authCookie) with
  | some (_, cookie) =>
    if cookie != "" then
      modify fun w => w.cacheCookie id url cookie
      Run.debug "Request session auth cookie stored"
  | none => pure ()

def requestHeaders (cookie : Option String) : List (String × String) :=
  [("Content-Type", "application/json"), ("Accept", "application/json")]
    ++ match cookie with
      | some c => [("Cookie", authCookie ++ "=" ++ c)]
      | none => []

/-- Sends a planned request and looks at the answer. -/
def exchange (id : Nat) (url target : String) (cookie : Option String) (plan : RequestPlan) :
    Run Response := do
  Run.debug ("Sending request to '" ++ target ++ "' with: method=" ++ plan.method.literal
    ++ ", params=" ++ plan.params.literal)
  if plan.others.any (·.1 == "headers") then Run.fail .wrongType
  let auth := ((← get).session id).auth
  let response ← send id ⟨plan.method, target, auth, plan.data, requestHeaders cookie,
    plan.timeout, plan.params, plan.others⟩
  let translate : Failure → Run Response := fun f => fun w =>
    (.error (requestFailure w.environment w.ticketList f (some response) (w.session id).proxies), w)
  Run.debug ("Got response: response.status_code=" ++ Text.intText response.status
    ++ ", response.reason=" ++ response.reason.literal)
  match statusFailure? target response with
  | some f =>
    if plan.raiseForStatus.isSet then translate f
    else do keepCookie id url; return response
  | none => do keepCookie id url; return response

/-- Translates trouble of the transport into a failure of the submission. -/
def translateTrouble (id : Nat) (body : Run Response) : Run Response := fun w =>
  match body w with
  | (.error f, w) =>
    if f.kind.isTransport then
      (.error (requestFailure w.environment w.ticketList f none (w.session id).proxies), w)
    else (.error f, w)
  | r => r

/-- A request of a session. The session's own authentication is off while a kept cookie is sent. -/
def makeRequest (id : Nat) (plan : RequestPlan) : Run Response := do
  if !plan.url.isKey then Run.fail .wrongType
  let url := plan.url.plain
  let w ← get
  let auth := (w.session id).auth
  let cookie := w.cachedCookie? id url
  if cookie.isSome then setSessionAuth id none
  let target ← Run.ofExcept (Url.joinValues plan.url plan.path)
  Run.andFinally (translateTrouble id (exchange id url target.plain cookie plan))
    (setSessionAuth id auth)

end ClusterSubmission
