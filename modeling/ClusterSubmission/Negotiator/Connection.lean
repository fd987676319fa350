import ClusterSubmission.Choice
import ClusterSubmission.Negotiator.Rest
import ClusterSubmission.Settings.Basic
import ClusterSubmission.Site.Configuration

/-!
# Connecting by settings

A negotiator is made from the settings of a connection. What they leave open, the address and how
the caller proves who it is, the configuration of the site says. A caller with simple authentication
states a user name: the one given, or else the first that the environment has. A Kerberos handler is
only set up here; its negotiation is not part of the library.
-/
namespace ClusterSubmission

def userVariables : List String :=
  ["RESUBMIT_USER_NAME", "HADOOP_USER_NAME", "USER", "USERNAME", "LOGNAME", "USER", "LNAME",
    "USERNAME"]

/-- The owner of the program, if the environment does not name the user. -/
def systemUser : String := "root"

def firstNonEmpty (texts : List String) (fallback : String) : String :=
  match texts.find? (· != "") with
  | some s => s
  | none => fallback

/-- The user that the environment names, or else the owner of the program. -/
def World.defaultUser (w : World) : String :=
  let value := fun name => ((w.environment.find? (·.1 == name)).map (·.2)).getD ""
  firstNonEmpty (userVariables.map value) systemUser

def defaultUser : Run String := return (← get).defaultUser

/-- A handler for simple authentication, for a user or for the one of the environment. -/
def simpleHandler (user : Value) : Run AuthHandler := do
  let name ← if user.isSet then pure user else do pure (Value.text (← defaultUser))
  Run.debug ("Using simple HTTP authentication with username '" ++ name.plain ++ "'")
  return .simple name

def kerberosSettings : List String :=
  ["mutual_authentication", "sanitize_mutual_error_response", "service", "delegate",
    "force_preemptive", "principal", "hostname_override", "send_cbt"]

/-- The options of a Kerberos handler from named values. -/
def KerberosOptions.ofNamed (given : List (String × Value)) : Except Reason KerberosOptions := do
  checkNames given [] kerberosSettings
  let get := fieldOr given
  return {
    mutualAuthentication := (get "mutual_authentication" .null).orElse (.int 2)
    sanitizeErrors := get "sanitize_mutual_error_response" (.bool false)
    service := get "service" (.text "HTTP")
    delegate := get "delegate" (.bool false)
    forcePreemptive := get "force_preemptive" (.bool false)
    principal := get "principal" .null
    hostnameOverride := get "hostname_override" .null }

def KerberosOptions.toList (o : KerberosOptions) : List (String × Value) :=
  [("mutual_authentication", o.mutualAuthentication),
    ("sanitize_mutual_error_response", o.sanitizeErrors), ("service", o.service),
    ("delegate", o.delegate), ("force_preemptive", o.forcePreemptive),
    ("principal", o.principal), ("hostname_override", o.hostnameOverride)]

def makeAuthHandler (method user : Value) (options : List (String × Value)) : Run AuthHandler := do
  match ← Run.ofExcept (Authentication.family.find method) with
  | .simple => simpleHandler user
  | .kerberos =>
    Run.debug "Kerberos authentication handler set up"
    return .kerberos (← Run.ofExcept (KerberosOptions.ofNamed options))

/-- The address of the resource manager, from the settings or from the configuration of the site. -/
def resourceManagerAddress (s : Settings) (c : SiteConfiguration) : Run Value := do
  if s.address.isSet then return s.address
  match ← c.addresses with
  | some (address :: _) => do
    Run.debug ("Using ResourceManager address '" ++ address ++ "' from Hadoop configuration")
    return .text address
  | _ => Run.fail .addressMissing

/-- The authentication method, from the settings or from the configuration of the site. -/
def authenticationMethod (s : Settings) (c : SiteConfiguration) : Run Value := do
  if s.auth.isSet then return s.auth
  return .text (if ← c.usesKerberos then "kerberos" else "simple")

def RestNegotiator.ofSettings (s : Settings) : Run RestNegotiator := do
  let site : SiteConfiguration := {}
  let address ← resourceManagerAddress s site
  let auth ← makeAuthHandler (← authenticationMethod s site) s.user []
  let manager ← ResourceManager.connect address (some auth) s.timeout s.verify s.proxies
  return { manager, renewer := s.renewer }

end ClusterSubmission
