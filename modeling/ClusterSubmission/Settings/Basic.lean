import ClusterSubmission.Message.Answer
import ClusterSubmission.Submission.Record

/-!
# Settings

How the cluster is reached: the address of the resource manager, how the caller proves who it is,
and the details of the connection.
-/
namespace ClusterSubmission

/-- The settings of a connection. -/
structure Settings where
  address : Value := .null
  auth : Value := .null
  user : Value := .null
  timeout : Value := .int 90
  verify : Value := .bool true
  proxies : Value := .mapping []
  renewer : Value := .text "yarn"
  unmanaged : Value := .bool false
  logLevel : Value := .null

namespace Settings

def names : List String := Message.Model.settings.fields.map (·.name)

def values (s : Settings) : List Value :=
  [s.address, s.auth, s.user, s.timeout, s.verify, s.proxies, s.renewer, s.unmanaged, s.logLevel]

def toList (s : Settings) : List (String × Value) := names.zip s.values

def ofLookup (value : String → Value → Value) : Settings :=
  let d : Settings := {}
  ⟨value "rm_address" d.address, value "auth" d.auth, value "user" d.user,
    value "timeout" d.timeout, value "verify" d.verify, value "proxies" d.proxies,
    value "renewer" d.renewer, value "unmanaged" d.unmanaged, value "log_level" d.logLevel⟩

def ofNamed (given : List (String × Value)) : Except Reason Settings := do
  checkNames given [] names
  return ofLookup (fieldOr given)

def ofPart (p : Message.Part) : Settings := ofLookup fun name _ => p.field name

/-- Settings as a record in which the settings that were given are filled in. -/
def toPart (given : List (String × Value)) : Message.Part :=
  .record .settings (names.map fun name => (given.find? (·.1 == name)).map fun g => .leaf g.2)

end Settings
end ClusterSubmission
