import ClusterSubmission.Launch
import ClusterSubmission.Message.Answer
import ClusterSubmission.Text.Base64

/-!
# Credentials and tokens

A credential is written down as a document with all of its fields, so that other components can
take it over. Reading is strict and checks every field. Credentials are recorded per identity, so
that they can be looked up later. Their tokens are collected in a sink, each under an alias, and the
container of the driver is handed what the sink holds.
-/
namespace ClusterSubmission

namespace Credential

def values (c : Credential) : List Value := c.toList.map (·.2)

def toPart (c : Credential) : Message.Part :=
  .record .securityCredential (c.values.map fun v => some (.leaf v))

def ofPart (p : Message.Part) : Credential :=
  ⟨p.field "token", p.field "kind", p.field "service", p.field "renewer", p.field "owner",
    p.field "expiration"⟩

def serialize (c : Credential) : Except Reason String := do
  Message.encodeValue (← c.toPart.wireForm)

def deserialize (bs : List UInt8) : Except Reason Credential := do
  return ofPart (← Message.readBytes .strict .securityCredential bs)

def same (c d : Credential) : Bool := Value.sameItems c.values d.values

/-- The credential that a delegation token of the resource manager is, for a service. -/
def ofToken (token : Message.Part) (service : String) : Credential :=
  ⟨token.field "token", token.field "kind", .text service, token.field "renewer",
    token.field "owner", token.field "expiration_time"⟩

end Credential

/-- The credentials that were recorded per identity, the oldest first. -/
structure TokenStore where
  recorded : List (Value × List Credential) := []

namespace TokenStore

def users (s : TokenStore) : List Value := s.recorded.map (·.1)

def checkUser (user : Value) : Except Reason Unit :=
  if user.isKey then .ok () else .error .wrongType

def contains (s : TokenStore) (user : Value) : Except Reason Bool := do
  checkUser user
  return s.users.any (· == user)

def add (s : TokenStore) (user : Value) (c : Credential) : Except Reason TokenStore := do
  if ← s.contains user then
    return ⟨s.recorded.map fun e => if e.1 == user then (e.1, e.2 ++ [c]) else e⟩
  else return ⟨s.recorded ++ [(user, [c])]⟩

def get (s : TokenStore) (user : Value) : Except Reason (List Credential) := do
  checkUser user
  return ((s.recorded.find? fun e => e.1 == user).map (·.2)).getD []

def text (s : TokenStore) : String := "TokenStore<" ++ (Value.list s.users).literal ++ ">"

end TokenStore

/-- The tokens for the container of the driver, each under its alias. -/
structure CredentialSink where
  tokens : List (Value × Value) := []

namespace CredentialSink

def size (s : CredentialSink) : Nat := s.tokens.length

/-- The alias of a token: the given one if it is set, else one with a running number. -/
def aliasFor (s : CredentialSink) (given : Value) : Value :=
  given.orElse (.text ("token-" ++ Text.natText s.size))

def put (s : CredentialSink) (name token : Value) : Except Reason CredentialSink :=
  if name.isKey then .ok ⟨Value.insert s.tokens name token⟩ else .error .wrongType

end CredentialSink

def Value.byte : Value → Except Reason UInt8
  | .int n => if 0 ≤ n && n < 256 then .ok n.toNat.toUInt8 else .error .byteRange
  | .bool b => .ok (if b then 1 else 0)
  | _ => .error .wrongType

def Value.lengthOf (v : Value) : Except Reason Nat :=
  match v.members? with
  | some vs => .ok vs.length
  | none => .error .wrongType

/-- A value as bytes: bytes themselves, or a sequence of numbers. Text has no bytes without an
encoding. -/
def Value.asBytes (v : Value) : Except Reason (List UInt8) :=
  match v with
  | .bytes bs => .ok bs
  | .text _ => .error .wrongType
  | v => match v.members? with
    | some vs => vs.mapM Value.byte
    | none => .error .wrongType

def tokenText (bs : List UInt8) : Value := .text (Text.base64 .urlSafe bs)

end ClusterSubmission
