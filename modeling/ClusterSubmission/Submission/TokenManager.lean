import ClusterSubmission.Message.Context
import ClusterSubmission.World

/-!
# The credentials of unmanaged drivers

An unmanaged driver runs outside of the cluster and needs a credential of its own. The credential is
obtained from the cluster and recorded under an identity; its token goes into a sink.
-/
namespace ClusterSubmission

def World.tokenStore (w : World) (id : Nat) : TokenStore := w.tokenStores[id]?.getD {}

def World.tokenSink (w : World) (id : Nat) : CredentialSink := w.tokenSinks[id]?.getD {}

def newTokenStore : Run Nat := fun w =>
  (.ok w.tokenStores.length, { w with tokenStores := w.tokenStores ++ [{}] })

def newTokenSink : Run Nat := fun w =>
  (.ok w.tokenSinks.length, { w with tokenSinks := w.tokenSinks ++ [{}] })

def putToken (sink : Nat) (name token : Value) : Run Unit := do
  let s ← Run.ofExcept (((← get).tokenSink sink).put name token)
  modify fun w => { w with tokenSinks := w.tokenSinks.set sink s }

def addTokens (sink : Nat) (data given : Value) : Run Unit := do
  let name := ((← get).tokenSink sink).aliasFor given
  let length ← Run.ofExcept data.lengthOf
  Run.debug ("Adding " ++ Text.natText length ++ " bytes of tokens as '" ++ name.plain ++ "'")
  putToken sink name (tokenText (← Run.ofExcept data.asBytes))

/-- Puts the token of a credential into a sink as it is, under the service of the credential. -/
def addCredential (sink : Nat) (c : Credential) : Run Unit := do
  let name := ((← get).tokenSink sink).aliasFor c.service
  Run.debug ("Adding " ++ c.kind.plain ++ " as '" ++ name.plain ++ "'")
  putToken sink name c.token

def recordCredential (store : Nat) (user : Value) (c : Credential) : Run Unit := do
  let s ← Run.ofExcept (((← get).tokenStore store).add user c)
  modify fun w => { w with tokenStores := w.tokenStores.set store s }

/-- Where the credentials of drivers are recorded, and under which identity. -/
structure TokenManager where
  store : Nat
  user : Value := .text proxyUser

/-- Obtains the credential of an application that was submitted, and records it. -/
def TokenManager.issue (m : TokenManager) (n : Negotiator) (handle : Value) : Run Credential := do
  let c ← n.obtainCredential handle
  recordCredential m.store m.user c
  Run.debug ("Recorded " ++ c.kind.plain ++ " of '" ++ (← Run.ofExcept handle.handleText)
    ++ "' for '" ++ m.user.plain ++ "'")
  return c

end ClusterSubmission
