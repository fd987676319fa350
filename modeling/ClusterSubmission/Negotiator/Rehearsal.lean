import ClusterSubmission.World
import ClusterSubmission.Version.Reader

/-!
# Rehearsals

A negotiator that is a script in the world. A call is noted before it can fail.
-/
namespace ClusterSubmission

def World.script (w : World) (id : Nat) : Script := w.scripts[id]?.getD {}

def World.setScript (w : World) (id : Nat) (s : Script) : World :=
  { w with scripts := w.scripts.set id s }

def newScript (s : Script) : Run Nat := fun w =>
  (.ok w.scripts.length, { w with scripts := w.scripts ++ [s] })

/-- A negotiator that follows a script. -/
structure Rehearsal where
  script : Nat

namespace Rehearsal

/-- Follows the script through one call, and says what the script answers. -/
def follow (r : Rehearsal) (op : Operation) : Run Script := fun w =>
  let s := w.script r.script
  let w := w.setScript r.script (s.advance op)
  match s.nextTrouble op with
  | some f => (.error f, w)
  | none => (.ok (s.advance op), w)

def createApplication (r : Rehearsal) : Run (Value × Ceiling) := do
  let s ← r.follow .createApplication
  return (.handle s.applicationId, s.ceiling)

def clusterVersion (r : Rehearsal) : Run Version := do
  let s ← r.follow .clusterVersion
  Run.ofExcept (Version.ofValue s.version)

def submit (r : Rehearsal) (o : SubmissionOrder) : Run Unit := do
  let s ← r.follow .submit
  modify fun w => w.setScript r.script { s with order := some o }

def obtainCredential (r : Rehearsal) (_handle : Value) : Run Credential := do
  return (← r.follow .obtainCredential).credential

def close (r : Rehearsal) : Run Unit := do
  let _ ← r.follow .close

def operations (r : Rehearsal) : Negotiator :=
  ⟨r.createApplication, r.clusterVersion, r.submit, r.obtainCredential, r.close⟩

end Rehearsal
end ClusterSubmission
