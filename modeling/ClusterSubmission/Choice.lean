import ClusterSubmission.Failure
import ClusterSubmission.Text.LetterCase

/-!
# Named choices

A choice from a small family is given by its name in any case: how the caller proves who it is, and
how far a submission has come.
-/
namespace ClusterSubmission

/-- How the caller proves who it is. -/
inductive Authentication where
  | simple
  | kerberos
  deriving DecidableEq, Repr

/-- How far a submission has come. -/
inductive SubmissionState where
  | configuring
  | submitted
  | closed
  deriving DecidableEq, Repr

def Authentication.name : Authentication → String
  | .simple => "SIMPLE"
  | .kerberos => "KERBEROS"

def SubmissionState.name : SubmissionState → String
  | .configuring => "CONFIGURING"
  | .submitted => "SUBMITTED"
  | .closed => "CLOSED"

/-- A family of choices: its name, its members, and how they are called. -/
structure ChoiceFamily (α : Type) where
  name : String
  members : List α
  memberName : α → String

def Authentication.family : ChoiceFamily Authentication :=
  ⟨"Authentication", [.simple, .kerberos], Authentication.name⟩

def SubmissionState.family : ChoiceFamily SubmissionState :=
  ⟨"SubmissionState", [.configuring, .submitted, .closed], SubmissionState.name⟩

namespace ChoiceFamily

def names {α : Type} (f : ChoiceFamily α) : List String := f.members.map f.memberName

def find {α : Type} (f : ChoiceFamily α) : Value → Except Reason α
  | .text s =>
    match f.members.find? fun m => f.memberName m == Text.upper s with
    | some m => .ok m
    | none => .error (.notAMember f.name f.names)
  | _ => .error .wrongType

def isNamedBy {α : Type} (f : ChoiceFamily α) (m : α) : Value → Bool
  | .text s => f.memberName m == Text.upper s
  | _ => false

end ChoiceFamily
end ClusterSubmission
