import ClusterSubmission.Failure
import ClusterSubmission.Submission.Record

/-!
# Scripts

A rehearsal of a submission needs no cluster: every operation is answered from a script. The script
says which operations fail, and it keeps what was asked for.
-/
namespace ClusterSubmission

/-- The operations that a submission needs from the cluster. -/
inductive Operation where
  | createApplication
  | clusterVersion
  | submit
  | obtainCredential
  | close
  deriving DecidableEq, Repr

/-- The script of a rehearsal: what is answered, which calls of an operation fail in turn, which
calls there were, the last one first, and the last order. -/
structure Script where
  applicationId : Value := .text "application_1700000000000_0042"
  ceiling : Ceiling := ⟨.int 4096, .int 8⟩
  version : Value := .text "3.3.6"
  credential : Credential := { token := .text "dG9rZW4", service := .text "rm:8088" }
  troubles : List (Operation × List (Option Failure)) := []
  calls : List Operation := []
  order : Option SubmissionOrder := none

namespace Script

def nextTrouble (s : Script) (op : Operation) : Option Failure :=
  ((s.troubles.find? (·.1 == op)).bind fun t => t.2.head?).join

def advance (s : Script) (op : Operation) : Script :=
  { s with
    calls := op :: s.calls
    troubles := s.troubles.map fun t => if t.1 == op then (t.1, t.2.drop 1) else t }

end Script
end ClusterSubmission
