import ClusterSubmission.Failure
import ClusterSubmission.Text.Character

/-!
# Reading cluster versions

A cluster reports its version as a text. It may begin with blanks and a `v`; up to three numbers
with points between them are the version, and whatever follows is a vendor's suffix.
-/
namespace ClusterSubmission

/-- The number that a run of digits denotes, unless it has too many digits. -/
def readInteger (ds : List Char) : Except Reason Int :=
  if 4300 < ds.length then .error (.integerTooLong ds.length) else .ok (Text.digitsValue ds)

namespace Version

/-- The digits after a point, and the text after them; none if the text has no point with a digit
after it. -/
def nextPart? : List Char → Option (List Char × List Char)
  | '.' :: rest =>
    match rest.span Text.isDigit with
    | ([], _) => none
    | (ds, rest) => some (ds, rest)
  | _ => none

/-- The digits of the parts that a version text has, at most three. -/
def digitRuns (cs : List Char) : List (List Char) :=
  let cs := cs.dropWhile Text.isBlank
  let cs := match cs with
    | 'v' :: rest => rest
    | _ => cs
  match cs.span Text.isDigit with
  | ([], _) => []
  | (major, rest) =>
    match nextPart? rest with
    | none => [major]
    | some (minor, rest) =>
      match nextPart? rest with
      | none => [major, minor]
      | some (patch, _) => [major, minor, patch]

def read (text : String) : Except Reason Version :=
  match digitRuns text.toList with
  | [] => .error (.versionUnreadable text)
  | [a] => do return ⟨← readInteger a, 0, 0⟩
  | [a, b] => do return ⟨← readInteger a, ← readInteger b, 0⟩
  | a :: b :: c :: _ => do return ⟨← readInteger a, ← readInteger b, ← readInteger c⟩

def ofValue : Value → Except Reason Version
  | .version v => .ok v
  | v => read v.plain

/-- Whether one version, as a value, is the same as or later than another one. -/
def isAtOrAfter (version minimum : Value) : Except Reason Bool := do
  return (← ofValue version).atLeast (← ofValue minimum)

end Version
end ClusterSubmission
