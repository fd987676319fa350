import ClusterSubmission.Version.Reader

/-!
# Application ids

The resource manager names an application by the time of its own start and a running number. A
line break after the id is let through.
-/
namespace ClusterSubmission.ApplicationId

def pattern : String := "'^application_\\\\d+_\\\\d+$'"

def leading : List Char := "application_".toList

/-- The digits of both numbers of an application id. -/
def split? (cs : List Char) : Option (List Char × List Char) :=
  if leading.isPrefixOf cs then
    match (cs.drop leading.length).span Text.isDigit with
    | (start, '_' :: rest) =>
      match rest.span Text.isDigit with
      | (sequence, tail) =>
        if start != [] && sequence != [] && (tail == [] || tail == ['\n']) then
          some (start, sequence)
        else none
    | _ => none
  else none

def isValid (s : String) : Bool := (split? s.toList).isSome

/-- The id of a handle for a value: an application id in text. What counts as not set is no id, and
any other value cannot be looked at. -/
def parse (v : Value) : Except Reason String :=
  match v with
  | .text s => if isValid s then .ok s else .error (.applicationIdInvalid s)
  | v => if v.isSet then .error .wrongType else .error (.applicationIdInvalid v.plain)

def digits (id : Value) : Except Reason (List Char × List Char) :=
  match id with
  | .text s =>
    match split? s.toList with
    | some runs => .ok runs
    | none => .error .noAttribute
  | _ => .error .wrongType

def clusterTimestamp (id : Value) : Except Reason Int := do
  readInteger (← digits id).1

def sequence (id : Value) : Except Reason Int := do
  readInteger (← digits id).2

end ClusterSubmission.ApplicationId
