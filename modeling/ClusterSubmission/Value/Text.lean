import ClusterSubmission.Value.Basic
import ClusterSubmission.Number.Decimal
import ClusterSubmission.Text.Quoted

/-!
# The text of values

Inside messages a value stands as its text, and inside a collection each member stands as its
literal, where text is quoted. Numbers that are too long have no text.
-/
namespace ClusterSubmission.Value

def commaList (parts : List String) : String := String.intercalate ", " parts

def tupleText (parts : List String) : String :=
  match parts with
  | [part] => "(" ++ part ++ ",)"
  | parts => "(" ++ commaList parts ++ ")"

mutual
/-- The literal of a value. -/
def literal : Value → String
  | .null => "None"
  | .bool true => "True"
  | .bool false => "False"
  | .int n => Text.intText n
  | .float x => Decimal.message.text x
  | .text s => Text.quoted s
  | .bytes bs => Text.quotedBytes bs
  | .list items => "[" ++ commaList (literals items) ++ "]"
  | .tuple items => tupleText (literals items)
  | .mapping entries => "\x7b" ++ commaList (entryLiterals entries) ++ "\x7d"
  | .path s => "PurePosixPath(" ++ Text.quoted s ++ ")"
  | .version v =>
    "HadoopVersion(major=" ++ Text.intText v.major ++ ", minor=" ++ Text.intText v.minor
      ++ ", patch=" ++ Text.intText v.patch ++ ")"
  | .handle a => "ApplicationHandle(id=" ++ literal a ++ ")"
  | .resource a b c d e =>
    "LocalResource(location=" ++ literal a ++ ", size=" ++ literal b ++ ", timestamp=" ++ literal c
      ++ ", type=" ++ literal d ++ ", visibility=" ++ literal e ++ ")"
  | .moment kind s => "datetime." ++ kind ++ "(" ++ s ++ ")"

def literals : List Value → List String
  | [] => []
  | v :: vs => literal v :: literals vs

def entryLiterals : List (Value × Value) → List String
  | [] => []
  | (k, v) :: rest => (literal k ++ ": " ++ literal v) :: entryLiterals rest
end

/-- The text of a value: text as it is, and everything else as its literal. -/
def plain : Value → String
  | .text s => s
  | .path s => s
  | .version v => v.text
  | .handle a => plain a
  | v => literal v

end ClusterSubmission.Value
