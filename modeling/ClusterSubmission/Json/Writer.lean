import ClusterSubmission.Value.Text
import ClusterSubmission.Text.Base64

/-!
# Writing JSON

Values are written without white space. Text keeps every character that may stand in a string, bytes
become base64 text, and a number without a finite value becomes null. Paths, moments and keys that
are neither text nor integers have no form.
-/
namespace ClusterSubmission.Json

/-- A character inside a string. -/
def stringChar (c : Char) : List Char :=
  if c = '"' then ['\\', '"']
  else if c = '\\' then ['\\', '\\']
  else if c = '\n' then ['\\', 'n']
  else if c = '\r' then ['\\', 'r']
  else if c = '\t' then ['\\', 't']
  else if c.toNat = 0x08 then ['\\', 'b']
  else if c.toNat = 0x0c then ['\\', 'f']
  else if c.toNat < 0x20 then ['\\', 'u'] ++ Text.hexText 4 c.toNat
  else [c]

def stringChars (s : String) : List Char :=
  '"' :: s.toList.flatMap stringChar ++ ['"']

def keyChars? : Value → Option (List Char)
  | .text s => some (stringChars s)
  | .int n => some (stringChars (Text.intText n))
  | _ => none

mutual
/-- The characters of a value, if it has a form. -/
def chars? : Value → Option (List Char)
  | .null => some "null".toList
  | .bool true => some "true".toList
  | .bool false => some "false".toList
  | .int n => some (Text.intText n).toList
  | .float (.finite s m e) => some (Decimal.json.text (.finite s m e)).toList
  | .float _ => some "null".toList
  | .text s => some (stringChars s)
  | .bytes bs => some ('"' :: Text.base64Chars .standard bs ++ ['"'])
  | .list vs | .tuple vs => (itemChars? vs).map fun cs => '[' :: cs ++ [']']
  | .version v => some ('[' :: (Text.intText v.major).toList ++ ',' :: (Text.intText v.minor).toList
      ++ ',' :: (Text.intText v.patch).toList ++ [']'])
  | .mapping es => (entryChars? es).map fun cs => '\x7b' :: cs ++ ['\x7d']
  | .handle v => (chars? v).map fun cs => "\x7b\"id\":".toList ++ cs ++ ['\x7d']
  | .resource a b c d e => do
    let a ← chars? a
    let b ← chars? b
    let c ← chars? c
    let d ← chars? d
    let e ← chars? e
    some ("\x7b\"location\":".toList ++ a ++ ",\"size\":".toList ++ b ++ ",\"timestamp\":".toList
      ++ c ++ ",\"type\":".toList ++ d ++ ",\"visibility\":".toList ++ e ++ ['\x7d'])
  | .path _ | .moment .. => none

def itemChars? : List Value → Option (List Char)
  | [] => some []
  | [v] => chars? v
  | v :: w :: vs => do
    let a ← chars? v
    let b ← itemChars? (w :: vs)
    some (a ++ ',' :: b)

/-- The entries of an object, separated by commas. -/
def entryChars? : List (Value × Value) → Option (List Char)
  | [] => some []
  | [(k, v)] => do
    let k ← keyChars? k
    let v ← chars? v
    some (k ++ ':' :: v)
  | (k, v) :: e :: es => do
    let k ← keyChars? k
    let v ← chars? v
    let rest ← entryChars? (e :: es)
    some (k ++ ':' :: v ++ ',' :: rest)
end

def write? (v : Value) : Option String := (chars? v).map String.ofList

end ClusterSubmission.Json
