import ClusterSubmission.Number.Reader
import ClusterSubmission.Text.Base64
import ClusterSubmission.Text.Path
import ClusterSubmission.Text.Unicode
import ClusterSubmission.Yaml.Moment
import ClusterSubmission.Yaml.Word

/-!
# Scalars

A plain scalar without a tag is of the kind that its text looks like: nothing, a truth value, a
number, a point in time, or else text. A tag names the kind outright, and then the text has to be
one of that kind.
-/
namespace ClusterSubmission.Yaml

/-- The kinds of nodes. A merge key stands for the entries of its value, and a default key for
itself. -/
inductive Kind where
  | null | bool | int | float | binary | moment | text
  | sequence | mapping | set | ordered | pairs
  | merge | defaultKey | unknown
  deriving DecidableEq, Repr

def truthWords : List (String × Bool) :=
  [("yes", true), ("no", false), ("true", true), ("false", false), ("on", true), ("off", false)]

/-- A word in small letters, with a capital first letter, and in capital letters. -/
def cases (s : String) : List String :=
  let upper := String.ofList (s.toList.map Char.toUpper)
  [s, String.ofList (upper.toList.take 1 ++ s.toList.drop 1), upper]

def isDigitOrBar (c : Char) : Bool := c.isDigit || c = '_'

def isSixtieth : List Char → Bool
  | [d] => d.isDigit
  | [t, d] => '0' ≤ t && t ≤ '5' && d.isDigit
  | _ => false

def isSexagesimal (cs : List Char) : Bool :=
  match Text.splitOnChar ':' cs with
  | (d :: ds) :: group :: groups =>
    d.isDigit && ds.all isDigitOrBar && (group :: groups).all isSixtieth
  | _ => false

def isInteger (cs : List Char) : Bool :=
  match (Number.takeSign cs).2 with
  | '0' :: 'b' :: ds => !ds.isEmpty && ds.all ['0', '1', '_'].contains
  | '0' :: 'x' :: ds => !ds.isEmpty && ds.all fun c => c = '_' || isHexDigit c
  | '0' :: ds => ds.all fun c => c = '_' || ('0' ≤ c && c ≤ '7')
  | d :: ds => d.isDigit && (ds.all isDigitOrBar || isSexagesimal (d :: ds))
  | [] => false

def isExponent : List Char → Bool
  | [] => true
  | e :: sign :: ds =>
    (e = 'e' || e = 'E') && (sign = '+' || sign = '-') && !ds.isEmpty && ds.all Char.isDigit
  | _ => false

/-- Whether a plain scalar is a binary number. -/
def isFloat (cs : List Char) : Bool :=
  let (whole, rest) := (Number.takeSign cs).2.span fun c => c ≠ '.'
  match whole, rest with
  | [], '.' :: rest =>
    let word := String.ofList rest
    if ["inf", "Inf", "INF"].contains word then true
    else if cs.head? ≠ some '.' then false
    else if ["nan", "NaN", "NAN"].contains word then true
    else (rest.head?.any Char.isDigit) && isExponent (rest.dropWhile isDigitOrBar)
  | d :: ds, '.' :: rest =>
    let rest := rest.dropWhile isDigitOrBar
    if ds.all isDigitOrBar then d.isDigit && isExponent rest
    else isSexagesimal (d :: ds) && rest.isEmpty
  | _, _ => false

/-- The kind that a plain scalar looks like. -/
def plainKind (s : String) : Kind :=
  let cs := s.toList
  if s == "" || s == "~" || (cases "null").contains s then .null
  else if truthWords.any fun w => (cases w.1).contains s then .bool
  else if isFloat cs then .float
  else if isInteger cs then .int
  else if s == "<<" then .merge
  else if isMoment cs then .moment
  else if s == "=" then .defaultKey
  else .text

def namedKinds : List (String × Kind) :=
  [("null", .null), ("bool", .bool), ("int", .int), ("float", .float), ("binary", .binary),
    ("timestamp", .moment), ("str", .text), ("seq", .sequence), ("map", .mapping), ("set", .set),
    ("omap", .ordered), ("pairs", .pairs), ("merge", .merge), ("value", .defaultKey)]

def taggedKind (tag : String) : Kind :=
  ((namedKinds.find? fun k => "tag:yaml.org,2002:" ++ k.1 == tag).map (·.2)).getD .unknown

def scalarKind (tag : Option String) (isPlain : Bool) (s : String) : Kind :=
  match tag with
  | none => if isPlain then plainKind s else .text
  | some "!" => plainKind s
  | some t => taggedKind t

def withoutBars (s : String) : String := String.ofList (s.toList.filter (· ≠ '_'))

/-- A sign at the beginning of a number, and the text after it. There has to be something. -/
def signOf (s : String) : Except Reason (Bool × String) :=
  match s.toList with
  | [] => .error .characterMissing
  | cs =>
    let (negative, cs) := Number.takeSign cs
    .ok (negative, String.ofList cs)

def integerIn (base : Nat) (s : String) : Except Reason Int :=
  match Number.integer? base s with
  | none => .error (.integerUnreadable base s)
  | some n =>
    let digits := Number.digitCount s
    if base = 10 && 4300 < digits then .error (.integerTooLong digits) else .ok n

/-- The parts of a number that is given in hours, minutes and seconds. -/
def sexagesimalParts (s : String) : List String :=
  (Text.splitOnChar ':' s.toList).map String.ofList

/-- The integer that a scalar stands for. -/
def integerValue (s : String) : Except Reason Int := do
  let (negative, s) ← signOf (withoutBars s)
  let n ← match s.toList with
    | ['0'] => pure 0
    | '0' :: 'b' :: ds => integerIn 2 (String.ofList ds)
    | '0' :: 'x' :: ds => integerIn 16 (String.ofList ds)
    | '0' :: _ => integerIn 8 s
    | [] => throw .characterMissing
    | cs =>
      if cs.contains ':' then do
        let parts ← (sexagesimalParts s).mapM (integerIn 10)
        pure (parts.foldl (fun n d => 60 * n + d) 0)
      else integerIn 10 s
  return if negative then -n else n

def floatIn (s : String) : Except Reason Binary64 :=
  match Number.float? s with
  | some x => .ok x
  | none => .error (.numberUnreadable s)

/-- The sum of parts, each of them worth sixty times the part after it; the last one comes first. -/
def sexagesimalSum (total : Binary64) (weight : Nat) : List Binary64 → Binary64
  | [] => total
  | x :: xs => sexagesimalSum (total.add (x.timesNat weight)) (60 * weight) xs

/-- The binary number that a scalar stands for. -/
def floatValue (s : String) : Except Reason Binary64 := do
  let (negative, s) ← signOf (String.ofList ((withoutBars s).toList.map Char.toLower))
  let x ←
    if s == ".inf" then pure (.infinite false)
    else if s == ".nan" then pure .nan
    else if s.toList.contains ':' then do
      let parts ← (sexagesimalParts s).mapM floatIn
      pure (sexagesimalSum (Binary64.zero false) 1 parts.reverse)
    else floatIn s
  return if negative then x.negate else x

/-- The value of a scalar of a kind. -/
def scalarValue (kind : Kind) (s : String) : Except Reason Value :=
  match kind with
  | .null => .ok .null
  | .bool =>
    let word := String.ofList (s.toList.map Char.toLower)
    match truthWords.find? (·.1 == word) with
    | some (_, b) => .ok (.bool b)
    | none => .error (.given .missingKey [.text word])
  | .int => do return .int (← integerValue s)
  | .float => do return .float (← floatValue s)
  | .binary =>
    if s.toList.any fun c => 0x80 ≤ c.toNat then .error .malformedDocument
    else match Text.base64Bytes? .standard [] 0 s.toList with
      | some bs => .ok (.bytes bs)
      | none => .error .malformedDocument
  | .moment =>
    match moment? s.toList with
    | some m => m.value
    | none => .error .noAttribute
  | .text => .ok (.text s)
  | _ => .error .malformedDocument

end ClusterSubmission.Yaml
