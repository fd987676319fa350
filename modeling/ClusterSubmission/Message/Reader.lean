import ClusterSubmission.Message.Part
import ClusterSubmission.Json.Reader
import ClusterSubmission.Text.LetterCase

/-!
# Reading messages

A document becomes a message if it has the shape of the message's model. The document is looked at
from the beginning to its end, and the first thing that does not fit is reported; fields that are
missing are reported after everything present has been read. Fields that the model does not know
are skipped, but they have to be well-formed.
-/
namespace ClusterSubmission.Message

/-- How exact values must be. A lenient reader also takes numbers and words in text. -/
inductive Strictness where
  | strict | lenient
  deriving DecidableEq, Repr

/-- The name of the kind of a document. -/
def documentKind : Document → String
  | .null => "null"
  | .bool _ => "bool"
  | .int _ | .hugeInt => "int"
  | .float _ | .hugeFloat => "float"
  | .text _ => "str"
  | .array .. => "array"
  | .object .. => "object"
  | .other kindName => kindName
  | .broken => ""

mutual
def isWhole : Document → Bool
  | .broken => false
  | .array items closed => areWhole items && closed
  | .object entries closed => entriesWhole entries && closed
  | _ => true

def areWhole : List Document → Bool
  | [] => true
  | d :: ds => isWhole d && areWhole ds

def entriesWhole : List (DocumentKey × Document) → Bool
  | [] => true
  | (_, d) :: es => isWhole d && entriesWhole es
end

def faultAt (way : List PlaceStep) (fault : Fault) : Reason := .mismatch ⟨fault, ⟨way, false⟩⟩

def wrongKind (way : List PlaceStep) (shape : Shape) (got : String) : Reason :=
  faultAt way (.kind shape.kindName got)

def largestIntegral : Int := Nat.pow 2 53

/-- The integer that a binary number stands for, if it is one and not too large. -/
def integral? (x : Binary64) : Option Int :=
  match x.toInt? with
  | some n => if n.natAbs ≤ largestIntegral.natAbs then some n else none
  | none => none

def numberInText? (s : String) : Option Document :=
  let (negative, bs) := match Text.utf8 s with
    | b :: bs => if b == Json.byte '-' then (true, bs) else (false, b :: bs)
    | [] => (false, [])
  match Json.number negative bs with
  | (.broken, _) => none
  | (d, []) => some d
  | _ => none

/-- The integer in a text, for a lenient reader. -/
def integerInText (way : List PlaceStep) (shape : Shape) (s : String) : Except Reason Int :=
  match numberInText? s with
  | some (.int n) => .ok n
  | some .hugeInt => .error (faultAt way .integerOutOfRange)
  | some .hugeFloat => .error (faultAt way .numberOutOfRange)
  | some (.float x) =>
    match integral? x with
    | some n => .ok n
    | none => .error (wrongKind way shape "str")
  | _ => .error (wrongKind way shape "str")

def boundedInteger (way : List PlaceStep) (least : Option Int) (n : Int) : Except Reason Part :=
  match least with
  | some bound => if n < bound then .error (faultAt way (.below bound)) else .ok (.leaf (.int n))
  | none => .ok (.leaf (.int n))

/-- The integer that a document stands for. -/
def readInteger (mode : Strictness) (way : List PlaceStep) (shape : Shape) (least : Option Int) :
    Document → Except Reason Part
  | .int n => boundedInteger way least n
  | .float x =>
    if mode = .lenient then
      match integral? x with
      | some n => boundedInteger way least n
      | none => .error (wrongKind way shape "float")
    else .error (wrongKind way shape "float")
  | .text (some s) =>
    if mode = .lenient then do boundedInteger way least (← integerInText way shape s)
    else .error (wrongKind way shape "str")
  | d => .error (wrongKind way shape (documentKind d))

def booleanInText? (s : String) : Option Bool :=
  if s == "1" || Text.lower s == "true" && s.length = s.utf8ByteSize then some true
  else if s == "0" || Text.lower s == "false" && s.length = s.utf8ByteSize then some false
  else none

/-- The truth value that a document stands for. -/
def readBoolean (mode : Strictness) (way : List PlaceStep) (shape : Shape) :
    Document → Except Reason Part
  | .bool b => .ok (.leaf (.bool b))
  | .int n =>
    if mode = .lenient && (n = 0 || n = 1) then .ok (.leaf (.bool (n = 1)))
    else .error (wrongKind way shape "int")
  | .text (some s) =>
    match mode, booleanInText? s with
    | .lenient, some b => .ok (.leaf (.bool b))
    | _, _ => .error (wrongKind way shape "str")
  | d => .error (wrongKind way shape (documentKind d))

def ruledText (way : List PlaceStep) (rule : TextRule) (s : String) : Except Reason Part :=
  match rule with
  | .any => .ok (.leaf (.text s))
  | .nonEmpty =>
    if s == "" then .error (faultAt way (.tooShort 1)) else .ok (.leaf (.text s))
  | .applicationId =>
    if ApplicationId.isValid s then .ok (.leaf (.text s))
    else .error (faultAt way (.offPattern ApplicationId.pattern))

def chosenText (way : List PlaceStep) (names : List String) (s : String) : Except Reason Part :=
  if names.contains s then .ok (.leaf (.text s)) else .error (faultAt way (.notAChoice s))

def isNullWord (s : String) : Bool := Text.lower s == "null" && s.length = s.utf8ByteSize

/-- A text of a shape that takes text, none for the other shapes. -/
def readText? (mode : Strictness) (way : List PlaceStep) (shape : Shape) (s : String) :
    Option (Except Reason Part) :=
  match shape with
  | .text rule => some (ruledText way rule s)
  | .optionalText | .booleanOrText | .recordOrText _ => some (.ok (.leaf (.text s)))
  | .choice names => some (chosenText way names s)
  | .optionalChoice names =>
    if mode = .lenient && isNullWord s then some (.ok (.leaf .null))
    else some (chosenText way names s)
  | _ => none

/-- A value that is neither an array nor an object. -/
def readScalar (mode : Strictness) (way : List PlaceStep) (shape : Shape) (d : Document) :
    Except Reason Part :=
  match d with
  | .broken => .error .malformedDocument
  | .hugeInt => .error (faultAt way .integerOutOfRange)
  | .hugeFloat => .error (faultAt way .numberOutOfRange)
  | .text none =>
    if (readText? mode way shape "").isSome then .error .illFormedText
    else .error (wrongKind way shape "str")
  | .text (some s) =>
    match readText? mode way shape s with
    | some r => r
    | none =>
      match shape with
      | .integer least => readInteger mode way shape least d
      | .optionalInteger =>
        if mode = .lenient && isNullWord s then .ok (.leaf .null)
        else readInteger mode way shape none d
      | .boolean => readBoolean mode way shape d
      | _ => .error (wrongKind way shape "str")
  | .null =>
    match shape with
    | .optionalText | .optionalInteger | .optionalChoice _ | .optionalRecord _ =>
      .ok (.leaf .null)
    | _ => .error (wrongKind way shape "null")
  | d =>
    match shape with
    | .integer least => readInteger mode way shape least d
    | .optionalInteger => readInteger mode way shape none d
    | .boolean | .booleanOrText => readBoolean mode way shape d
    | _ => .error (wrongKind way shape (documentKind d))

def Shape.recordModel? : Shape → Option Model
  | .record m | .optionalRecord m | .recordOrText m => some m
  | _ => none

def missingField? : List Field → List (Option Part) → Option String
  | f :: fs, none :: slots =>
    match f.default with
    | .required => some f.wire
    | _ => missingField? fs slots
  | _ :: fs, some _ :: slots => missingField? fs slots
  | _, _ => none

def finishRecord (way : List PlaceStep) (m : Model) (slots : List (Option Part)) :
    Except Reason Part :=
  match missingField? m.fields slots with
  | some name => .error (faultAt way (.missingField name))
  | none => .ok (.record m slots)

mutual
/-- The part of a shape that a document holds. -/
def read (mode : Strictness) (way : List PlaceStep) (shape : Shape) :
    Document → Except Reason Part
  | .array items closed =>
    match shape with
    | .list item => do
      let parts ← readItems mode way item 0 items
      if closed then return .list parts else throw .malformedDocument
    | _ => .error (wrongKind way shape "array")
  | .object entries closed =>
    match shape.recordModel? with
    | some m => do
      let slots ← readEntries mode way m entries (m.fields.map fun _ => none)
      if closed then finishRecord way m slots else throw .malformedDocument
    | none =>
      match shape with
      | .textMap => do
        let entries ← readTextEntries mode way entries []
        if closed then return .leaf (.mapping entries) else throw .malformedDocument
      | _ => .error (wrongKind way shape "object")
  | d => readScalar mode way shape d

def readItems (mode : Strictness) (way : List PlaceStep) (item : Shape) (index : Nat) :
    List Document → Except Reason (List Part)
  | [] => .ok []
  | d :: ds => do
    let p ← read mode (way ++ [.item index]) item d
    let ps ← readItems mode way item (index + 1) ds
    return p :: ps

/-- The fields of a record, put into their slots. -/
def readEntries (mode : Strictness) (way : List PlaceStep) (m : Model) :
    List (DocumentKey × Document) → List (Option Part) → Except Reason (List (Option Part))
  | [], slots => .ok slots
  | (.other _, _) :: _, _ => .error (.mismatch ⟨.keyKind, ⟨way, true⟩⟩)
  | (.name key, d) :: rest, slots =>
    match key.bind m.field? with
    | some (index, f) => do
      let p ← read mode (way ++ [.field f.wire]) f.shape d
      readEntries mode way m rest (slots.set index (some p))
    | none => if isWhole d then readEntries mode way m rest slots else .error .malformedDocument

/-- The entries of a mapping from text to text, after those already read. -/
def readTextEntries (mode : Strictness) (way : List PlaceStep) :
    List (DocumentKey × Document) → List (Value × Value) → Except Reason (List (Value × Value))
  | [], done => .ok done
  | (.other got, _) :: _, _ =>
    .error (.mismatch ⟨.kind (Shape.text .any).kindName got, ⟨way, true⟩⟩)
  | (.name none, _) :: _, _ => .error .illFormedText
  | (.name (some key), d) :: rest, done => do
    let p ← read mode (way ++ [.anyValue]) (.text .any) d
    readTextEntries mode way rest (Value.insert done (.text key) p.value)
end

end ClusterSubmission.Message
