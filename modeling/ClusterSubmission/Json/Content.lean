import ClusterSubmission.Failure
import ClusterSubmission.Json.Reader

/-!
# The content of a document

A document without a model is read as a value. The first fault in it is reported: a place that is
malformed, or text whose bytes are no UTF-8. Of entries with the same name the last one counts, at
the place of the first.
-/
namespace ClusterSubmission.Json

mutual
/-- The value that a tree holds. -/
def contentOf : Document → Except Reason Value
  | .null => .ok .null
  | .bool b => .ok (.bool b)
  | .int n => .ok (.int n)
  | .float x => .ok (.float x)
  | .text (some s) => .ok (.text s)
  | .text none => .error .illFormedText
  | .array items closed => do
    let vs ← itemsOf items
    if closed then return .list vs else throw .malformedDocument
  | .object entries closed => do
    let es ← entriesOf entries []
    if closed then return .mapping es else throw .malformedDocument
  | .hugeInt | .hugeFloat | .other _ | .broken => .error .malformedDocument

def itemsOf : List Document → Except Reason (List Value)
  | [] => .ok []
  | d :: ds => do
    let v ← contentOf d
    return v :: (← itemsOf ds)

/-- The entries of an object, stored into those already read. -/
def entriesOf : List (DocumentKey × Document) → List (Value × Value) →
    Except Reason (List (Value × Value))
  | [], done => .ok done
  | (.name (some key), d) :: rest, done => do
    let v ← contentOf d
    entriesOf rest (Value.insert done (.text key) v)
  | (.name none, _) :: _, _ => .error .illFormedText
  | (.other _, _) :: _, _ => .error .malformedDocument
end

def content (bs : List UInt8) : Except Reason Value :=
  match Json.read bs with
  | (d, finished) => do
    let v ← contentOf d
    if finished then return v else throw .malformedDocument

end ClusterSubmission.Json
