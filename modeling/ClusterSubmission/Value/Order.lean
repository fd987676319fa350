import ClusterSubmission.Value.Basic

/-!
# The order of values

Numbers are ordered by value, text and bytes by their first difference, and collections by the
first members that differ. There is no order between other values.
-/
namespace ClusterSubmission.Value

def bytesBefore : List UInt8 → List UInt8 → Bool
  | _, [] => false
  | [], _ :: _ => true
  | a :: as, b :: bs => a < b || a == b && bytesBefore as bs

mutual
/-- Whether a value comes before another one, none if there is no order between them. -/
def isBefore? : Value → Value → Option Bool
  | .text s, .text t => some (decide (s < t))
  | .bytes a, .bytes b => some (bytesBefore a b)
  | .list a, .list b => itemsBefore? a b
  | .tuple a, w => w.tupleItems?.bind (itemsBefore? a)
  | .version a, w => w.tupleItems?.bind (partsBefore? a.parts)
  | .path s, .path t => some (decide (s < t))
  | v, w => match v.quantity?, w.quantity? with
    | some p, some q => some (p.lt q)
    | _, _ => none
termination_by structural v => v

/-- Whether a list comes before another one: the first members that differ decide, then the
lengths. -/
def itemsBefore? : List Value → List Value → Option Bool
  | _, [] => some false
  | [], _ :: _ => some true
  | v :: vs, w :: ws => if v == w then itemsBefore? vs ws else isBefore? v w
termination_by structural vs => vs

def partsBefore? : List Int → List Value → Option Bool
  | _, [] => some false
  | [], _ :: _ => some true
  | n :: ns, w :: ws =>
    if Value.int n == w then partsBefore? ns ws
    else w.quantity?.map fun q => Quantity.lt (.int n) q
end

end ClusterSubmission.Value
