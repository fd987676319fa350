import ClusterSubmission.Number.Quantity
import ClusterSubmission.Version.Basic

/-!
# Values

The arguments, settings and documents of a submission hold values of many kinds, and most
operations keep what they are given without a check. This module has the type of those values,
which of them count as set, and when two of them are equal.
-/
namespace ClusterSubmission

/-- A value as it is given in an argument or read from a document. A mapping keeps the order of its
entries. Versions, application handles and local resources are values too, with parts of any kind;
`moment` is a date or a point in time, by the name of its kind and its text. -/
inductive Value where
  | null
  | bool (b : Bool)
  | int (n : Int)
  | float (x : Binary64)
  | text (s : String)
  | bytes (bs : List UInt8)
  | list (items : List Value)
  | tuple (items : List Value)
  | mapping (entries : List (Value × Value))
  | path (s : String)
  | version (v : Version)
  | handle (id : Value)
  | resource (location size timestamp type visibility : Value)
  | moment (kind text : String)
  deriving Inhabited

/-- Integers from here on have too many digits to be written as text, by their distance to zero. -/
def textBound : Nat := Nat.pow 10 4300

namespace Value

/-- The name of the kind of a value. -/
def kindName : Value → String
  | .null => "NoneType"
  | .bool _ => "bool"
  | .int _ => "int"
  | .float _ => "float"
  | .text _ => "str"
  | .bytes _ => "bytes"
  | .list _ => "list"
  | .tuple _ => "tuple"
  | .mapping _ => "dict"
  | .path _ => "PurePosixPath"
  | .version _ => "HadoopVersion"
  | .handle _ => "ApplicationHandle"
  | .resource .. => "LocalResource"
  | .moment kind _ => kind

/-- Whether a value counts as set: everything but null, false, zeros and what is empty. -/
def isSet : Value → Bool
  | .null => false
  | .bool b => b
  | .int n => n != 0
  | .float x => !x.isZero
  | .text s => s != ""
  | .bytes bs => !bs.isEmpty
  | .list items => !items.isEmpty
  | .tuple items => !items.isEmpty
  | .mapping entries => !entries.isEmpty
  | .path _ | .version _ | .handle _ | .resource .. | .moment .. => true

def isNull : Value → Bool
  | .null => true
  | _ => false

def orElse (v w : Value) : Value := if v.isSet then v else w

def quantity? : Value → Option Quantity
  | .bool b => some (.int (if b then 1 else 0))
  | .int n => some (.int n)
  | .float x => some (.float x)
  | _ => none

def tupleItems? : Value → Option (List Value)
  | .tuple items => some items
  | .version v => some (v.parts.map .int)
  | _ => none

def sameQuantity (p q : Quantity) : Bool := Quantity.compare? p q == some .eq

def sameParts : List Int → List Value → Bool
  | [], [] => true
  | n :: ns, v :: vs =>
    (match v.quantity? with
      | some q => sameQuantity (.int n) q
      | none => false) && sameParts ns vs
  | _, _ => false

mutual
/-- Whether two values are equal. Numbers are equal by value, mappings in any order of entries. -/
def same : Value → Value → Bool
  | .null, .null => true
  | .text s, .text t => s == t
  | .bytes a, .bytes b => a == b
  | .list a, .list b => sameItems a b
  | .tuple a, w => match w.tupleItems? with
    | some b => sameItems a b
    | none => false
  | .version a, .version b => a == b
  | .version a, .tuple b => sameParts a.parts b
  | .mapping a, .mapping b => a.length == b.length && sameEntries a b
  | .path s, .path t => s == t
  | .handle a, .handle b => same a b
  | .resource a b c d e, .resource a2 b2 c2 d2 e2 =>
    same a a2 && same b b2 && same c c2 && same d d2 && same e e2
  | .moment k s, .moment l t => k == l && s == t
  | v, w => match v.quantity?, w.quantity? with
    | some p, some q => sameQuantity p q
    | _, _ => false
termination_by structural v => v

def sameItems : List Value → List Value → Bool
  | [], [] => true
  | v :: vs, w :: ws => same v w && sameItems vs ws
  | _, _ => false
termination_by structural vs => vs

def sameEntries : List (Value × Value) → List (Value × Value) → Bool
  | [], _ => true
  | (k, v) :: rest, other => (other.any fun e => same k e.1 && same v e.2) && sameEntries rest other
termination_by structural entries => entries
end

instance : BEq Value := ⟨same⟩

mutual
def isKey : Value → Bool
  | .list _ | .mapping _ => false
  | .tuple items => areKeys items
  | .handle a => isKey a
  | .resource a b c d e => isKey a && isKey b && isKey c && isKey d && isKey e
  | _ => true

def areKeys : List Value → Bool
  | [] => true
  | v :: vs => isKey v && areKeys vs
end

mutual
/-- Whether all integers inside a value are below a bound, by their distance to zero. -/
def isBelow (bound : Nat) : Value → Bool
  | .int n => n.natAbs < bound
  | .list items | .tuple items => areBelow bound items
  | .mapping entries => entriesBelow bound entries
  | .version v => v.parts.all fun n => n.natAbs < bound
  | .handle a => isBelow bound a
  | .resource a b c d e =>
    isBelow bound a && isBelow bound b && isBelow bound c && isBelow bound d && isBelow bound e
  | _ => true

def areBelow (bound : Nat) : List Value → Bool
  | [] => true
  | v :: vs => isBelow bound v && areBelow bound vs

def entriesBelow (bound : Nat) : List (Value × Value) → Bool
  | [] => true
  | (k, v) :: rest => isBelow bound k && isBelow bound v && entriesBelow bound rest
end

def lookup? (entries : List (Value × Value)) (key : Value) : Option Value :=
  (entries.find? fun e => e.1 == key).map (·.2)

/-- The entries with a value stored under a key, at its place if the key is there, else last. -/
def insert (entries : List (Value × Value)) (key value : Value) : List (Value × Value) :=
  if entries.any fun e => e.1 == key then
    entries.map fun e => if e.1 == key then (e.1, value) else e
  else entries ++ [(key, value)]

/-- The entries of the first mapping with those of the second stored into it. -/
def update (entries more : List (Value × Value)) : List (Value × Value) :=
  more.foldl (fun es e => insert es e.1 e.2) entries

def distinct (vs : List Value) : List Value :=
  vs.foldl (fun seen v => if seen.any (· == v) then seen else seen ++ [v]) []

/-- The members of a value that has some: of text its characters, of a mapping its keys. -/
def members? : Value → Option (List Value)
  | .text s => some (s.toList.map fun c => .text (String.singleton c))
  | .bytes bs => some (bs.map fun b => .int b.toNat)
  | .list items | .tuple items => some items
  | .version v => some (v.parts.map .int)
  | .mapping entries => some (entries.map (·.1))
  | _ => none

end Value
end ClusterSubmission
