/-!
# Binary floating point numbers

The finite numbers of the 64 bit format are the products of a 53 bit mantissa and a power of two.
Every operation is exact arithmetic on integers followed by one rounding to the nearest number,
where a tie goes to the even mantissa.
-/
namespace ClusterSubmission

/-- A binary64 number. A finite one is `mantissa * 2 ^ exponent` with its sign, where the mantissa
has 53 bits or the exponent is the least one, -1074. -/
inductive Binary64 where
  | finite (negative : Bool) (mantissa : Nat) (exponent : Int)
  | infinite (negative : Bool)
  | nan
  deriving DecidableEq, Repr, Inhabited

namespace Binary64

def minExponent : Int := -1074

def zero (negative : Bool) : Binary64 := .finite negative 0 minExponent

/-- The quotient of natural numbers, rounded to the nearest integer, a tie to the even one. -/
def divRound (num den : Nat) : Nat :=
  let q := num / den
  let r := num % den
  if 2 * r < den then q
  else if den < 2 * r then q + 1
  else if q % 2 = 0 then q else q + 1

def ratioLog2 (num den : Nat) : Int :=
  let l : Int := (num.log2 : Int) - (den.log2 : Int)
  let below := if 0 ≤ l then num < den <<< l.toNat else num <<< (-l).toNat < den
  if below then l - 1 else l

def ofRatio (negative : Bool) (num den : Nat) : Binary64 :=
  if num = 0 then zero negative
  else
    let e := max (ratioLog2 num den - 52) minExponent
    let m := if 0 ≤ e then divRound num (den <<< e.toNat) else divRound (num <<< (-e).toNat) den
    let (m, e) := if m = Nat.pow 2 53 then (Nat.pow 2 52, e + 1) else (m, e)
    if 971 < e then .infinite negative else .finite negative m e

def ofDecimal (negative : Bool) (digits : Nat) (power : Int) : Binary64 :=
  if digits = 0 then zero negative
  else
    let size : Int := ((digits.log2 : Int) * 3 + 9) / 10
    if 400 < size + power then .infinite negative
    else if size + size / 5 + power < -400 then zero negative
    else if 0 ≤ power then ofRatio negative (digits * Nat.pow 10 power.toNat) 1
    else ofRatio negative digits (Nat.pow 10 (-power).toNat)

def ofInt (n : Int) : Binary64 :=
  ofRatio (n < 0) n.natAbs 1

def scaled? : Binary64 → Option Int
  | .finite negative m e =>
    let n : Int := ((m <<< (e - minExponent).toNat : Nat) : Int)
    some (if negative then -n else n)
  | _ => none

/-- The factor between a number and its multiple of the least positive one. -/
def scale : Nat := Nat.pow 2 1074

def isZero : Binary64 → Bool
  | .finite _ m _ => m == 0
  | _ => false

/-- Whether a number is smaller than another one; nothing is smaller or greater than `nan`. -/
def lt (x y : Binary64) : Bool :=
  match x, y with
  | .nan, _ | _, .nan => false
  | .infinite s, .infinite t => s && !t
  | .infinite s, _ => s
  | _, .infinite t => !t
  | x, y => match x.scaled?, y.scaled? with
    | some a, some b => a < b
    | _, _ => false

def beq (x y : Binary64) : Bool :=
  match x, y with
  | .nan, _ | _, .nan => false
  | .infinite s, .infinite t => s == t
  | .infinite _, _ | _, .infinite _ => false
  | x, y => x.scaled? == y.scaled?

/-- The sum, rounded once. -/
def add (x y : Binary64) : Binary64 :=
  match x, y with
  | .nan, _ | _, .nan => .nan
  | .infinite s, .infinite t => if s = t then .infinite s else .nan
  | .infinite s, _ => .infinite s
  | _, .infinite t => .infinite t
  | .finite s m e, .finite t n f =>
    match (finite s m e).scaled?, (finite t n f).scaled? with
    | some a, some b =>
      if a + b = 0 then zero (s && t) else ofRatio (a + b < 0) (a + b).natAbs scale
    | _, _ => .nan

def negate : Binary64 → Binary64
  | .finite s m e => .finite (!s) m e
  | .infinite s => .infinite (!s)
  | .nan => .nan

def timesNat (x : Binary64) (n : Nat) : Binary64 :=
  match x with
  | .finite s _ _ =>
    match x.scaled? with
    | some a => ofRatio s (a.natAbs * n) scale
    | none => .nan
  | x => x

def toInt? (x : Binary64) : Option Int :=
  match x.scaled? with
  | some a => if a % (scale : Int) = 0 then some (a / (scale : Int)) else none
  | none => none

end Binary64
end ClusterSubmission
