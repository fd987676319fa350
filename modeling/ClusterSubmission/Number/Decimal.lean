import ClusterSubmission.Number.Binary64
import ClusterSubmission.Text.Character

/-!
# Decimal text of binary numbers

A number is written with the fewest digits that read back as the same number, and of those with the
ones nearest to it. A format says where the exponent takes over and how it is spelled.
-/
namespace ClusterSubmission

/-- A positive decimal number, `digits * 10 ^ power`. -/
structure Decimal where
  digits : Nat
  power : Int
  deriving DecidableEq, Repr

namespace Decimal

def digitCount (n : Nat) : Nat := (Nat.toDigits 10 n).length

/-- Removes the zeros at the end of the digits; the first argument bounds their number. -/
def trimZeros : Nat → Decimal → Decimal
  | 0, d => d
  | fuel + 1, d =>
    if d.digits % 10 = 0 && d.digits != 0 then trimZeros fuel ⟨d.digits / 10, d.power + 1⟩ else d

/-- The place of the decimal point of a positive ratio: it is at least a tenth of ten to that power
and less than that power. -/
def pointPlace (num den : Nat) : Int :=
  if den ≤ num then digitCount (num / den)
  else
    let d := digitCount (den / num)
    if num * Nat.pow 10 (d - 1) = den then 2 - (d : Int) else 1 - (d : Int)

/-- The reals that round to one number: from `low / den` to `high / den`, with the ends or without
them, and the number `num / den` itself. -/
structure Interval where
  low : Nat
  num : Nat
  high : Nat
  den : Nat
  closed : Bool

def Interval.holds (i : Interval) (digits : Nat) (power : Int) : Bool :=
  let d := if 0 ≤ power then digits * Nat.pow 10 power.toNat * i.den else digits * i.den
  let s := if 0 ≤ power then 1 else Nat.pow 10 (-power).toNat
  if i.closed then i.low * s ≤ d && d ≤ i.high * s else i.low * s < d && d < i.high * s

/-- The nearest point of the grid of multiples of a power of ten that lies in the interval. -/
def Interval.onGrid? (i : Interval) (power : Int) : Option Nat :=
  let (a, b) := if 0 ≤ power then (i.num, i.den * Nat.pow 10 power.toNat)
    else (i.num * Nat.pow 10 (-power).toNat, i.den)
  let q := a / b
  let r := a % b
  let down := q != 0 && i.holds q power
  let up := i.holds (q + 1) power
  if down && up then
    if 2 * r < b then some q
    else if b < 2 * r then some (q + 1)
    else if q % 2 = 0 then some q else some (q + 1)
  else if down then some q
  else if up then some (q + 1)
  else none

def intervalOf (mantissa : Nat) (exponent : Int) : Interval :=
  let gap := if mantissa = Nat.pow 2 52 && Binary64.minExponent < exponent then 1 else 2
  let up := fun n => if 2 ≤ exponent then n <<< (exponent - 2).toNat else n
  let den := if 2 ≤ exponent then 1 else 1 <<< (2 - exponent).toNat
  { low := up (4 * mantissa - gap), num := up (4 * mantissa), high := up (4 * mantissa + 2)
    den := den, closed := mantissa % 2 = 0 }

/-- The first of the grids with a given number of digits or more that meets the interval. -/
def firstGrid (i : Interval) (place : Int) : Nat → Nat → Decimal
  | 0, n => ⟨i.num / i.den, place - n⟩
  | fuel + 1, n =>
    match i.onGrid? (place - n) with
    | some d => ⟨d, place - n⟩
    | none => firstGrid i place fuel (n + 1)

/-- The shortest decimal number that reads back as a positive finite number. -/
def shortest (mantissa : Nat) (exponent : Int) : Decimal :=
  let i := intervalOf mantissa exponent
  trimZeros 400 (firstGrid i (pointPlace i.num i.den) 17 1)

/-- How a number is spelled: which powers of ten are written without an exponent, the least number
of digits of the exponent, whether it has a plus sign, whether its digits always have a point, and
the words for infinity and for no number. -/
structure Spelling where
  lowest : Int
  highest : Int
  places : Nat
  plus : Bool
  point : Bool
  infinity : String
  nan : String

def zeros (n : Nat) : List Char := List.replicate n '0'

/-- Digits with a point somewhere inside them, before them or after them. -/
def positional (ds : List Char) (place : Int) : List Char :=
  if place ≤ 0 then '0' :: '.' :: zeros (-place).toNat ++ ds
  else if ds.length ≤ place.toNat then ds ++ zeros (place.toNat - ds.length) ++ ['.', '0']
  else ds.take place.toNat ++ '.' :: ds.drop place.toNat

def scientific (f : Spelling) (ds : List Char) (power : Int) : List Char :=
  let head := match ds with
    | [d] => if f.point then [d, '.', '0'] else [d]
    | d :: rest => d :: '.' :: rest
    | [] => []
  let digits := Nat.toDigits 10 power.natAbs
  let sign := if power < 0 then ['-'] else if f.plus then ['+'] else []
  head ++ 'e' :: sign ++ zeros (f.places - digits.length) ++ digits

/-- The text of a number in a spelling. -/
def Spelling.text (f : Spelling) : Binary64 → String
  | .nan => f.nan
  | .infinite negative => if negative then "-" ++ f.infinity else f.infinity
  | .finite negative m e =>
    let body :=
      if m = 0 then ['0', '.', '0']
      else
        let d := shortest m e
        let ds := Nat.toDigits 10 d.digits
        let place := (ds.length : Int) + d.power
        if f.lowest ≤ place - 1 && place - 1 ≤ f.highest then positional ds place
        else scientific f ds (place - 1)
    String.ofList (if negative then '-' :: body else body)

/-- The spelling inside messages: positional from 0.0001 to below ten to the sixteenth. -/
def message : Spelling := ⟨-4, 15, 2, true, false, "inf", "nan"⟩

def json : Spelling := ⟨-5, 15, 1, false, false, "null", "null"⟩

/-- The spelling of YAML documents, where the digits before an exponent have a point. -/
def yaml : Spelling := ⟨-4, 15, 2, true, true, ".inf", ".nan"⟩

end Decimal
end ClusterSubmission
