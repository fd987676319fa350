import ClusterSubmission.Number.Decimal

/-!
# Numbers to a number of places

A binary number written with a given number of digits after the point, or with a given number of
digits in all. The exact value is rounded once, to the nearest such number, a tie to the even one.
-/
namespace ClusterSubmission.Places

def ratio (mantissa : Nat) (exponent : Int) : Nat × Nat :=
  if 0 ≤ exponent then (mantissa <<< exponent.toNat, 1) else (mantissa, 1 <<< (-exponent).toNat)

def fixed (places num den : Nat) : List Char × List Char :=
  let digits := Nat.toDigits 10 (Binary64.divRound (num * Nat.pow 10 places) den)
  let digits := Decimal.zeros (places + 1 - digits.length) ++ digits
  (digits.take (digits.length - places), digits.drop (digits.length - places))

/-- The digits of a number with one of them before the point, and the power of ten. -/
def scientific (places num den : Nat) : List Char × Int :=
  if num = 0 then (Decimal.zeros (places + 1), 0)
  else
    let place := Decimal.pointPlace num den
    let shift : Int := places + 1 - place
    let n := if 0 ≤ shift then Binary64.divRound (num * Nat.pow 10 shift.toNat) den
      else Binary64.divRound num (den * Nat.pow 10 (-shift).toNat)
    if n = Nat.pow 10 (places + 1) then (Nat.toDigits 10 (Nat.pow 10 places), place)
    else (Nat.toDigits 10 n, place - 1)

/-- Digits with a point after some of them, which stands alone only if it has to. -/
def pointed (pointKept : Bool) (whole part : List Char) : List Char :=
  if part.isEmpty && !pointKept then whole else whole ++ '.' :: part

def powerText (power : Int) : List Char :=
  let digits := Nat.toDigits 10 power.natAbs
  'e' :: (if power < 0 then '-' else '+') :: Decimal.zeros (2 - digits.length) ++ digits

def trimmed (digits : List Char) : List Char := (digits.reverse.dropWhile (· = '0')).reverse

def fixedText (pointKept : Bool) (places num den : Nat) : List Char :=
  let (whole, part) := fixed places num den
  pointed pointKept whole part

def scientificText (pointKept : Bool) (places num den : Nat) : List Char :=
  let (digits, power) := scientific places num den
  pointed pointKept (digits.take 1) (digits.drop 1) ++ powerText power

/-- A ratio with some digits in all, with a power of ten only where it is very small or large. Zeros
at the end are left out unless the point is kept. -/
def generalText (pointKept : Bool) (digitCount num den : Nat) : List Char :=
  let count := max digitCount 1
  let (digits, power) := scientific (count - 1) num den
  let trim := fun ds => if pointKept then ds else trimmed ds
  if -4 ≤ power && power < count then
    let (whole, part) := fixed (count - 1 - power).toNat num den
    pointed pointKept whole (trim part)
  else pointed pointKept (digits.take 1) (trim (digits.drop 1)) ++ powerText power

end ClusterSubmission.Places
