import ClusterSubmission.Number.Binary64
import ClusterSubmission.Text.Character

/-!
# Numbers in text

How a text is taken for an integer in some base, or for a binary number. Blank characters around it
do not count, and digits of every script do.
-/
namespace ClusterSubmission.Number

def digit? (base : Nat) (c : Char) : Option Nat :=
  let n := match Text.digitValue? c with
    | some n => some n
    | none => if c.isAlpha && c.toLower ≤ 'f' then some (Text.hexValue c) else none
  n.filter (· < base)

def takeSign : List Char → Bool × List Char
  | '-' :: cs => (true, cs)
  | '+' :: cs => (false, cs)
  | cs => (false, cs)

def baseLetter? : Nat → Option Char
  | 2 => some 'b'
  | 8 => some 'o'
  | 16 => some 'x'
  | _ => none

def dropAnnouncement (base : Nat) (cs : List Char) : List Char :=
  match cs with
  | '0' :: c :: rest => if baseLetter? base == some c.toLower then rest else cs
  | _ => cs

def integer? (base : Nat) (s : String) : Option Int := do
  let (negative, cs) := takeSign (Text.strip s).toList
  let digits ← (dropAnnouncement base cs).mapM (digit? base)
  if digits.isEmpty then none
  else
    let n : Int := (digits.foldl (fun n d => n * base + d) 0 : Nat)
    some (if negative then -n else n)

/-- The number of decimal digits in a text, however they are separated. -/
def digitCount (s : String) : Nat := (s.toList.filter Text.isDigit).length

/-- The exponent at the end of a number, none if something else stands there. -/
def exponent? : List Char → Option Int
  | [] => some 0
  | e :: cs =>
    let (negative, digits) := takeSign cs
    if e.toLower ≠ 'e' || digits.isEmpty || !digits.all Text.isDigit then none
    else
      let n : Int := Text.digitsValue digits
      some (if negative then -n else n)

/-- The binary number nearest to the decimal number in a text, which can also be a word for infinity
or for no number. -/
def float? (s : String) : Option Binary64 := do
  let (negative, cs) := takeSign (Text.strip s).toList
  let word := String.ofList (cs.map Char.toLower)
  if word == "inf" || word == "infinity" then some (.infinite negative)
  else if word == "nan" then some .nan
  else
    let (whole, rest) := cs.span Text.isDigit
    let (part, rest) := match rest with
      | '.' :: rest => rest.span Text.isDigit
      | _ => ([], rest)
    if whole.isEmpty && part.isEmpty then none
    else
      let power := (← exponent? rest) - part.length
      some (Binary64.ofDecimal negative (Text.digitsValue (whole ++ part)) power)

end ClusterSubmission.Number
