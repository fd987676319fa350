/-!
# Base64

Three bytes become four letters of an alphabet of sixty-four; an incomplete last group is filled up
with equals signs. The URL-safe alphabet uses the hyphen and the underscore.
-/
namespace ClusterSubmission.Text

/-- The two letters in which the alphabets differ. -/
structure Base64Alphabet where
  sixtyTwo : Char
  sixtyThree : Char

def Base64Alphabet.standard : Base64Alphabet := ⟨'+', '/'⟩

def Base64Alphabet.urlSafe : Base64Alphabet := ⟨'-', '_'⟩

def Base64Alphabet.letter (a : Base64Alphabet) (n : Nat) : Char :=
  if n < 26 then Char.ofNat (65 + n)
  else if n < 52 then Char.ofNat (71 + n)
  else if n < 62 then Char.ofNat (n - 4)
  else if n = 62 then a.sixtyTwo
  else a.sixtyThree

/-- The letters of a byte sequence. -/
def base64Chars (a : Base64Alphabet) : List UInt8 → List Char
  | [] => []
  | [x] =>
    let n := x.toNat * 16
    [a.letter (n / 64), a.letter (n % 64), '=', '=']
  | [x, y] =>
    let n := (x.toNat * 256 + y.toNat) * 4
    [a.letter (n / 4096), a.letter (n / 64 % 64), a.letter (n % 64), '=']
  | x :: y :: z :: rest =>
    let n := (x.toNat * 256 + y.toNat) * 256 + z.toNat
    a.letter (n / 262144) :: a.letter (n / 4096 % 64) :: a.letter (n / 64 % 64)
      :: a.letter (n % 64) :: base64Chars a rest

def base64 (a : Base64Alphabet) (bs : List UInt8) : String :=
  String.ofList (base64Chars a bs)

def Base64Alphabet.number? (a : Base64Alphabet) (c : Char) : Option Nat :=
  if c.isUpper then some (c.toNat - 65)
  else if c.isLower then some (c.toNat - 71)
  else if c.isDigit then some (c.toNat + 4)
  else if c = a.sixtyTwo then some 62
  else if c = a.sixtyThree then some 63
  else none

/-- The bytes of a text, after some numbers of an incomplete group and some equals signs after them.
Other characters do not count. -/
def base64Bytes? (a : Base64Alphabet) : List Nat → Nat → List Char → Option (List UInt8)
  | group, _, [] => if group.isEmpty then some [] else none
  | group, pads, c :: cs =>
    if c = '=' then
      match group with
      | [x, y] =>
        if pads = 1 then some [UInt8.ofNat (x * 4 + y / 16)] else base64Bytes? a group (pads + 1) cs
      | [x, y, z] => some [UInt8.ofNat (x * 4 + y / 16), UInt8.ofNat (y % 16 * 16 + z / 4)]
      | _ => base64Bytes? a group pads cs
    else match a.number? c with
      | none => base64Bytes? a group pads cs
      | some n =>
        match group with
        | [x, y, z] =>
          (base64Bytes? a [] 0 cs).map fun bs =>
            UInt8.ofNat (x * 4 + y / 16) :: UInt8.ofNat (y % 16 * 16 + z / 4)
              :: UInt8.ofNat (z % 4 * 64 + n) :: bs
        | group => base64Bytes? a (group ++ [n]) 0 cs

end ClusterSubmission.Text
