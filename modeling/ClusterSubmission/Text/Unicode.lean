/-!
# Encodings of Unicode

Text as bytes and bytes as text. UTF-8 is read character by character; a start that no character
continues is one ill-formed unit, which strict reading refuses and lossy reading replaces. UTF-16
has units of two bytes, in either order of the bytes: a character beyond the first plane takes two
units, and a half of such a pair alone is ill-formed.
-/
namespace ClusterSubmission.Text

def utf8 (s : String) : List UInt8 :=
  s.toList.flatMap String.utf8EncodeChar

/-- What a lead byte promises: how many bytes follow, the range of the first of them, and the bits
it contributes. -/
def utf8Lead? (b : UInt8) : Option (Nat × UInt8 × UInt8 × Nat) :=
  if 0xc2 ≤ b && b ≤ 0xdf then some (1, 0x80, 0xbf, b.toNat - 0xc0)
  else if b = 0xe0 then some (2, 0xa0, 0xbf, 0)
  else if b = 0xed then some (2, 0x80, 0x9f, 0xd)
  else if 0xe1 ≤ b && b ≤ 0xef then some (2, 0x80, 0xbf, b.toNat - 0xe0)
  else if b = 0xf0 then some (3, 0x90, 0xbf, 0)
  else if b = 0xf4 then some (3, 0x80, 0x8f, 4)
  else if 0xf1 ≤ b && b ≤ 0xf3 then some (3, 0x80, 0xbf, b.toNat - 0xf0)
  else none

/-- Reads the bytes after a lead. Ill-formed input stops before the byte that does not fit. -/
def utf8Tail (need : Nat) (lo hi : UInt8) (bits : Nat) (bs : List UInt8) :
    Option Nat × List UInt8 :=
  match need, bs with
  | 0, bs => (some bits, bs)
  | _ + 1, [] => (none, [])
  | need + 1, b :: rest =>
    if lo ≤ b && b ≤ hi then utf8Tail need 0x80 0xbf (bits * 64 + (b.toNat - 0x80)) rest
    else (none, b :: rest)

theorem utf8Tail_length_le (need : Nat) (lo hi : UInt8) (bits : Nat) (bs : List UInt8) :
    (utf8Tail need lo hi bits bs).2.length ≤ bs.length := by
  induction need generalizing lo hi bits bs with
  | zero => simp [utf8Tail]
  | succ need ih =>
    cases bs with
    | nil => simp [utf8Tail]
    | cons b rest =>
      simp only [utf8Tail]
      split
      · exact Nat.le_trans (ih ..) (by simp)
      · simp

/-- The first character of a nonempty byte sequence, none if it is ill-formed, and what follows. -/
def utf8First (b : UInt8) (rest : List UInt8) : Option Char × List UInt8 :=
  if b < 0x80 then (some (Char.ofNat b.toNat), rest)
  else match utf8Lead? b with
    | none => (none, rest)
    | some (need, lo, hi, bits) =>
      let r := utf8Tail need lo hi bits rest
      (r.1.map Char.ofNat, r.2)

theorem utf8First_length_le (b : UInt8) (rest : List UInt8) :
    (utf8First b rest).2.length ≤ rest.length := by
  unfold utf8First
  split
  · simp
  · split
    · simp
    · exact utf8Tail_length_le ..

/-- The characters of a byte sequence, with none for each ill-formed unit. -/
def utf8Units : List UInt8 → List (Option Char)
  | [] => []
  | b :: rest => (utf8First b rest).1 :: utf8Units (utf8First b rest).2
termination_by bs => bs.length
decreasing_by
  have := utf8First_length_le b rest
  simp only [List.length_cons]
  omega

def ofUtf8? (bs : List UInt8) : Option String :=
  ((utf8Units bs).mapM id).map String.ofList

/-- The text of a byte sequence, with a replacement character for each ill-formed unit. -/
def ofUtf8Lossy (bs : List UInt8) : String :=
  String.ofList ((utf8Units bs).map (·.getD (Char.ofNat 0xfffd)))

/-- Units of two bytes as characters. -/
def utf16Chars? : List Nat → Option (List Char)
  | [] => some []
  | [n] => if 0xd800 ≤ n && n ≤ 0xdfff then none else some [Char.ofNat n]
  | n :: m :: rest =>
    if 0xd800 ≤ n && n ≤ 0xdbff then
      if 0xdc00 ≤ m && m ≤ 0xdfff then
        (utf16Chars? rest).map (Char.ofNat (0x10000 + (n - 0xd800) * 0x400 + (m - 0xdc00)) :: ·)
      else none
    else if 0xdc00 ≤ n && n ≤ 0xdfff then none
    else (utf16Chars? (m :: rest)).map (Char.ofNat n :: ·)

def utf16Units? (bigEndian : Bool) : List UInt8 → Option (List Nat)
  | [] => some []
  | [_] => none
  | a :: b :: rest =>
    (utf16Units? bigEndian rest).map
      ((if bigEndian then a.toNat * 256 + b.toNat else b.toNat * 256 + a.toNat) :: ·)

/-- The text of a byte sequence in units of two bytes, if it is well-formed throughout. -/
def ofUtf16? (bigEndian : Bool) (bs : List UInt8) : Option (List Char) :=
  (utf16Units? bigEndian bs).bind utf16Chars?

end ClusterSubmission.Text
