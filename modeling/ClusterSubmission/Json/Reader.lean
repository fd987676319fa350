import ClusterSubmission.Text.Unicode
import ClusterSubmission.Value.Basic

/-!
# Reading JSON

The reader takes the bytes of a document and returns its tree together with the bytes after it. It
is strict: no comments, no trailing commas, no leading zeros and no raw control characters. A
document is read from left to right, and a fault late in its text must not hide what stands before
it. So the tree keeps everything up to the first fault: a collection that is not closed breaks off
after its last member, and a value that cannot be read is broken itself.
-/
namespace ClusterSubmission

/-- The name of an entry, none where its bytes are no UTF-8, or a key that is no text, by the name
of its kind. -/
inductive DocumentKey where
  | name (s : Option String)
  | other (kindName : String)

/-- A tree read from a document, or handed over as a value. Text is none where its bytes are no
UTF-8. A number too large to be finite and an integer with too many digits are kept as such, and
`other` is a value that no document has, by the name of its kind. -/
inductive Document where
  | null
  | bool (b : Bool)
  | int (n : Int)
  | hugeInt
  | float (x : Binary64)
  | hugeFloat
  | text (s : Option String)
  | array (items : List Document) (closed : Bool)
  | object (entries : List (DocumentKey × Document)) (closed : Bool)
  | other (kindName : String)
  | broken
  deriving Inhabited

namespace Json

def byte (c : Char) : UInt8 := c.toNat.toUInt8

def skipBlanks (bs : List UInt8) : List UInt8 :=
  bs.dropWhile fun b => b == 0x20 || b == 0x09 || b == 0x0a || b == 0x0d

def isDigit (b : UInt8) : Bool := 0x30 ≤ b && b ≤ 0x39

def digitsValue (ds : List UInt8) : Nat :=
  ds.foldl (fun n d => 10 * n + (d.toNat - 0x30)) 0

def hexValue? (b : UInt8) : Option Nat :=
  if isDigit b then some (b.toNat - 0x30)
  else if 0x61 ≤ b && b ≤ 0x66 then some (b.toNat - 0x57)
  else if 0x41 ≤ b && b ≤ 0x46 then some (b.toNat - 0x37)
  else none

/-- The number denoted by four hexadecimal digits, and the bytes after them. -/
def hexQuad? : List UInt8 → Option (Nat × List UInt8)
  | a :: b :: c :: d :: rest => do
    let a ← hexValue? a
    let b ← hexValue? b
    let c ← hexValue? c
    let d ← hexValue? d
    some (((a * 16 + b) * 16 + c) * 16 + d, rest)
  | _ => none

def codeBytes (n : Nat) : List UInt8 := String.utf8EncodeChar (Char.ofNat n)

/-- The character after `\u`. A high surrogate needs the escape of a low one right after it, and no
surrogate stands alone. -/
def unicodeEscape? (bs : List UInt8) : Option (List UInt8 × List UInt8) := do
  let (n, rest) ← hexQuad? bs
  if 0xdc00 ≤ n && n ≤ 0xdfff then none
  else if 0xd800 ≤ n && n ≤ 0xdbff then
    match rest with
    | 0x5c :: 0x75 :: rest => do
      let (m, rest) ← hexQuad? rest
      if 0xdc00 ≤ m && m ≤ 0xdfff then
        some (codeBytes (0x10000 + (n - 0xd800) * 0x400 + (m - 0xdc00)), rest)
      else none
    | _ => none
  else some (codeBytes n, rest)

/-- The character after a backslash. -/
def escape? (b : UInt8) (rest : List UInt8) : Option (List UInt8 × List UInt8) :=
  if b == byte '"' || b == byte '\\' || b == byte '/' then some ([b], rest)
  else if b == byte 'b' then some ([0x08], rest)
  else if b == byte 'f' then some ([0x0c], rest)
  else if b == byte 'n' then some ([0x0a], rest)
  else if b == byte 'r' then some ([0x0d], rest)
  else if b == byte 't' then some ([0x09], rest)
  else if b == byte 'u' then unicodeEscape? rest
  else none

/-- The bytes of a string up to its closing quote, which is read too. The first argument bounds the
number of characters. -/
def stringBytes? : Nat → List UInt8 → Option (List UInt8 × List UInt8)
  | 0, _ | _ + 1, [] => none
  | fuel + 1, b :: rest =>
    if b == byte '"' then some ([], rest)
    else if b == byte '\\' then
      match rest with
      | [] => none
      | e :: rest => do
        let (cs, rest) ← escape? e rest
        let (tail, rest) ← stringBytes? fuel rest
        some (cs ++ tail, rest)
    else if b < 0x20 then none
    else do
      let (tail, rest) ← stringBytes? fuel rest
      some (b :: tail, rest)

def takeDigits (bs : List UInt8) : List UInt8 × List UInt8 := bs.span isDigit

def fraction? : List UInt8 → Option (Option (List UInt8) × List UInt8)
  | b :: rest =>
    if b == byte '.' then
      match takeDigits rest with
      | ([], _) => none
      | (ds, rest) => some (some ds, rest)
    else some (none, b :: rest)
  | [] => some (none, [])

/-- The exponent of a number, none if there is no exponent. -/
def exponent? : List UInt8 → Option (Option Int × List UInt8)
  | b :: rest =>
    if b == byte 'e' || b == byte 'E' then
      let (sign, rest) : Int × List UInt8 := match rest with
        | s :: rest' =>
          if s == byte '-' then (-1, rest') else if s == byte '+' then (1, rest') else (1, rest)
        | [] => (1, [])
      match takeDigits rest with
      | ([], _) => none
      | (ds, rest) => some (some (sign * (digitsValue ds : Int)), rest)
    else some (none, b :: rest)
  | [] => some (none, [])

def maxDigits : Nat := 4300

/-- The number whose first byte is a digit, with its sign. -/
def number (negative : Bool) (bs : List UInt8) : Document × List UInt8 :=
  match takeDigits bs with
  | ([], rest) => (.broken, rest)
  | (ds, rest) =>
    if 1 < ds.length && ds.head? == some (byte '0') then (.broken, rest)
    else match fraction? rest with
      | none => (.broken, rest)
      | some (fraction, rest) =>
        match exponent? rest with
        | none => (.broken, rest)
        | some (exponent, rest) =>
          if fraction.isNone && exponent.isNone then
            if maxDigits < ds.length then (.hugeInt, rest)
            else
              let n : Int := digitsValue ds
              (.int (if negative then -n else n), rest)
          else
            let decimals := fraction.getD []
            let power := exponent.getD 0 - (decimals.length : Int)
            match Binary64.ofDecimal negative (digitsValue (ds ++ decimals)) power with
            | .infinite _ => (.hugeFloat, rest)
            | x => (.float x, rest)

def keyword? (word : String) (bs : List UInt8) : Option (List UInt8) :=
  let w := word.toList.map byte
  if w.isPrefixOf bs then some (bs.drop w.length) else none

def string (bs : List UInt8) : Option (Option String × List UInt8) :=
  (stringBytes? (bs.length + 1) bs).map fun (cs, rest) => (Text.ofUtf8? cs, rest)

mutual
/-- Reads one value after white space. The first argument bounds the number of values and
separators. -/
def value : Nat → List UInt8 → Document × List UInt8
  | 0, bs => (.broken, bs)
  | fuel + 1, bs =>
    match skipBlanks bs with
    | [] => (.broken, [])
    | b :: rest =>
      if b == byte '"' then
        match string rest with
        | some (s, rest) => (.text s, rest)
        | none => (.broken, rest)
      else if b == byte '[' then
        match skipBlanks rest with
        | c :: rest' =>
          if c == byte ']' then (.array [] true, rest') else items fuel (c :: rest') []
        | [] => (.array [] false, [])
      else if b == byte '\x7b' then
        match skipBlanks rest with
        | c :: rest' =>
          if c == byte '\x7d' then (.object [] true, rest') else entries fuel (c :: rest') []
        | [] => (.object [] false, [])
      else if b == byte '-' then number true rest
      else if isDigit b then number false (b :: rest)
      else match keyword? "null" (b :: rest) with
        | some rest => (.null, rest)
        | none => match keyword? "true" (b :: rest) with
          | some rest => (.bool true, rest)
          | none => match keyword? "false" (b :: rest) with
            | some rest => (.bool false, rest)
            | none => (.broken, rest)

/-- Reads the members of an array up to its closing bracket; `done` holds those before, last
first. -/
def items : Nat → List UInt8 → List Document → Document × List UInt8
  | 0, bs, done => (.array done.reverse false, bs)
  | fuel + 1, bs, done =>
    let (item, rest) := value fuel bs
    match skipBlanks rest with
    | c :: rest' =>
      if c == byte ',' then items fuel rest' (item :: done)
      else (.array (item :: done).reverse (c == byte ']'), rest')
    | [] => (.array (item :: done).reverse false, [])

/-- Reads the entries of an object up to its closing brace; `done` holds those before, last
first. -/
def entries : Nat → List UInt8 → List (DocumentKey × Document) → Document × List UInt8
  | 0, bs, done => (.object done.reverse false, bs)
  | fuel + 1, bs, done =>
    match skipBlanks bs with
    | q :: rest =>
      if q == byte '"' then
        match string rest with
        | none => (.object done.reverse false, rest)
        | some (key, rest) =>
          match skipBlanks rest with
          | c :: rest =>
            if c == byte ':' then
              let (item, rest) := value fuel rest
              let done := (.name key, item) :: done
              match skipBlanks rest with
              | c :: rest' =>
                if c == byte ',' then entries fuel rest' done
                else (.object done.reverse (c == byte '\x7d'), rest')
              | [] => (.object done.reverse false, [])
            else (.object ((.name key, .broken) :: done).reverse false, rest)
          | [] => (.object ((.name key, .broken) :: done).reverse false, [])
      else (.object done.reverse false, rest)
    | [] => (.object done.reverse false, [])
end

/-- The tree of a whole text, and whether only white space follows it. -/
def read (bs : List UInt8) : Document × Bool :=
  let (d, rest) := value (2 * bs.length + 2) bs
  (d, (skipBlanks rest).isEmpty)

end Json
end ClusterSubmission
