import ClusterSubmission.Failure
import ClusterSubmission.Text.Character
import ClusterSubmission.Text.Path
import ClusterSubmission.Text.Unicode
import ClusterSubmission.Xml.Name

/-!
# Encodings of markup

The bytes of a document say how its characters are written: by a mark at the beginning, by the
width of the first character, or by the encoding that the declaration of the document names. The
declaration itself is read here too, since its encoding has to be known first.
-/
namespace ClusterSubmission.Xml

/-- The ways in which characters are written as bytes. The last one gives every byte above ASCII a
character of its own, or none. -/
inductive Encoding where
  | utf8
  | utf16 (bigEndian : Bool)
  | ascii
  | latin1
  | table (upper : List Nat)

/-- What the declaration of a document says. -/
structure Declaration where
  encoding : Option (List Char) := none
  standalone : Bool := false

def isDeclarationChar (c : Char) : Bool :=
  c.isAlphanum || c = '.' || c = '-' || c = '_'

/-- The next entry of a declaration and the text after it; no entry at its end. -/
def declarationEntry? (cs : List Char) : Option (Option (List Char × List Char) × List Char) :=
  match cs with
  | [] => some (none, [])
  | c :: _ =>
    if !isSpace c then none
    else match skipSpace cs with
      | [] => some (none, [])
      | cs =>
        let (name, rest) := cs.span fun c => c != '=' && !isSpace c
        match skipSpace rest with
        | '=' :: rest =>
          match skipSpace rest with
          | q :: rest =>
            if name == [] || (q != '"' && q != '\x27') then none
            else
              let (text, rest) := rest.span isDeclarationChar
              match rest with
              | r :: rest => if r = q then some (some (name, text), rest) else none
              | [] => none
          | [] => none
        | _ => none

/-- The end of a declaration: the entry that says whether the document stands alone, if there is
one, and nothing after it. -/
def finishDeclaration? (encoding : Option (List Char)) :
    Option (List Char × List Char) × List Char → Option Declaration
  | (none, _) => some { encoding }
  | (some (name, text), rest) =>
    if name == "standalone".toList && (skipSpace rest).isEmpty then
      if text == "yes".toList then some { encoding, standalone := true }
      else if text == "no".toList then some { encoding }
      else none
    else none

/-- The declaration in the text between its brackets: the version, then the encoding, then whether
the document stands alone. -/
def readDeclaration? (cs : List Char) : Option Declaration := do
  match ← declarationEntry? cs with
  | (some (name, _), rest) =>
    if name != "version".toList then none
    else match ← declarationEntry? rest with
      | (some (name, text), rest) =>
        if name == "encoding".toList then
          if (text.head?.any Char.isAlpha) then
            finishDeclaration? (some text) (← declarationEntry? rest)
          else none
        else finishDeclaration? none (some (name, text), rest)
      | e => finishDeclaration? none e
  | (none, _) => none

/-- The declaration that a document begins with, and the text after it. A document without one has
the usual declaration. -/
def takeDeclaration? (cs : List Char) : Option (Declaration × List Char) :=
  match after? "<?xml" cs with
  | some (c :: rest) =>
    if isSpace c then do
      let (inside, rest) ← untilWord? "?>" (c :: rest)
      some (← readDeclaration? inside, rest)
    else some ({}, cs)
  | _ => some ({}, cs)

/-- The characters that the encoding of Western European texts of one vendor has between ASCII and
the rest of Latin, zero where it has none. -/
def vendorLatin : List Nat :=
  [0x20ac, 0, 0x201a, 0x192, 0x201e, 0x2026, 0x2020, 0x2021, 0x2c6, 0x2030, 0x160, 0x2039, 0x152,
    0, 0x17d, 0, 0, 0x2018, 0x2019, 0x201c, 0x201d, 0x2022, 0x2013, 0x2014, 0x2dc, 0x2122, 0x161,
    0x203a, 0x153, 0, 0x17e, 0x178]

/-- The places where the ninth Latin alphabet differs from the first, with their characters. -/
def ninthLatin : List (Nat × Nat) :=
  [(0xa4, 0x20ac), (0xa6, 0x160), (0xa8, 0x161), (0xb4, 0x17d), (0xb8, 0x17e), (0xbc, 0x152),
    (0xbd, 0x153), (0xbe, 0x178)]

def latinFrom (first : Nat) : List Nat := (List.range (0x100 - first)).map (· + first)

/-- The name of an encoding in small letters, with one hyphen between its words. -/
def plainEncodingName (cs : List Char) : List Char :=
  let marked := cs.map fun c => if c.isAlphanum || c = '.' then c.toLower else '-'
  ['-'].intercalate ((Text.splitOnChar '-' marked).filter (· != []))

/-- The encodings that are known by name beside those that every reader knows. -/
def namedEncodings : List (List String × Encoding) :=
  [(["latin-1", "latin1", "l1", "latin", "iso8859-1", "iso-8859-1-1987", "8859", "cp819",
      "iso8859"], .latin1),
    (["ascii", "646", "ansi-x3-4-1968", "iso646-us", "us", "utf8", "utf-8-sig", "u8", "utf"],
      .ascii),
    (["cp1252", "windows-1252", "1252"], .table (vendorLatin ++ latinFrom 0xa0)),
    (["iso-8859-15", "iso8859-15", "latin-9", "latin9", "l9"],
      .table ((latinFrom 0x80).map fun n => ((ninthLatin.find? (·.1 == n)).map (·.2)).getD n))]

/-- The encodings whose characters can take several bytes, by name. They are not supported. -/
def wideEncodings : List String :=
  ["utf-32", "utf32", "utf-32le", "utf-32be", "utf-7", "utf7", "gbk", "gb2312", "gb18030", "big5",
    "shift-jis", "sjis", "euc-jp", "euc-kr", "iso-2022-jp", "cp932", "cp936", "cp949", "cp950"]

/-- The encoding of a document whose characters have at least one byte each, by the name that its
declaration gives. -/
def encodingNamed (name : List Char) : Except Reason Encoding :=
  let plain := String.ofList (plainEncodingName name)
  let exact := String.ofList (name.map Char.toLower)
  if exact == "utf-8" then .ok .utf8
  else if exact == "iso-8859-1" then .ok .latin1
  else if exact == "us-ascii" then .ok .ascii
  else if ["utf-16", "utf-16le", "utf-16be"].contains exact then .error .malformedXml
  else match namedEncodings.find? (·.1.contains plain) with
    | some (_, e) => .ok e
    | none =>
      if wideEncodings.contains plain then .error .encodingTooWide
      else .error (.encodingUnknown (String.ofList name))

def tableChar? (upper : List Nat) (b : UInt8) : Option Char :=
  match upper[b.toNat - 0x80]? with
  | some 0 | none => none
  | some n => some (Char.ofNat n)

def Encoding.decode? (e : Encoding) (bs : List UInt8) : Option (List Char) :=
  match e with
  | .utf8 => (Text.ofUtf8? bs).map String.toList
  | .utf16 bigEndian => Text.ofUtf16? bigEndian bs
  | .ascii => if bs.all (· < 0x80) then some (bs.map fun b => Char.ofNat b.toNat) else none
  | .latin1 => some (bs.map fun b => Char.ofNat b.toNat)
  | .table upper =>
    bs.mapM fun b => if b < 0x80 then some (Char.ofNat b.toNat) else tableChar? upper b

/-- The encoding that the first bytes show by themselves, and the bytes after the mark. -/
def shownEncoding : List UInt8 → Encoding × List UInt8
  | 0xef :: 0xbb :: 0xbf :: rest => (.utf8, rest)
  | 0xfe :: 0xff :: rest => (.utf16 true, rest)
  | 0xff :: 0xfe :: rest => (.utf16 false, rest)
  | 0x3c :: 0x00 :: rest => (.utf16 false, 0x3c :: 0x00 :: rest)
  | 0x00 :: 0x3c :: rest => (.utf16 true, 0x00 :: 0x3c :: rest)
  | bs => (.utf8, bs)

def fitsUtf16 (bigEndian : Bool) (name : List Char) : Bool :=
  let name := String.ofList (name.map Char.toLower)
  name == "utf-16" || name == (if bigEndian then "utf-16be" else "utf-16le")

/-- The characters of a document after its declaration, and the declaration. -/
def decodeDocument (bs : List UInt8) : Except Reason (Declaration × List Char) :=
  let refuse {α : Type} : Option α → Except Reason α
    | some a => .ok a
    | none => .error .malformedXml
  match shownEncoding bs with
  | (.utf16 bigEndian, bs) => do
    let cs ← refuse ((Encoding.utf16 bigEndian).decode? bs)
    let (d, rest) ← refuse (takeDeclaration? cs)
    match d.encoding with
    | some name =>
      if fitsUtf16 bigEndian name then return (d, Text.plainBreaks rest)
      else do
        let _ ← encodingNamed name
        throw .malformedXml
    | none => return (d, Text.plainBreaks rest)
  | (_, bs) => do
    let start := bs.map fun b => Char.ofNat b.toNat
    let (d, _) ← refuse (takeDeclaration? start)
    let e ← match d.encoding with
      | some name => encodingNamed name
      | none => pure .utf8
    let cs ← refuse (e.decode? bs)
    let (d, rest) ← refuse (takeDeclaration? cs)
    return (d, Text.plainBreaks rest)

end ClusterSubmission.Xml
