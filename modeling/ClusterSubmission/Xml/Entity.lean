import ClusterSubmission.Text.Character
import ClusterSubmission.Xml.Name

/-!
# Entities

The document type of a document can declare entities, names that stand for text. References to
parameter entities are not followed; what is declared after one may depend on it and is passed over
unless the document stands alone.
-/
namespace ClusterSubmission.Xml

/-- What an entity stands for: text, or something outside of the document that is text or not. -/
inductive EntityContent where
  | inside (text : List Char)
  | outside
  | unparsed

/-- The entities of a document, the first declaration of a name first, whether there may be
declarations that were not seen, and whether one of those stood before what is read now. -/
structure Entities where
  known : List (List Char × EntityContent) := []
  incomplete : Bool := false
  suspended : Bool := false

def Entities.find? (es : Entities) (name : List Char) : Option EntityContent :=
  (es.known.find? (·.1 == name)).map (·.2)

def characterNames : List (String × Char) :=
  [("amp", '&'), ("lt", '<'), ("gt", '>'), ("quot", '"'), ("apos", '\x27')]

def namedCharacter? (name : List Char) : Option Char :=
  (characterNames.find? (·.1.toList == name)).map (·.2)

/-- Whether a number is the code point of a character that may be referred to. -/
def isReferable (n : Nat) : Bool :=
  (n < 0xd800 || (0xe000 ≤ n && n < 0x110000)) && n != 0 && isXmlChar (Char.ofNat n)

def isHexDigit (c : Char) : Bool :=
  c.isDigit || ('a' ≤ c && c ≤ 'f') || ('A' ≤ c && c ≤ 'F')

def hexDigitsValue (ds : List Char) : Nat := ds.foldl (fun n c => 16 * n + Text.hexValue c) 0

/-- The character of a reference by number, whose ampersand and hash have been read. -/
def characterReference? (cs : List Char) : Option (Char × List Char) :=
  let (ds, rest, n) := match cs with
    | 'x' :: cs =>
      let (ds, rest) := cs.span isHexDigit
      (ds, rest, hexDigitsValue ds)
    | cs =>
      let (ds, rest) := cs.span Char.isDigit
      (ds, rest, Text.digitsValue ds)
  match rest with
  | ';' :: rest => if ds != [] && isReferable n then some (Char.ofNat n, rest) else none
  | _ => none

def entityReference? (cs : List Char) : Option (List Char × List Char) :=
  match takeName? cs with
  | some (name, ';' :: rest) => some (name, rest)
  | _ => none

def takeLiteral? : List Char → Option (List Char × List Char)
  | q :: cs =>
    if q = '"' || q = '\x27' then
      match cs.span (· != q) with
      | (inside, _ :: rest) => if inside.all isXmlChar then some (inside, rest) else none
      | (_, []) => none
    else none
  | [] => none

/-- The text that the literal of an entity stands for: characters given by number are put in, and
references to other entities stay. The first argument bounds the length. -/
def entityText? : Nat → List Char → Option (List Char)
  | _, [] => some []
  | 0, _ => none
  | _ + 1, '%' :: _ => none
  | fuel + 1, '&' :: '#' :: cs => do
    let (c, rest) ← characterReference? cs
    (entityText? fuel rest).map (c :: ·)
  | fuel + 1, '&' :: cs => do
    let (name, rest) ← entityReference? cs
    (entityText? fuel rest).map fun tail => '&' :: name ++ ';' :: tail
  | fuel + 1, c :: cs => (entityText? fuel cs).map (c :: ·)

def isPublicChar (c : Char) : Bool :=
  c.isAlphanum || " \n-'()+,./:=?;!*#@$_%".toList.contains c

/-- An identifier of something outside of the document, and the text after it. A notation can do
with a public identifier alone. -/
def takeOutside? (publicAlone : Bool) (cs : List Char) : Option (List Char) :=
  match after? "SYSTEM" cs with
  | some rest => do
    let (_, rest) ← takeLiteral? (← needSpace? rest)
    some rest
  | none => do
    let (name, rest) ← takeLiteral? (← needSpace? (← after? "PUBLIC" cs))
    if !name.all isPublicChar then none
    else match (needSpace? rest).bind takeLiteral? with
      | some (_, rest) => some rest
      | none => if publicAlone then some rest else none

def endDeclaration? (cs : List Char) : Option (List Char) :=
  match skipSpace cs with
  | '>' :: rest => some rest
  | _ => none

/-- What an entity declaration says after the name: the content, and the text after the
declaration. -/
def entityContent? (parameter : Bool) (cs : List Char) : Option (EntityContent × List Char) :=
  match takeLiteral? cs with
  | some (inside, rest) => do
    let text ← entityText? (inside.length + 1) inside
    some (.inside text, ← endDeclaration? rest)
  | none => do
    let rest ← takeOutside? false cs
    match (needSpace? rest).bind (after? "NDATA") with
    | some rest =>
      if parameter then none
      else do
        let (_, rest) ← takeName? (← needSpace? rest)
        some (.unparsed, ← endDeclaration? rest)
    | none => some (.outside, ← endDeclaration? rest)

def Entities.declare (es : Entities) (name : List Char) (content : EntityContent) : Entities :=
  if (es.find? name).isSome || (namedCharacter? name).isSome then es
  else { es with known := es.known ++ [(name, content)] }

/-- Reads an entity declaration whose keyword has been read. -/
def readEntity? (standalone : Bool) (es : Entities) (cs : List Char) :
    Option (Entities × List Char) := do
  match ← needSpace? cs with
  | '%' :: rest => do
    let (_, rest) ← takeName? (← needSpace? rest)
    let (_, rest) ← entityContent? true (← needSpace? rest)
    some (es, rest)
  | rest => do
    let (name, rest) ← takeName? rest
    let (content, rest) ← entityContent? false (← needSpace? rest)
    if es.suspended && !standalone then some (es, rest)
    else some (es.declare name content, rest)

/-- Passes over the rest of a declaration that says nothing about entities. The first argument
bounds the length. -/
def skipDeclaration? : Nat → List Char → Option (List Char)
  | 0, _ => none
  | fuel + 1, cs =>
    match cs with
    | [] => none
    | c :: rest =>
      if c = '>' then some rest
      else if c = '<' || !isXmlChar c then none
      else if c = '"' || c = '\x27' then do
        let (_, rest) ← takeLiteral? (c :: rest)
        skipDeclaration? fuel rest
      else skipDeclaration? fuel rest

def skipComment? (cs : List Char) : Option (List Char) := do
  let (inside, rest) ← untilWord? "--" cs
  match rest with
  | '>' :: rest => if inside.all isXmlChar then some rest else none
  | _ => none

def isReservedTarget (name : List Char) : Bool := name.map Char.toLower == "xml".toList

def skipInstruction? (cs : List Char) : Option (List Char) := do
  let (target, rest) ← takeName? cs
  if isReservedTarget target then none
  else match after? "?>" rest with
    | some rest => some rest
    | none => do
      let (inside, rest) ← untilWord? "?>" (← needSpace? rest)
      if inside.all isXmlChar then some rest else none

/-- Reads the declarations inside the document type up to the closing bracket. The first argument
bounds their number. -/
def readDeclarations? (standalone : Bool) : Nat → Entities → List Char →
    Option (Entities × List Char)
  | 0, _, _ => none
  | fuel + 1, es, cs =>
    match skipSpace cs with
    | ']' :: rest => some (es, rest)
    | '%' :: rest => do
      let (_, rest) ← entityReference? rest
      readDeclarations? standalone fuel { es with incomplete := true, suspended := true } rest
    | '<' :: '!' :: '-' :: '-' :: rest => do
      readDeclarations? standalone fuel es (← skipComment? rest)
    | '<' :: '?' :: rest => do readDeclarations? standalone fuel es (← skipInstruction? rest)
    | cs =>
      match after? "<!ENTITY" cs with
      | some rest => do
        let (es, rest) ← readEntity? standalone es rest
        readDeclarations? standalone fuel es rest
      | none =>
        match (["<!ELEMENT", "<!ATTLIST", "<!NOTATION"].findSome? fun w => after? w cs) with
        | some rest => do
          let (_, rest) ← takeQualified? (← needSpace? rest)
          let rest ← skipDeclaration? (rest.length + 1) (← needSpace? rest)
          readDeclarations? standalone fuel es rest
        | none => none

/-- Reads a document type whose keyword has been read: its entities, and the text after it. -/
def readDocumentType? (standalone : Bool) (cs : List Char) : Option (Entities × List Char) := do
  let (_, rest) ← takeQualified? (← needSpace? cs)
  let (es, rest) : Entities × List Char ←
    match (needSpace? rest).bind (takeOutside? false) with
    | some rest => some ({ incomplete := true }, rest)
    | none => some ({}, rest)
  match skipSpace rest with
  | '[' :: rest => do
    let (es, rest) ← readDeclarations? standalone (rest.length + 1) es rest
    some (es, ← endDeclaration? rest)
  | '>' :: rest => some (es, rest)
  | _ => none

end ClusterSubmission.Xml
