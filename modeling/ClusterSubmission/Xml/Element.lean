import ClusterSubmission.Xml.Encoding
import ClusterSubmission.Xml.Entity

/-!
# Elements

Reading goes through the content of a document in single steps. Where an entity stands for text, the
text is put in front of what is still to be read; elements have to be closed in the text in which
they were opened. What is kept of an element is its name with the namespace, the text before its
first child, and its children.
-/
namespace ClusterSubmission.Xml

/-- An element: its name, the text before its first child, and its children. -/
inductive Element where
  | mk (name : String) (text : String) (children : List Element)
  deriving Inhabited

namespace Element

/-- The name of an element, behind its namespace in braces if it has one. -/
def name : Element → String
  | .mk name _ _ => name

def text? : Element → Option String
  | .mk _ text _ => if text == "" then none else some text

def children : Element → List Element
  | .mk _ _ children => children

end Element

/-- A text that is still to be read: the document itself or what an entity stands for, and how many
elements were open where it began. -/
structure Source where
  rest : List Char
  entity : Option (List Char) := none
  depth : Nat := 0

/-- An element that is not closed yet. Text and children are kept last one first. -/
structure OpenElement where
  tag : QualifiedName
  name : String
  scope : List (List Char × List Char)
  text : List Char := []
  children : List Element := []

/-- Where reading stands: the sources and the open elements, the innermost first. -/
structure Progress where
  sources : List Source
  opened : List OpenElement

/-- What a step leads to. -/
inductive Step where
  | more (p : Progress)
  | finished (root : Element) (rest : List Char)
  | fault

/-- The text of an attribute: references are put in, and white space is a blank. The first argument
bounds how deeply entities stand in each other, the second one the length; the third one has the
names of the entities around. -/
def attributeText? (es : Entities) (standalone : Bool) (depth fuel : Nat)
    (around : List (List Char)) (cs : List Char) : Option (List Char) :=
  match depth, fuel, cs with
  | _, _, [] => some []
  | 0, _, _ | _, 0, _ => none
  | _, _, '<' :: _ => none
  | depth + 1, fuel + 1, '&' :: '#' :: cs => do
    let (c, rest) ← characterReference? cs
    (attributeText? es standalone (depth + 1) fuel around rest).map (c :: ·)
  | depth + 1, fuel + 1, '&' :: cs => do
    let (name, rest) ← entityReference? cs
    let tail ← attributeText? es standalone (depth + 1) fuel around rest
    match namedCharacter? name, es.find? name with
    | some c, _ => some (c :: tail)
    | none, some (.inside text) =>
      if around.contains name then none
      else do
        let inside ← attributeText? es standalone depth (text.length + 1) (name :: around) text
        some (inside ++ tail)
    | none, some _ => none
    | none, none => if es.incomplete && !standalone then some tail else none
  | depth + 1, fuel + 1, c :: cs =>
    (attributeText? es standalone (depth + 1) fuel around cs).map
      ((if isSpace c then ' ' else c) :: ·)
termination_by (depth, fuel)

abbrev Attribute := QualifiedName × List Char

/-- The attributes of a start tag up to its end, whether the tag closes itself, and the text after
it. The first argument bounds the number of attributes. -/
def takeAttributes? : Nat → List Char → Option (List Attribute × Bool × List Char)
  | 0, _ => none
  | fuel + 1, cs =>
    match skipSpace cs with
    | '>' :: rest => some ([], false, rest)
    | '/' :: '>' :: rest => some ([], true, rest)
    | _ => do
      let (name, rest) ← takeQualified? (← needSpace? cs)
      match skipSpace rest with
      | '=' :: rest => do
        let (text, rest) ← takeLiteral? (skipSpace rest)
        let (others, closes, rest) ← takeAttributes? fuel rest
        some ((name, text) :: others, closes, rest)
      | _ => none

def xmlNamespace : List Char := "http://www.w3.org/XML/1998/namespace".toList

def declarationNamespace : List Char := "http://www.w3.org/2000/xmlns/".toList

/-- The name for which an attribute declares a namespace; the empty name stands for elements
without one. -/
def declaredName? (name : QualifiedName) : Option (List Char) :=
  match name.lead with
  | none => if name.last == "xmlns".toList then some [] else none
  | some lead => if lead == "xmlns".toList then some name.last else none

def mayDeclare (name space : List Char) : Bool :=
  if name == "xmlns".toList || space == declarationNamespace || space.contains '\x7d' then false
  else if name == "xml".toList then space == xmlNamespace
  else space != xmlNamespace && (name == [] || space != [])

/-- The namespaces in an element, from those around it and from its attributes. -/
def extendScope? (scope : List (List Char × List Char)) :
    List Attribute → Option (List (List Char × List Char))
  | [] => some scope
  | (name, text) :: rest =>
    match declaredName? name with
    | none => extendScope? scope rest
    | some declared =>
      if mayDeclare declared text then extendScope? ((declared, text) :: scope) rest else none

def namespaceOf? (scope : List (List Char × List Char)) (lead : List Char) : Option (List Char) :=
  if lead == "xml".toList then some xmlNamespace
  else (scope.find? (·.1 == lead)).map (·.2)

def elementName? (scope : List (List Char × List Char)) (name : QualifiedName) : Option String :=
  let full := fun (space : List Char) =>
    String.ofList (if space == [] then name.last else '\x7b' :: space ++ '\x7d' :: name.last)
  match name.lead with
  | some lead => (namespaceOf? scope lead).map full
  | none => some (full ((namespaceOf? scope []).getD []))

/-- The full name of an attribute, which has no namespace unless it names one. -/
def attributeName? (scope : List (List Char × List Char)) (name : QualifiedName) :
    Option (List Char × List Char) :=
  match name.lead with
  | none => some ([], name.last)
  | some lead =>
    if lead == "xmlns".toList then some (declarationNamespace, name.last)
    else (namespaceOf? scope lead).map fun space => (space, name.last)

def areDistinct {α : Type} [BEq α] : List α → Bool
  | [] => true
  | a :: rest => !rest.contains a && areDistinct rest

/-- Puts a closed element into the one around it, or finishes if there is none. -/
def closeElement (e : OpenElement) (outer : List OpenElement) (source : Source)
    (sources : List Source) : Step :=
  let element := Element.mk e.name (String.ofList e.text.reverse) e.children.reverse
  match outer with
  | [] => .finished element source.rest
  | o :: outer =>
    .more ⟨source :: sources, { o with children := element :: o.children } :: outer⟩

/-- Reads a start tag whose opening bracket has been read. -/
def startTag? (es : Entities) (standalone : Bool) (opened : List OpenElement) (cs : List Char) :
    Option (OpenElement × Bool × List Char) := do
  let (tag, rest) ← takeQualified? cs
  let (written, closes, rest) ← takeAttributes? (rest.length + 1) rest
  let attributes ← written.mapM fun a =>
    (attributeText? es standalone (es.known.length + 1) (a.2.length + 1) [] a.2).map fun t =>
      (a.1, t)
  let scope ← extendScope? ((opened.head?.map (·.scope)).getD []) attributes
  let name ← elementName? scope tag
  let names ← attributes.mapM fun a => attributeName? scope a.1
  if areDistinct names then some ({ tag, name, scope }, closes, rest) else none

def addText (c : Char) (source : Source) (sources : List Source) (opened : List OpenElement) :
    Step :=
  match opened with
  | [] => .fault
  | e :: outer =>
    let e := if e.children.isEmpty then { e with text := c :: e.text } else e
    .more ⟨source :: sources, e :: outer⟩

def addTexts (cs : List Char) (source : Source) (sources : List Source)
    (opened : List OpenElement) : Step :=
  match opened with
  | [] => .fault
  | e :: outer =>
    let e := if e.children.isEmpty then { e with text := cs.reverse ++ e.text } else e
    .more ⟨source :: sources, e :: outer⟩

/-- The progress after an end tag whose opening has been read. -/
def endTag (source : Source) (sources : List Source) (opened : List OpenElement)
    (cs : List Char) : Step :=
  match opened with
  | [] => .fault
  | e :: outer =>
    if opened.length ≤ source.depth then .fault
    else match takeQualified? cs with
      | some (name, rest) =>
        match endDeclaration? rest with
        | some rest =>
          if name == e.tag then closeElement e outer { source with rest } sources else .fault
        | none => .fault
      | none => .fault

/-- The progress after a reference to an entity. -/
def enterEntity (es : Entities) (name : List Char) (source : Source) (sources : List Source)
    (opened : List OpenElement) : Step :=
  match namedCharacter? name with
  | some c => addText c source sources opened
  | none =>
    match es.find? name with
    | some (.inside text) =>
      if (source :: sources).any (·.entity == some name) then .fault
      else .more ⟨⟨text, some name, opened.length⟩ :: source :: sources, opened⟩
    | _ => .fault

/-- Reads the next piece of content. -/
def next (es : Entities) (standalone : Bool) (p : Progress) : Step :=
  match p.sources with
  | [] => .fault
  | source :: sources =>
    let go := fun (rest : Option (List Char)) => match rest with
      | some rest => Step.more ⟨{ source with rest } :: sources, p.opened⟩
      | none => .fault
    match source.rest with
    | [] =>
      if sources.isEmpty || p.opened.length != source.depth then .fault
      else .more ⟨sources, p.opened⟩
    | '<' :: '/' :: cs => endTag source sources p.opened cs
    | '<' :: '!' :: '-' :: '-' :: cs => go (skipComment? cs)
    | '<' :: '!' :: cs =>
      match (after? "[CDATA[" cs).bind (untilWord? "]]>") with
      | some (inside, rest) =>
        if inside.all isXmlChar then addTexts inside { source with rest } sources p.opened
        else .fault
      | none => .fault
    | '<' :: '?' :: cs => go (skipInstruction? cs)
    | '<' :: cs =>
      match startTag? es standalone p.opened cs with
      | some (e, closes, rest) =>
        if closes then closeElement e p.opened { source with rest } sources
        else .more ⟨{ source with rest } :: sources, e :: p.opened⟩
      | none => .fault
    | '&' :: '#' :: cs =>
      match characterReference? cs with
      | some (c, rest) => addText c { source with rest } sources p.opened
      | none => .fault
    | '&' :: cs =>
      match entityReference? cs with
      | some (name, rest) => enterEntity es name { source with rest } sources p.opened
      | none => .fault
    | ']' :: ']' :: '>' :: _ => .fault
    | c :: rest =>
      if isXmlChar c then addText c { source with rest } sources p.opened else .fault

/-- Reads content up to the end of the outermost element. The first argument bounds the number of
pieces. -/
def readContent? (es : Entities) (standalone : Bool) : Nat → Progress →
    Option (Element × List Char)
  | 0, _ => none
  | fuel + 1, p =>
    match next es standalone p with
    | .more p => readContent? es standalone fuel p
    | .finished root rest => some (root, rest)
    | .fault => none

/-- Passes over white space, comments and instructions. The first argument bounds their number. -/
def skipMisc? : Nat → List Char → Option (List Char)
  | 0, _ => none
  | fuel + 1, cs =>
    match skipSpace cs with
    | '<' :: '!' :: '-' :: '-' :: rest => do skipMisc? fuel (← skipComment? rest)
    | '<' :: '?' :: rest => do skipMisc? fuel (← skipInstruction? rest)
    | cs => some cs

/-- How many pieces a document of some length may have. Entities may make it larger, but not beyond
all measure. -/
def pieceLimit (length : Nat) : Nat := 100 * length + 8388608

/-- The root element of a document after its declaration. -/
def readRoot? (d : Declaration) (cs : List Char) : Option Element := do
  let rest ← skipMisc? (cs.length + 1) cs
  let (es, rest) : Entities × List Char ← match after? "<!DOCTYPE" rest with
    | some rest => do
      let (es, rest) ← readDocumentType? d.standalone rest
      some (es, ← skipMisc? (rest.length + 1) rest)
    | none => some ({}, rest)
  match rest with
  | '<' :: _ => do
    let (root, rest) ← readContent? es d.standalone (pieceLimit rest.length) ⟨[⟨rest, none, 0⟩], []⟩
    if (← skipMisc? (rest.length + 1) rest).isEmpty then some root else none
  | _ => none

def read (bs : List UInt8) : Except Reason Element := do
  let (d, cs) ← decodeDocument bs
  match readRoot? d cs with
  | some root => return root
  | none => throw .malformedXml

end ClusterSubmission.Xml
