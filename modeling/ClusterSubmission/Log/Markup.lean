import ClusterSubmission.Failure
import ClusterSubmission.Log.Style

/-!
# Console markup

A line for the console may hold tags in brackets that set the style of what follows. A tag begins
with a small letter or one of three signs; a backslash takes the meaning from a bracket. Rendering
without styles drops the tags, but every tag that closes a style has to find one that is open. A tag
with an at sign names a handler, and its parameters are read as literals when it is closed.
-/
namespace ClusterSubmission.Log

/-- A piece of a line: plain text, or a tag with its place in the line. -/
inductive MarkupPiece where
  | plain (cs : List Char)
  | tag (position : Nat) (body : List Char)

def beginsTag (c : Char) : Bool :=
  c.toNat ≥ 0x61 && c.toNat ≤ 0x7a || c = '#' || c = '/' || c = '@'

/-- The body of a tag whose opening bracket has been read, and what follows its closing one. -/
def tagBody? : List Char → Option (List Char × List Char)
  | c :: rest =>
    if beginsTag c then
      match rest.span fun d => d != '[' && d != ']' with
      | (body, ']' :: after) => some (c :: body, after)
      | _ => none
    else none
  | [] => none

/-- The pieces of a line from a position on. Characters before the next tag are collected in
`before`, last one first; the first argument bounds the length of the line. -/
def markupPieces : Nat → Nat → List Char → List Char → List MarkupPiece
  | 0, _, _, before => [.plain before.reverse]
  | _ + 1, _, [], before => if before.isEmpty then [] else [.plain before.reverse]
  | fuel + 1, position, c :: rest, before =>
    let line := c :: rest
    let (slashes, after) := line.span (· = '\\')
    let found := match after with
      | '[' :: inside => tagBody? inside
      | _ => none
    match found with
    | none =>
      if slashes.isEmpty then markupPieces fuel (position + 1) rest (c :: before)
      else markupPieces fuel (position + slashes.length) after (slashes ++ before)
    | some (body, after) =>
      let lead := (if before.isEmpty then [] else [.plain before.reverse])
        ++ (if slashes.length < 2 then [] else [.plain (List.replicate (slashes.length / 2) '\\')])
      let next := position + slashes.length + body.length + 2
      let piece := if slashes.length % 2 = 1 then .plain ('[' :: body ++ [']'])
        else .tag (position + slashes.length) body
      lead ++ piece :: markupPieces fuel next after []

def splitTag (body : List Char) : List Char × Option (List Char) :=
  match body.span (· != '=') with
  | (name, '=' :: parameters) => (name, some parameters)
  | (name, _) => (name, none)

/-- Plain text where brackets that are no tags may still have a backslash. -/
def unescapeBrackets : List Char → List Char
  | '\\' :: '[' :: rest => '[' :: unescapeBrackets rest
  | c :: rest => c :: unescapeBrackets rest
  | [] => []

/-- A tag that is open: its style in normal spelling, and its parameters. -/
structure OpenTag where
  style : String
  parameters : Option (List Char) := none

def isSpace (c : Char) : Bool := c = ' ' || c = '\t' || c = '\n' || c = '\r'

/-- What follows a decimal number at the beginning of a text. -/
def afterNumber? (cs : List Char) : Option (List Char) :=
  let (whole, rest) := cs.span Char.isDigit
  let (fraction, rest) := match rest with
    | '.' :: rest => (some (rest.takeWhile Char.isDigit), rest.dropWhile Char.isDigit)
    | rest => (none, rest)
  let hasZeros := 1 < whole.length && whole.head? == some '0' && whole.any (· != '0')
  if whole.isEmpty && (fraction.getD []).isEmpty || fraction.isNone && hasZeros then none
  else if rest.head?.any fun c => c.isAlphanum || c = '_' || c = '.' then none
  else some rest

def afterQuoted? (quote : Char) (cs : List Char) : Option (List Char) :=
  match cs.span fun c => c != quote && c != '\\' && c != '\n' with
  | (_, c :: rest) => if c = quote then some rest else none
  | _ => none

def afterWord? (cs : List Char) : Option (List Char) :=
  let (word, rest) := cs.span fun c => c.isAlphanum || c = '_'
  if ["None", "True", "False"].contains (String.ofList word) then some rest else none

mutual
/-- What follows a literal at the beginning of a text: a number, a plain text, a word for nothing or
for a truth value, or literals in parentheses. Other literals are not read. -/
def afterLiteral? : Nat → List Char → Option (List Char)
  | 0, _ => none
  | fuel + 1, cs =>
    match cs.dropWhile isSpace with
    | '(' :: rest => afterMembers? fuel rest
    | '\'' :: rest => afterQuoted? '\'' rest
    | '"' :: rest => afterQuoted? '"' rest
    | '-' :: rest => afterNumber? (rest.dropWhile isSpace)
    | rest => (afterWord? rest).orElse fun _ => afterNumber? rest

/-- What follows literals and the parenthesis behind them. -/
def afterMembers? : Nat → List Char → Option (List Char)
  | 0, _ => none
  | fuel + 1, cs =>
    match cs.dropWhile isSpace with
    | ')' :: rest => some rest
    | cs =>
      match (afterLiteral? fuel cs).map (·.dropWhile isSpace) with
      | some (',' :: rest) => afterMembers? fuel rest
      | some (')' :: rest) => some rest
      | _ => none
end

/-- Whether a text is a literal, or several ones with commas. -/
def isLiteral (cs : List Char) : Bool :=
  !cs.all isSpace && afterMembers? (2 * cs.length + 4) (cs ++ [')']) == some []

/-- The part of parameters that is read as a literal: all of them, unless they are the name of a
handler, which may have arguments in parentheses behind it. -/
def handlerArguments (parameters : List Char) : List Char :=
  let given := (Text.strip (String.ofList parameters)).toList
  match given.span fun c => c.isAlphanum || c = '_' || c = '.' with
  | (_, []) => ['(', ')']
  | (_, rest) =>
    if rest.head? == some '(' && rest.getLast? == some ')' && !rest.contains '\n' then rest
    else given

namespace OpenTag

/-- What closing a tag fails with: parameters of a handler that are no literal. -/
def closingFault? (t : OpenTag) : Option Reason :=
  match t.parameters with
  | some (c :: cs) =>
    if t.style.toList.head? == some '@' && !isLiteral (handlerArguments (c :: cs)) then
      some (.handlerUnreadable (String.ofList (c :: cs)))
    else none
  | _ => none

/-- The tag that was opened last with a style, and the others. -/
def take? (style : String) : List OpenTag → Option (OpenTag × List OpenTag)
  | [] => none
  | t :: rest =>
    if t.style == style then some (t, rest)
    else (take? style rest).map fun r => (r.1, t :: r.2)

/-- The tags that are still open behind one that closes a style, the last one if it names none. -/
def afterClosing (position : Nat) (body name : List Char) (opened : List OpenTag) :
    Except Reason (List OpenTag) :=
  let style := Text.strip (String.ofList name)
  let found := if style == "" then opened.head?.map fun t => (t, opened.tail)
    else take? (normalStyle style) opened
  match found with
  | some (t, rest) => t.closingFault?.elim (.ok rest) .error
  | none => .error (if style == "" then .nothingToClose position
      else .unmatchedTag (String.ofList ('[' :: body ++ [']'])) position)

end OpenTag

/-- The text of pieces without their tags. `opened` holds the tags that are open, the last one
first. -/
def renderPieces (opened : List OpenTag) : List MarkupPiece → Except Reason (List Char)
  | [] => .ok []
  | .plain cs :: rest => do return unescapeBrackets cs ++ (← renderPieces opened rest)
  | .tag position body :: rest =>
    let (name, parameters) := splitTag body
    match name with
    | '/' :: name => do renderPieces (← OpenTag.afterClosing position body name opened) rest
    | name => renderPieces (⟨normalStyle (String.ofList name), parameters⟩ :: opened) rest

def renderMarkup (line : String) : Except Reason (List Char) :=
  let cs := line.toList
  if cs.contains '[' then renderPieces [] (markupPieces (cs.length + 1) 0 cs []) else .ok cs

end ClusterSubmission.Log
