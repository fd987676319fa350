import ClusterSubmission.Yaml.Scalar
import ClusterSubmission.Number.Decimal

/-!
# Writing YAML

A value is written as a block, with its scalars as plain as they can be: a text that would be read
as something else is quoted, and one with special characters is put between double quotes. Long
lines are broken at single spaces where that changes nothing.
-/
namespace ClusterSubmission.Yaml

/-- How a scalar is written. -/
inductive Style where
  | plain | single | double
  deriving DecidableEq, Repr

def isWritable (c : Char) : Bool :=
  let n := c.toNat
  n = 0xa || (0x20 ≤ n && n ≤ 0x7e) || (0xa0 ≤ n && n ≤ 0xfffd && n ≠ 0xfeff)

def isLeadingSign (c : Char) : Bool := "#,[]\x7b\x7d&*!|>'\"%@\x60".toList.contains c

/-- Whether a text has a sign that means something outside brackets, after a given character. -/
def hasBlockSign : Option Char → List Char → Bool
  | _, [] => false
  | before, c :: cs =>
    let here := match before with
      | none => isLeadingSign c || (['?', ':', '-'].contains c && wordEnds cs)
      | some b => c = ':' && wordEnds cs || c = '#' && isSpace b
    here || hasBlockSign (some c) cs

/-- Whether a line begins with a space somewhere inside a text, or one ends with a space. -/
def hasSpaceAtBreak (spaceFirst : Bool) : List Char → Bool
  | a :: b :: cs =>
    (if spaceFirst then a = ' ' && isBreak b else isBreak a && b = ' ')
      || hasSpaceAtBreak spaceFirst (b :: cs)
  | _ => false

def isEdge (c : Char) : Bool := c = ' ' || isBreak c

/-- Whether a text can be written plainly outside brackets, apart from what it would be read as. -/
def allowsPlain (cs : List Char) : Bool :=
  !(['-', '-', '-'].isPrefixOf cs || ['.', '.', '.'].isPrefixOf cs || hasBlockSign none cs
    || cs.head?.any isEdge || cs.getLast?.any isEdge || cs.any isBreak || !cs.all isWritable)

def allowsSingle (cs : List Char) : Bool :=
  !(hasSpaceAtBreak true cs || hasSpaceAtBreak false cs || !cs.all isWritable)

def styleOf (isKey : Bool) (s : String) : Style :=
  let cs := s.toList
  if isKey && cs.any isBreak then .double
  else if allowsPlain cs && plainKind s == .text then .plain
  else if allowsSingle cs then .single
  else .double

/-- A document that is being written: its characters, the last one first, the column, whether white
space or nothing but indentation is before the place. -/
structure Sheet where
  text : List Char := []
  column : Nat := 0
  afterSpace : Bool := true
  indented : Bool := true

namespace Sheet

def put (s : Sheet) (c : Char) : Sheet := { s with text := c :: s.text, column := s.column + 1 }

def putAll (s : Sheet) (cs : List Char) : Sheet := cs.foldl put s

def endLine (s : Sheet) (c : Char) : Sheet := { s with text := c :: s.text, column := 0 }

/-- The sheet at some column of a line that has nothing but indentation so far. -/
def lineAt (s : Sheet) (column : Nat) : Sheet :=
  let s := if !s.indented || column < s.column || (s.column = column && !s.afterSpace) then
      s.endLine '\n'
    else s
  let s := s.putAll (List.replicate (column - s.column) ' ')
  { s with afterSpace := true, indented := true }

/-- The sheet with a space, unless there is white space before the place. -/
def spaced (s : Sheet) : Sheet := if s.afterSpace then s else s.put ' '

/-- The sheet with a sign that needs white space before it and may be followed by indentation. -/
def sign (s : Sheet) (c : Char) : Sheet := { s.spaced.put c with afterSpace := false }

def bracket (s : Sheet) (c : Char) : Sheet :=
  { s.put c with afterSpace := false, indented := false }

/-- Whether a line is broken at a space: the line is long, and the space stands alone. -/
def breaksAt (s : Sheet) (spaceBefore : Bool) (rest : List Char) : Bool :=
  !spaceBefore && 80 < s.column && rest.head? ≠ some ' '

/-- A plain text after some of it, which ended with a space or not. Texts with line breaks are never
plain. -/
def plain (mayBreak : Bool) (indent : Nat) : Sheet → Bool → List Char → Sheet
  | s, _, [] => { s with afterSpace := false, indented := false }
  | s, spaceBefore, c :: cs =>
    if c = ' ' then
      if mayBreak && s.breaksAt spaceBefore cs then plain mayBreak indent (s.lineAt indent) true cs
      else plain mayBreak indent (s.put c) true cs
    else plain mayBreak indent { s.put c with indented := false } false cs

/-- A text between single quotes after some of it, which is empty, and ended with a space or with a
line break. The first of several line breaks is written twice. -/
def single (mayBreak : Bool) (indent : Nat) :
    Sheet → Bool → Bool → Bool → List Char → Sheet
  | s, _, _, breakBefore, [] => if breakBefore then s.lineAt indent else s
  | s, isFirst, spaceBefore, breakBefore, c :: cs =>
    if c = ' ' then
      if mayBreak && !isFirst && !cs.isEmpty && s.breaksAt spaceBefore cs then
        single mayBreak indent (s.lineAt indent) false true breakBefore cs
      else single mayBreak indent (s.put c) false true breakBefore cs
    else if isBreak c then
      let s := if !breakBefore && c = '\n' then s.endLine '\n' else s
      single mayBreak indent { s.endLine c with indented := true } false spaceBefore true cs
    else
      let s := if breakBefore then s.lineAt indent else s
      let s := s.putAll (if c = '\x27' then [c, c] else [c])
      single mayBreak indent { s with indented := false } false false false cs

/-- A hexadecimal number in capital letters, with some digits at least. -/
def capitalHex (places n : Nat) : List Char := (Text.hexText places n).map Char.toUpper

def escapeLetters : List (Nat × Char) :=
  [(0, '0'), (7, 'a'), (8, 'b'), (9, 't'), (10, 'n'), (11, 'v'), (12, 'f'), (13, 'r'), (27, 'e'),
    (34, '"'), (92, '\\'), (0x85, 'N'), (0xa0, '_'), (0x2028, 'L'), (0x2029, 'P')]

def escapeOf (n : Nat) : List Char :=
  match escapeLetters.find? (·.1 == n) with
  | some (_, c) => [c]
  | none =>
    if n ≤ 0xff then 'x' :: capitalHex 2 n
    else if n ≤ 0xffff then 'u' :: capitalHex 4 n
    else 'U' :: capitalHex 8 n

/-- A text between double quotes after some of it, which is empty, or ended with a space. -/
def double (mayBreak : Bool) (indent : Nat) : Sheet → Bool → Bool → List Char → Sheet
  | s, _, _, [] => s
  | s, isFirst, spaceBefore, c :: cs =>
    if !isWritable c || isBreak c || c = '"' || c = '\\' then
      double mayBreak indent (s.putAll ('\\' :: escapeOf c.toNat)) false false cs
    else if c = ' ' then
      if mayBreak && !spaceBefore && 80 < s.column && !isFirst && !cs.isEmpty then
        let s := s.lineAt indent
        let s := if cs.head? == some ' ' then s.put '\\' else s
        double mayBreak indent s false true cs
      else double mayBreak indent (s.put c) false true cs
    else double mayBreak indent (s.put c) false false cs

/-- A text in its style, inside some indentation. A key that stands before its colon keeps to one
line. -/
def word (s : Sheet) (isKey : Bool) (indent : Nat) (style : Style) (text : String) : Sheet :=
  let cs := text.toList
  match style with
  | .plain => plain (!isKey) indent (if cs.isEmpty then s else s.spaced) false cs
  | .single => (single (!isKey) indent (s.spaced.bracket '\x27') true false false cs).bracket '\x27'
  | .double => (double (!isKey) indent (s.spaced.bracket '"') true false cs).bracket '"'

end Sheet

/-- The text of a scalar and its style. Integers with too many digits have no text. -/
def scalarText? (isKey : Bool) : Value → Except Reason (Option (Style × String))
  | .null => .ok (some (.plain, "null"))
  | .bool b => .ok (some (.plain, if b then "true" else "false"))
  | .int n =>
    if textBound ≤ n.natAbs then .error .integerTextTooLong else .ok (some (.plain, Text.intText n))
  | .float x => .ok (some (.plain, Decimal.yaml.text x))
  | .text s => .ok (some (styleOf isKey s, s))
  | _ => .ok none

/-- Whether a key can stand before its colon: it is short and keeps to one line. -/
def isSimpleKey : Value → Bool
  | .text s => s.utf8ByteSize ≤ 128 && !s.toList.any isBreak
  | .int n => (Text.intText n).length ≤ 128
  | .list vs => vs.isEmpty
  | .mapping es => es.isEmpty
  | _ => true

def deeper : Option Nat → Nat
  | none => 0
  | some n => n + 2

def hanging : Option Nat → Nat
  | none => 2
  | some n => n + 2

mutual
/-- The sheet with a value, inside a collection at some column. The members of a sequence that is
the value of an entry stand at the column of the entry. -/
def writeNode (outer : Option Nat) (inMapping isKey : Bool) (s : Sheet) :
    Value → Except Reason Sheet
  | .list [] => .ok ((s.spaced.bracket '[').bracket ']')
  | .mapping [] => .ok ((s.spaced.bracket '\x7b').bracket '\x7d')
  | .list (v :: vs) =>
    writeItems (if inMapping && !s.indented then outer.getD 0 else deeper outer) s (v :: vs)
  | .mapping (e :: es) => writeEntries (deeper outer) s (e :: es)
  | v => do
    match ← scalarText? isKey v with
    | some (style, text) => return s.word isKey (hanging outer) style text
    | none => throw .wrongType

def writeItems (column : Nat) (s : Sheet) : List Value → Except Reason Sheet
  | [] => .ok s
  | v :: vs => do
    let s ← writeNode (some column) false false ((s.lineAt column).sign '-') v
    writeItems column s vs

/-- The sheet with the entries of a mapping. -/
def writeEntries (column : Nat) (s : Sheet) : List (Value × Value) → Except Reason Sheet
  | [] => .ok s
  | (k, v) :: es => do
    let s := s.lineAt column
    let s ←
      if isSimpleKey k then do
        let s ← writeNode (some column) true true s k
        pure (s.bracket ':')
      else do
        let s ← writeNode (some column) true false (s.sign '?') k
        pure ((s.lineAt column).sign ':')
    let s ← writeNode (some column) true false s v
    writeEntries column s es
end

def write (v : Value) : Except Reason String := do
  let s ← writeNode none false false {} v
  return String.ofList (s.lineAt 0).text.reverse

end ClusterSubmission.Yaml
