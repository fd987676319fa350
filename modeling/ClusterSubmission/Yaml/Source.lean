import ClusterSubmission.Text.Unicode

/-!
# The characters of a YAML document

A document is a sequence of characters in one of three encodings, which a mark at its beginning
tells apart. Reading goes on from a place in it, and counts lines and columns, since indentation
carries meaning.
-/
namespace ClusterSubmission.Yaml

def isAllowed (c : Char) : Bool :=
  let n := c.toNat
  n = 0x9 || n = 0xa || n = 0xd || (0x20 ≤ n && n ≤ 0x7e) || n = 0x85
    || (0xa0 ≤ n && n ≤ 0xfffd) || 0x10000 ≤ n

def isBreak (c : Char) : Bool :=
  let n := c.toNat
  n = 0xa || n = 0xd || n = 0x85 || n = 0x2028 || n = 0x2029

def isBlank (c : Char) : Bool := c = ' ' || c = '\t'

def isSpace (c : Char) : Bool := isBlank c || isBreak c

/-- Whether a word ends before the given characters: white space follows, or nothing. -/
def wordEnds : List Char → Bool
  | [] => true
  | c :: _ => isSpace c

/-- Whether a character can stand in the name of an anchor or of a tag handle. -/
def isNameChar (c : Char) : Bool := c.isAlphanum || c = '-' || c = '_'

/-- The characters of a document, by the encoding that its first bytes show. -/
def decode? (bs : List UInt8) : Option (List Char) := do
  let cs ← match bs with
    | 0xff :: 0xfe :: rest => Text.ofUtf16? false rest
    | 0xfe :: 0xff :: rest => Text.ofUtf16? true rest
    | 0xef :: 0xbb :: 0xbf :: rest => (Text.ofUtf8? rest).map String.toList
    | bs => (Text.ofUtf8? bs).map String.toList
  if cs.all isAllowed then some cs else none

/-- A place in a document: the characters after it, how many are before it, and its line and
column. -/
structure Cursor where
  rest : List Char
  index : Nat := 0
  line : Nat := 0
  column : Nat := 0

namespace Cursor

def head? (c : Cursor) : Option Char := c.rest.head?

def at? (c : Cursor) (p : Char → Bool) : Bool := c.head?.any p

def looksAt (c : Cursor) (ch : Char) : Bool := c.head? == some ch

def advance (c : Cursor) (n : Nat) : Cursor :=
  { c with rest := c.rest.drop n, index := c.index + n, column := c.column + n }

def spanWhile (c : Cursor) (p : Char → Bool) : List Char × Cursor :=
  let word := c.rest.takeWhile p
  (word, c.advance word.length)

def skipWhile (c : Cursor) (p : Char → Bool) : Cursor := (c.spanWhile p).2

/-- The line break at a place, as the character that it counts as, and the beginning of the next
line. -/
def takeBreak? (c : Cursor) : Option (Char × Cursor) :=
  match c.rest with
  | '\r' :: '\n' :: rest => some ('\n', ⟨rest, c.index + 2, c.line + 1, 0⟩)
  | ch :: rest =>
    if !isBreak ch then none
    else
      let ch := if ch.toNat = 0x2028 || ch.toNat = 0x2029 then ch else '\n'
      some (ch, ⟨rest, c.index + 1, c.line + 1, 0⟩)
  | [] => none

def skipBreak (c : Cursor) : Cursor :=
  match c.takeBreak? with
  | some (_, c) => c
  | none => c

def skipComment (c : Cursor) : Cursor :=
  if c.looksAt '#' then c.skipWhile fun ch => !isBreak ch else c

/-- Whether three given characters begin the line, followed by white space or nothing. -/
def atMarker (c : Cursor) (marker : List Char) : Bool :=
  c.column = 0 && marker.isPrefixOf c.rest && wordEnds (c.rest.drop marker.length)

def atBoundary (c : Cursor) : Bool :=
  c.atMarker ['-', '-', '-'] || c.atMarker ['.', '.', '.']

end Cursor
end ClusterSubmission.Yaml
