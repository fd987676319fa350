import ClusterSubmission.Text.Character
import ClusterSubmission.Yaml.Source

/-!
# The text of scalars

A scalar is written plainly, between quotes, or as a block of lines. Line breaks inside a plain or
quoted scalar are folded: a single one is a space, and of several the first one is dropped. A block
is literal or folded, and its header says how its end is treated.
-/
namespace ClusterSubmission.Yaml

/-- The white space between two words of a scalar: blanks before the first line break, that break,
and the breaks after it. A break that was escaped is not among them. -/
structure Gap where
  blanks : List Char := []
  broken : Bool := false
  first : Option Char := none
  more : List Char := []

def Gap.fold (g : Gap) : List Char :=
  if !g.broken then g.blanks
  else match g.first with
    | none => g.more
    | some '\n' => if g.more.isEmpty then [' '] else g.more
    | some c => c :: g.more

def Gap.addBlank (g : Gap) (c : Char) : Gap :=
  if g.broken then g else { g with blanks := g.blanks ++ [c] }

def Gap.addBreak (g : Gap) (c : Char) : Gap :=
  if g.broken then { g with more := g.more ++ [c] }
  else { blanks := [], broken := true, first := some c, more := [] }

/-- The white space at a place, added to a gap. No tab may stand before the least column. -/
def takeGap (least : Nat) : Nat → Gap → Cursor → Option (Gap × Cursor)
  | 0, g, c => some (g, c)
  | fuel + 1, g, c =>
    match c.takeBreak? with
    | some (ch, next) => takeGap least fuel (g.addBreak ch) next
    | none =>
      match c.head? with
      | some ch =>
        if !isBlank ch then some (g, c)
        else if g.broken && c.column < least && ch = '\t' then none
        else takeGap least fuel (g.addBlank ch) (c.advance 1)
      | none => some (g, c)

def isFlowSign (c : Char) : Bool := [',', '[', ']', '\x7b', '\x7d'].contains c

/-- A plain word: up to white space, a colon before white space, or a sign inside brackets. There is
none if a colon stands before such a sign. -/
def plainWord? (inFlow : Bool) : List Char → Option (List Char)
  | [] => some []
  | c :: cs =>
    if isSpace c then some []
    else if inFlow && c = ':' && (cs.head?.any fun d => isFlowSign d || d = '?') then none
    else if c = ':' && wordEnds cs || inFlow && isFlowSign c then some []
    else (plainWord? inFlow cs).map (c :: ·)

/-- The words of a plain scalar after those already read and a gap. The scalar ends at a comment, at
the boundary of the document, or where a line is not indented enough. The answer says also whether a
line break follows it. -/
def plainWords (inFlow : Bool) (least : Nat) :
    Nat → List Char → Gap → Cursor → Option (List Char × Bool × Cursor)
  | 0, _, _, _ => none
  | fuel + 1, done, gap, c =>
    if c.atBoundary || c.looksAt '#' then some (done, gap.broken, c)
    else do
      let word ← plainWord? inFlow c.rest
      let c := c.advance word.length
      let (done, gap) := if word.isEmpty then (done, gap) else (done ++ gap.fold ++ word, {})
      if !c.at? isSpace then some (done, gap.broken, c)
      else
        let (gap, c) ← takeGap least c.rest.length gap c
        if !inFlow && c.column < least then some (done, gap.broken, c)
        else plainWords inFlow least fuel done gap c

def namedEscapes : List (Char × Nat) :=
  [('0', 0), ('a', 7), ('b', 8), ('t', 9), ('\t', 9), ('n', 10), ('v', 11), ('f', 12), ('r', 13),
    ('e', 27), (' ', 32), ('"', 34), ('/', 47), ('\\', 92), ('N', 0x85), ('_', 0xa0), ('L', 0x2028),
    ('P', 0x2029)]

/-- The letters that introduce a code point, with the number of its hexadecimal digits. -/
def codeEscapes : List (Char × Nat) := [('x', 2), ('u', 4), ('U', 8)]

def isHexDigit (c : Char) : Bool :=
  ('0' ≤ c && c ≤ '9') || ('a' ≤ c && c ≤ 'f') || ('A' ≤ c && c ≤ 'F')

def charOf? (n : Nat) : Option Char := if n.isValidChar then some (Char.ofNat n) else none

/-- The character that an escape stands for, and the length of the escape. The characters are those
after the backslash. -/
def escaped? : List Char → Option (Char × Nat)
  | [] => none
  | c :: cs =>
    match namedEscapes.find? (·.1 == c), codeEscapes.find? (·.1 == c) with
    | some (_, n), _ => some (Char.ofNat n, 2)
    | none, some (_, places) =>
      let digits := cs.take places
      if digits.length = places && digits.all isHexDigit then
        (charOf? (digits.foldl (fun n d => 16 * n + Text.hexValue d) 0)).map fun ch =>
          (ch, 2 + places)
      else none
    | none, none => none

def singleWord : Nat → List Char → Cursor → List Char × Cursor
  | 0, done, c => (done.reverse, c)
  | fuel + 1, done, c =>
    match c.rest with
    | '\x27' :: '\x27' :: _ => singleWord fuel ('\x27' :: done) (c.advance 2)
    | '\x27' :: _ | [] => (done.reverse, c)
    | ch :: _ =>
      if isSpace ch then (done.reverse, c) else singleWord fuel (ch :: done) (c.advance 1)

/-- A word between double quotes, and whether it ends with an escaped line break. -/
def doubleWord? : Nat → List Char → Cursor → Option (List Char × Bool × Cursor)
  | 0, done, c => some (done.reverse, false, c)
  | fuel + 1, done, c =>
    match c.rest with
    | [] | '"' :: _ => some (done.reverse, false, c)
    | '\\' :: _ =>
      match (c.advance 1).takeBreak? with
      | some (_, next) => some (done.reverse, true, next)
      | none => do
        let (ch, n) ← escaped? (c.rest.drop 1)
        doubleWord? fuel (ch :: done) (c.advance n)
    | ch :: _ =>
      if isSpace ch then some (done.reverse, false, c)
      else doubleWord? fuel (ch :: done) (c.advance 1)

/-- The words of a quoted scalar after those already read, up to the quote at its end. -/
def quotedWords (quote : Char) : Nat → List Char → Cursor → Option (List Char × Cursor)
  | 0, _, _ => none
  | fuel + 1, done, c =>
    if c.atBoundary || c.rest.isEmpty then none
    else do
      let (word, escaped, c) ←
        if quote = '"' then doubleWord? c.rest.length [] c
        else
          let (word, c) := singleWord c.rest.length [] c
          some (word, false, c)
      if c.looksAt quote then some (done ++ word, c.advance 1)
      else
        let (gap, c) ← takeGap 0 c.rest.length { broken := escaped } c
        quotedWords quote fuel (done ++ word ++ gap.fold) c

/-- How the line breaks at the end of a block are treated: none stays, one stays, or all of them. -/
inductive Chomping where
  | strip | clip | keep
  deriving DecidableEq, Repr

/-- The header of a block: the chomping, and how far the block is indented if it says so. -/
structure BlockHeader where
  chomping : Chomping := .clip
  indentation : Option Nat := none

def chompingOf? : Char → Option Chomping
  | '+' => some .keep
  | '-' => some .strip
  | _ => none

/-- The indentation that a digit stands for; there is no indentation of zero. -/
def indentationOf? (c : Char) : Option Nat :=
  if '1' ≤ c && c ≤ '9' then some (c.toNat - 48) else none

/-- The header of a block and the place after it. The two parts stand in either order. -/
def blockHeader (c : Cursor) : BlockHeader × Cursor :=
  match c.head?.bind chompingOf? with
  | some chomping =>
    let c := c.advance 1
    match c.head?.bind indentationOf? with
    | some n => ({ chomping, indentation := some n }, c.advance 1)
    | none => ({ chomping }, c)
  | none =>
    match c.head?.bind indentationOf? with
    | some n =>
      let c := c.advance 1
      match c.head?.bind chompingOf? with
      | some chomping => ({ chomping, indentation := some n }, c.advance 1)
      | none => ({ indentation := some n }, c)
    | none => ({}, c)

/-- The empty lines of a block, after breaks already read, and the indentation of the line after
them. Without a known indentation all spaces are part of it, and the deepest line counts. -/
def emptyLines (indent : Option Nat) :
    Nat → Nat → List Char → Cursor → Option (Nat × List Char × Cursor)
  | 0, deepest, done, c => some (deepest, done, c)
  | fuel + 1, deepest, done, c =>
    let spaces := (c.rest.takeWhile (· = ' ')).length
    let c := c.advance (match indent with
      | some n => min spaces (n - c.column)
      | none => spaces)
    let deepest := max deepest c.column
    if c.looksAt '\t' && (indent.all fun n => c.column < n) then none
    else match c.takeBreak? with
      | some (ch, next) => emptyLines indent fuel deepest (done ++ [ch]) next
      | none => some (deepest, done, c)

/-- What has been read of a block: its text, the break after the last line, the breaks of the empty
lines after it, and whether the last line begins with a blank. -/
structure Block where
  text : List Char := []
  last : Option Char := none
  empties : List Char := []
  blank : Bool := false

/-- The lines of a block, after those already read. In a folded block the break between two lines is
a space unless one of them begins with a blank. -/
def blockLines (folded : Bool) (indent : Nat) : Nat → Block → Cursor → Option (Block × Cursor)
  | 0, b, c => some (b, c)
  | fuel + 1, b, c =>
    if c.column ≠ indent || c.rest.isEmpty then some (b, c)
    else do
      let blank := c.at? isBlank
      let gap :=
        if folded && b.last == some '\n' && !b.blank && !blank then
          if b.empties.isEmpty then [' '] else []
        else b.last.toList
      let (line, c) := c.spanWhile fun ch => !isBreak ch
      let (last, c) := match c.takeBreak? with
        | some (ch, c) => (some ch, c)
        | none => (none, c)
      let (_, empties, c) ← emptyLines (some indent) c.rest.length 0 [] c
      blockLines folded indent fuel ⟨b.text ++ gap ++ b.empties ++ line, last, empties, blank⟩ c

def Block.finish (b : Block) : Chomping → List Char
  | .strip => b.text
  | .clip => b.text ++ b.last.toList
  | .keep => b.text ++ b.last.toList ++ b.empties

/-- The block scalar after its sign, inside a collection with some indentation. -/
def blockScalar? (folded : Bool) (outer : Int) (c : Cursor) : Option (List Char × Cursor) := do
  let (header, c) := blockHeader c
  let c := (c.skipWhile isBlank).skipComment
  if !wordEnds c.rest then none
  else
    let c := c.skipBreak
    let given := header.indentation.map fun n => (max outer 0).toNat + n
    let (deepest, empties, c) ← emptyLines given c.rest.length 0 [] c
    let indent := given.getD (max deepest (max (outer + 1) 1).toNat)
    let (b, c) ← blockLines folded indent (c.rest.length + 1) { empties } c
    some (b.finish header.chomping, c)

end ClusterSubmission.Yaml
