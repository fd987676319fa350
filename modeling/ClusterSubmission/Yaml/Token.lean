import ClusterSubmission.Yaml.Word

/-!
# The tokens of a YAML document

The structure of a document shows in its signs and in its indentation. Each becomes a token, and a
deeper indentation opens a collection that a lesser one closes. What turns out to be a key only at
the colon after it gets its key token then, at the place where it began.
-/
namespace ClusterSubmission.Yaml

/-- A token. Those of flow collections are written with brackets, those of blocks by indentation. -/
inductive Token where
  | versionMark (major minor : Nat)
  | tagMark (handle : List Char) (start : List Char)
  | documentStart
  | documentEnd
  | blockSequence
  | blockMapping
  | blockEnd
  | openSequence
  | closeSequence
  | openMapping
  | closeMapping
  | comma
  | item
  | key
  | value
  | alias (name : List Char)
  | anchor (name : List Char)
  | tag (handle : List Char) (rest : List Char)
  | scalar (isPlain : Bool) (text : List Char)
  deriving DecidableEq, Repr

/-- What may turn out to be a key: the number of its first token, where it begins, and whether
nothing but a key can stand there. -/
structure PossibleKey where
  token : Nat
  required : Bool
  index : Nat
  line : Nat
  column : Nat

/-- A document that is being split: the place, the columns of the open blocks, the innermost first,
what may be a key in every open flow collection and outside of them, whether a key may begin here,
and the tokens so far, the last one first. -/
structure Scan where
  cursor : Cursor
  indent : Int := -1
  outer : List Int := []
  keys : List (Option PossibleKey) := [none]
  keyAllowed : Bool := true
  tokens : List Token := []

namespace Scan

def inFlow (s : Scan) : Bool := 1 < s.keys.length

def emit (s : Scan) (t : Token) : Scan := { s with tokens := t :: s.tokens }

def insertAt (s : Scan) (number : Nat) (t : Token) : Scan :=
  let later := s.tokens.length - number
  { s with tokens := s.tokens.take later ++ t :: s.tokens.drop later }

def advance (s : Scan) (n : Nat) : Scan := { s with cursor := s.cursor.advance n }

def allowKey (s : Scan) (allowed : Bool) : Scan := { s with keyAllowed := allowed }

def openBlock (s : Scan) (column : Nat) (put : Scan → Scan) : Scan :=
  if s.inFlow || (column : Int) ≤ s.indent then s
  else put { s with indent := column, outer := s.indent :: s.outer }

/-- Closes the blocks that are deeper than a column; those around them are given. -/
def closeOuter (column : Int) : List Int → Scan → Scan
  | [], s => s
  | i :: outer, s =>
    if s.indent ≤ column then s
    else closeOuter column outer ({ s with indent := i, outer }.emit .blockEnd)

def closeBlocks (s : Scan) (column : Int) : Scan :=
  if s.inFlow then s else closeOuter column s.outer s

/-- Gives up what may be a key in the innermost collection; none if it had to be one. -/
def dropKey? (s : Scan) : Option Scan :=
  match s.keys with
  | some k :: keys => if k.required then none else some { s with keys := none :: keys }
  | _ => some s

def noteKey? (s : Scan) : Option Scan :=
  if !s.keyAllowed then some s
  else do
    let c := s.cursor
    let required := !s.inFlow && s.indent = (c.column : Int)
    let s ← s.dropKey?
    let key : PossibleKey := ⟨s.tokens.length, required, c.index, c.line, c.column⟩
    some { s with keys := some key :: s.keys.tail }

/-- Gives up what can no longer be a key, since a key is short and keeps to one line. None if
something had to be one. -/
def dropStaleKeys? (s : Scan) : Option Scan := do
  let keys ← s.keys.mapM fun
    | some k =>
      if k.line < s.cursor.line || k.index + 1024 < s.cursor.index then
        if k.required then none else some none
      else some (some k)
    | none => some none
  some { s with keys }

/-- Skips what stands between two tokens. A new line outside brackets may begin with a key, and tabs
are refused there. -/
def skipToToken : Nat → Scan → Scan
  | 0, s => s
  | fuel + 1, s =>
    let c := s.cursor
    let c := if c.column = 0 && c.looksAt '\ufeff' then c.advance 1 else c
    let tabs := s.inFlow || !s.keyAllowed
    let c := (c.skipWhile fun ch => ch = ' ' || (tabs && ch = '\t')).skipComment
    match c.takeBreak? with
    | some (_, c) =>
      skipToToken fuel { s with cursor := c, keyAllowed := s.keyAllowed || !s.inFlow }
    | none => { s with cursor := c }

def versionNumber? (c : Cursor) : Option (Nat × Cursor) :=
  let (digits, c) := c.spanWhile fun ch => '0' ≤ ch && ch ≤ '9'
  if digits.isEmpty || 9 < digits.length then none else some (Text.digitsValue digits, c)

/-- Whether a character can stand in a tag. Brackets and commas only stand between angle
brackets. -/
def isTagChar (verbatim : Bool) (c : Char) : Bool :=
  isNameChar c || ";/?:@&=+$.!~*'()%".toList.contains c || (verbatim && [',', '[', ']'].contains c)

def tagBytes? : List Char → Option (List UInt8)
  | '%' :: a :: b :: cs =>
    if isHexDigit a && isHexDigit b then
      (tagBytes? cs).map (UInt8.ofNat (16 * Text.hexValue a + Text.hexValue b) :: ·)
    else none
  | '%' :: _ => none
  | c :: cs => (tagBytes? cs).map (String.utf8EncodeChar c ++ ·)
  | [] => some []

def tagText? (verbatim : Bool) (c : Cursor) : Option (List Char × Cursor) := do
  let (word, c) := c.spanWhile (isTagChar verbatim)
  some ((← Text.ofUtf8? (← tagBytes? word)).toList, c)

/-- The handle at the beginning of a tag: a name between exclamation marks, if the second one is
there, and the place after it. -/
def tagHandle? (c : Cursor) : Option (List Char × Cursor) :=
  if !c.looksAt '!' then none
  else
    let (name, c) := (c.advance 1).spanWhile isNameChar
    if c.looksAt '!' then some ('!' :: name ++ ['!'], c.advance 1) else some ('!' :: name, c)

/-- The line that says how the document is to be read, after its percent sign. -/
def directive? (c : Cursor) : Option (Token × Cursor) := do
  let (name, c) := c.spanWhile isNameChar
  if name.isEmpty || !wordEnds c.rest then none
  else
    let c := c.skipWhile isBlank
    let (token, c) ←
      if name == "YAML".toList then do
        let (major, c) ← versionNumber? c
        if c.looksAt '.' then
          let (minor, c) ← versionNumber? (c.advance 1)
          some (Token.versionMark major minor, c)
        else none
      else if name == "TAG".toList then do
        let (handle, c) ← tagHandle? c
        let complete := handle == ['!'] || 1 < handle.length && handle.getLast? == some '!'
        if complete && c.at? isBlank then
          let (start, c) ← tagText? true (c.skipWhile isBlank)
          if start.isEmpty || !wordEnds c.rest then none else some (.tagMark handle start, c)
        else none
      else none
    let c := (c.skipWhile isBlank).skipComment
    if wordEnds c.rest then some (token, c.skipBreak) else none

def anchorName? (c : Cursor) : Option (List Char × Cursor) :=
  let (name, c) := c.spanWhile isNameChar
  let signs := ['?', ':', ',', ']', '\x7d', '%', '@', '\x60']
  let ends := wordEnds c.rest || c.at? signs.contains
  if name.isEmpty || !ends then none else some (name, c)

/-- A tag, after nothing: between angle brackets, with a handle, or short. -/
def tagToken? (inFlow : Bool) (c : Cursor) : Option (Token × Cursor) := do
  let (token, c) ←
    if ['!', '<'].isPrefixOf c.rest then do
      let (text, c) ← tagText? true (c.advance 2)
      if text.isEmpty || !c.looksAt '>' then none else some (Token.tag [] text, c.advance 1)
    else do
      let (handle, c) ← tagHandle? c
      let (text, c) ← tagText? false c
      if 1 < handle.length && handle.getLast? == some '!' then
        if text.isEmpty then none else some (.tag handle text, c)
      else
        let text := handle.drop 1 ++ text
        some (if text.isEmpty then .tag [] ['!'] else .tag ['!'] text, c)
  if wordEnds c.rest || inFlow && c.looksAt ',' then some (token, c) else none

def accept (s : Scan) (t : Token × Cursor) : Scan := { s with cursor := t.2 }.emit t.1

def boundary? (s : Scan) (t : Token) : Option Scan := do
  let s ← (s.closeBlocks (-1)).dropKey?
  some (((s.allowKey false).advance 3).emit t)

def openFlow? (s : Scan) (t : Token) : Option Scan := do
  let s ← s.noteKey?
  some ((({ s with keys := none :: s.keys }.allowKey true).advance 1).emit t)

def closeFlow? (s : Scan) (t : Token) : Option Scan := do
  let s ← s.dropKey?
  let s := if s.inFlow then { s with keys := s.keys.tail } else s
  some (((s.allowKey false).advance 1).emit t)

def comma? (s : Scan) : Option Scan := do
  some ((((← s.dropKey?).allowKey true).advance 1).emit .comma)

def item? (s : Scan) : Option Scan := do
  if !s.inFlow && !s.keyAllowed then none
  else
    let s ← (s.openBlock s.cursor.column (·.emit .blockSequence)).dropKey?
    some (((s.allowKey true).advance 1).emit .item)

def key? (s : Scan) : Option Scan := do
  if !s.inFlow && !s.keyAllowed then none
  else
    let s ← (s.openBlock s.cursor.column (·.emit .blockMapping)).dropKey?
    some (((s.allowKey !s.inFlow).advance 1).emit .key)

/-- The colon before a value. What may be a key before it is one. -/
def value? (s : Scan) : Option Scan :=
  match s.keys with
  | some k :: keys =>
    let s := { s with keys := none :: keys }.insertAt k.token .key
    let s := s.openBlock k.column (·.insertAt k.token .blockMapping)
    some (((s.allowKey false).advance 1).emit .value)
  | _ =>
    if !s.inFlow && !s.keyAllowed then none
    else
      let s := s.openBlock s.cursor.column (·.emit .blockMapping)
      some (((s.allowKey !s.inFlow).advance 1).emit .value)

/-- An anchor, an alias, a tag or a quoted scalar, any of which can begin a key. -/
def property? (s : Scan) (read : Cursor → Option (Token × Cursor)) : Option Scan := do
  let s ← s.noteKey?
  some ((s.allowKey false).accept (← read s.cursor))

def block? (s : Scan) (folded : Bool) : Option Scan := do
  let s ← s.dropKey?
  let (text, c) ← blockScalar? folded s.indent (s.cursor.advance 1)
  some ((s.allowKey true).accept (.scalar false text, c))

def quoted? (quote : Char) (c : Cursor) : Option (Token × Cursor) := do
  let c := c.advance 1
  let (text, c) ← quotedWords quote (c.rest.length + 1) [] c
  some (.scalar false text, c)

def plain? (s : Scan) : Option Scan := do
  let s ← s.noteKey?
  let c := s.cursor
  let (text, broken, c) ←
    plainWords s.inFlow (s.indent + 1).toNat (c.rest.length + 1) [] {} c
  some ((s.allowKey broken).accept (.scalar true text, c))

def beginsPlain (inFlow : Bool) : List Char → Bool
  | [] => false
  | c :: cs =>
    if c = '-' then !(cs.head?.any isBlank)
    else if c = '?' || c = ':' then !inFlow && !wordEnds cs
    else !isSpace c && !",[]\x7b\x7d#&*!|>'\"%@\x60".toList.contains c

/-- The next token, where the place is at one. -/
def token? (s : Scan) : Option Scan :=
  let c := s.cursor
  if c.column = 0 && c.looksAt '%' then do
    let s ← (s.closeBlocks (-1)).dropKey?
    some ((s.allowKey false).accept (← directive? (c.advance 1)))
  else if c.atMarker ['-', '-', '-'] then s.boundary? .documentStart
  else if c.atMarker ['.', '.', '.'] then s.boundary? .documentEnd
  else
    let ends := wordEnds (c.rest.drop 1)
    match c.head? with
    | some '[' => s.openFlow? .openSequence
    | some '\x7b' => s.openFlow? .openMapping
    | some ']' => s.closeFlow? .closeSequence
    | some '\x7d' => s.closeFlow? .closeMapping
    | some ',' => s.comma?
    | some ch =>
      if ch = '-' && ends then s.item?
      else if ch = '?' && (s.inFlow || ends) then s.key?
      else if ch = ':' && (s.inFlow || ends) then s.value?
      else if ch = '*' then s.property? fun c => do
        let (name, c) ← anchorName? (c.advance 1)
        some (.alias name, c)
      else if ch = '&' then s.property? fun c => do
        let (name, c) ← anchorName? (c.advance 1)
        some (.anchor name, c)
      else if ch = '!' then s.property? (tagToken? s.inFlow)
      else if ch = '|' && !s.inFlow then s.block? false
      else if ch = '>' && !s.inFlow then s.block? true
      else if ch = '\x27' || ch = '"' then s.property? (quoted? ch)
      else if beginsPlain s.inFlow c.rest then s.plain?
      else none
    | none => none

/-- All tokens from a state on. Every token takes a character, so the number of characters bounds
their number. -/
def run : Nat → Scan → Option (List Token)
  | 0, _ => none
  | fuel + 1, s => do
    let s ← (skipToToken (s.cursor.rest.length + 1) s).dropStaleKeys?
    let s := s.closeBlocks s.cursor.column
    if s.cursor.rest.isEmpty then
      let s ← (s.closeBlocks (-1)).dropKey?
      some s.tokens.reverse
    else run fuel (← s.token?)

end Scan

def tokens? (cs : List Char) : Option (List Token) :=
  Scan.run (cs.length + 1) { cursor := ⟨cs, 0, 0, 0⟩ }

end ClusterSubmission.Yaml
