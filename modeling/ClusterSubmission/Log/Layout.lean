import ClusterSubmission.Number.Binary64
import ClusterSubmission.Text.Character
import ClusterSubmission.Text.Path
import ClusterSubmission.Text.Width

/-!
# The layout of a log line

A record on the console stands in four columns: level, time, message and place. The message takes
what the others leave, and goes on in further lines below itself. A console that is too narrow takes
from the widest column first.
-/
namespace ClusterSubmission.Log

/-- The words of a line with the white space around them. The number of characters bounds their
number. -/
def spacedWords : Nat → List Char → List (List Char)
  | 0, _ => []
  | fuel + 1, cs =>
    let (before, rest) := cs.span Text.isBlank
    let (word, rest) := rest.span fun c => !Text.isBlank c
    let (after, rest) := rest.span Text.isBlank
    if word.isEmpty then [] else (before ++ word ++ after) :: spacedWords fuel rest

def trimEnd (cs : List Char) : List Char := (cs.reverse.dropWhile Text.isBlank).reverse

/-- A word cut into pieces of a width, after some of a piece, whose characters come last first. -/
def chop (width : Nat) : Nat → List Char → List Char → List (List Char)
  | _, piece, [] => [piece.reverse]
  | used, piece, c :: cs =>
    let size := Text.charWidth c
    if width < used + size then piece.reverse :: chop width size [c] cs
    else chop width (used + size) (c :: piece) cs

/-- Where pieces of a text begin, if the first one begins at a place. The beginning of the text is
left out. -/
def beginnings : Nat → List (List Char) → List Nat
  | _, [] => []
  | start, piece :: rest =>
    (if start = 0 then [] else [start]) ++ beginnings (start + piece.length) rest

/-- Where a line is broken so that its words fit a width. A word that is too long for any line is
cut into pieces, or stays as it is. -/
def breakPlaces (width : Nat) (folds : Bool) : Nat → Nat → List (List Char) → List Nat
  | _, _, [] => []
  | start, used, word :: rest =>
    let size := Text.width (trimEnd word)
    let next := start + word.length
    if used + size ≤ width then breakPlaces width folds next (used + Text.width word) rest
    else if width < size then
      let pieces := if folds then chop width 0 [] word else [word]
      beginnings start pieces
        ++ breakPlaces width folds next (Text.width (pieces.getLast?.getD [])) rest
    else if used ≠ 0 && start ≠ 0 then
      start :: breakPlaces width folds next (Text.width word) rest
    else breakPlaces width folds next used rest

def cutAt : Nat → List Nat → List Char → List (List Char)
  | _, [], cs => [cs]
  | start, p :: ps, cs => cs.take (p - start) :: cutAt p ps (cs.drop (p - start))

def dropEnd (width : Nat) (cs : List Char) : List Char :=
  let blanks := cs.length - (trimEnd cs).length
  cs.take (cs.length - min blanks (cs.length - width))

/-- The characters at the beginning of a text that fit a width. A space stands for half of a wide
character. -/
def fitting : Nat → List Char → List Char
  | _, [] => []
  | width, c :: cs =>
    let size := Text.charWidth c
    if size ≤ width then c :: fitting (width - size) cs else List.replicate width ' '

/-- A line of exactly some width: filled with spaces, or cut, with dots in place of the end if the
column does not fold. -/
def exactly (width : Nat) (folds : Bool) (cs : List Char) : List Char :=
  let size := Text.width cs
  if size ≤ width then cs ++ List.replicate (width - size) ' '
  else if folds then fitting width cs
  else fitting (width - 1) cs ++ ['…']

/-- A line whose tabs are filled with spaces up to the next multiple of eight columns. -/
def expandTabs : Nat → List Char → List Char
  | _, [] => []
  | column, c :: cs =>
    if c = '\t' then
      let gap := 8 - column % 8
      List.replicate gap ' ' ++ expandTabs (column + gap) cs
    else c :: expandTabs (column + Text.charWidth c) cs

def columnLines (width : Nat) (folds : Bool) (cs : List Char) : List (List Char) :=
  (Text.splitOnChar '\n' cs).flatMap fun line =>
    let line := expandTabs 0 line
    let places := breakPlaces width folds 0 0 (spacedWords line.length line)
    (cutAt 0 places line).map fun part => exactly width folds (dropEnd width part)

/-- Takes a share of an excess from some of the columns, from none more than a limit. -/
def reduceShares : Nat → Nat → List (Bool × Nat × Nat) → List Nat
  | _, _, [] => []
  | excess, shares, (taken, limit, width) :: rest =>
    if taken && 0 < shares then
      let part := min limit (Binary64.divRound excess shares)
      (width - part) :: reduceShares (excess - part) (shares - 1) rest
    else width :: reduceShares excess shares rest

def reduce (excess : Nat) (columns : List (Bool × Nat × Nat)) : List Nat :=
  let columns := columns.map fun (taken, limit, width) => (taken && limit ≠ 0, limit, width)
  reduceShares excess (columns.countP (·.1)) columns

def totalWidth (widths : List Nat) : Nat := widths.foldl (· + ·) 0

/-- Columns made narrower until they fit, the widest ones first. The first column keeps its
width. -/
def collapse (total : Nat) : Nat → List Nat → List Nat
  | 0, widths => widths
  | fuel + 1, widths =>
    let excess := totalWidth widths - total
    let rest := widths.drop 1
    let widest := rest.foldl max 0
    let second := (rest.filter (· ≠ widest)).foldl max 0
    if excess = 0 || widest = second then widths
    else
      let limit := min excess (widest - second)
      collapse total fuel
        (widths.take 1 ++ reduce excess (rest.map fun w => (w = widest, limit, w)))

def paddedWidth (limit content padding : Nat) : Nat :=
  if limit ≤ padding then limit else min (min content limit + padding) limit

/-- Whether a character ends a line where the width of a text is measured. -/
def endsLine (c : Char) : Bool :=
  ['\n', '\x1c', '\x1d', '\x1e', '\u0085', '\u2028', '\u2029'].contains c

def longestLine (cs : List Char) : Nat :=
  let lines := Text.splitOnChar '\n' (cs.map fun c => if endsLine c then '\n' else c)
  (lines.map Text.width).foldl max 0

def levelWidth : Nat := 9

def timeText : List Char := "1970-01-01 00:00:00]".toList

/-- The widths of the four columns on a console. -/
def columnWidths (total : Nat) (message place : List Char) : List Nat :=
  let level := min levelWidth total
  let time := paddedWidth total timeText.length 1
  let last := paddedWidth total (Text.width place) 0
  let widths := [level, time, max 2 (total - (level + time + last)), max last 1]
  if totalWidth widths ≤ total then widths
  else
    let widths := collapse total (totalWidth widths) widths
    let widths :=
      if totalWidth widths ≤ total then widths
      else reduce (totalWidth widths - total) (widths.map fun w => (true, w, w))
    match widths with
    | [w, x, y, z] =>
      [min levelWidth w, paddedWidth x timeText.length 1, paddedWidth y (longestLine message) 1,
        paddedWidth z (Text.width place) 0]
    | widths => widths

def isHidden (c : Char) : Bool := ['\x07', '\x08', '\x0b', '\x0c', '\r'].contains c

/-- The lines of a column with a space after them, as far as the column has room for it. -/
def spacedLines (width : Nat) (folds : Bool) (cs : List Char) : List (List Char) :=
  (columnLines (width - 1) folds cs).map fun line => line ++ List.replicate (min width 1) ' '

/-- Columns side by side, each with its width and its lines, without white space at the end. -/
def sideBySide (columns : List (Nat × List (List Char))) : List String :=
  let height := (columns.map fun c => c.2.length).foldl max 0
  (List.range height).map fun i =>
    String.ofList (trimEnd (columns.flatMap fun (width, lines) =>
      lines[i]?.getD (List.replicate width ' ')))

def consoleLines (total : Nat) (level : String) (message place : List Char) : List String :=
  let message := message.filter fun c => !isHidden c
  let level := '[' :: level.toList ++ List.replicate (8 - level.length) ' '
  match columnWidths total message place with
  | [w, x, y, z] =>
    sideBySide [(w, spacedLines w false level), (x, spacedLines x false timeText),
      (y, spacedLines y true message), (z, columnLines z false place)]
  | _ => []

end ClusterSubmission.Log
