import ClusterSubmission.Text.Printable

/-!
# Quoted text

A text between quotes, so that it can be told from the words around it. Single quotes are used
unless the text holds a single quote and no double quote. Characters that are not printable are
written by code point.
-/
namespace ClusterSubmission.Text

def hexText (places n : Nat) : List Char :=
  let ds := Nat.toDigits 16 n
  List.replicate (places - ds.length) '0' ++ ds

def quoteFor (cs : List Char) : Char :=
  if cs.contains '\x27' && !cs.contains '"' then '"' else '\x27'

def codeEscape (n : Nat) : List Char :=
  if n < 0x100 then ['\\', 'x'] ++ hexText 2 n
  else if n < 0x10000 then ['\\', 'u'] ++ hexText 4 n
  else ['\\', 'U'] ++ hexText 8 n

def quoteChar (quote c : Char) : List Char :=
  if c = quote || c = '\\' then ['\\', c]
  else if c = '\n' then ['\\', 'n']
  else if c = '\r' then ['\\', 'r']
  else if c = '\t' then ['\\', 't']
  else if isPrintable c then [c]
  else codeEscape c.toNat

def quoted (s : String) : String :=
  let q := quoteFor s.toList
  String.ofList (q :: s.toList.flatMap (quoteChar q) ++ [q])

def quoteByte (quote : Char) (b : UInt8) : List Char :=
  let c := Char.ofNat b.toNat
  if b < 0x7f then quoteChar quote c else codeEscape b.toNat

def quotedBytes (bs : List UInt8) : String :=
  let q := quoteFor (bs.map fun b => Char.ofNat b.toNat)
  String.ofList ('b' :: q :: bs.flatMap (quoteByte q) ++ [q])

end ClusterSubmission.Text
