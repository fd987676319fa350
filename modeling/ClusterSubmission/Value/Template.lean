import ClusterSubmission.Failure
import ClusterSubmission.Number.Places

/-!
# Templates

A template is a text with places for arguments. A place begins with a percent sign and says how its
argument is written: as text, as an integer, as a binary number or as a character, and how wide.
Arguments are taken in order, or by name from a mapping.
-/
namespace ClusterSubmission.Template

/-- What a place says before the sign of its kind. -/
structure Place where
  left : Bool := false
  plus : Bool := false
  blank : Bool := false
  alternate : Bool := false
  zeros : Bool := false
  width : Nat := 0
  precision : Option Nat := none

/-- The arguments that are left, and the mapping that named ones come from. -/
structure Supply where
  left : List Value
  named : Option (List (Value × Value)) := none

/-- The arguments of a template. A single mapping with entries gives them by name. -/
def Supply.ofArguments : List Value → Supply
  | [.mapping (e :: es)] => ⟨[.mapping (e :: es)], some (e :: es)⟩
  | args => ⟨args, none⟩

def Supply.next (s : Supply) : Except Reason (Value × Supply) :=
  match s.left with
  | v :: rest => .ok (v, { s with left := rest })
  | [] => .error .wrongType

/-- Puts a number, its sign and its mark into a field. Zeros go between the mark and the digits. -/
def numberField (p : Place) (sign body : List Char) : List Char :=
  let gap := p.width - (sign.length + body.length)
  if p.left then sign ++ body ++ List.replicate gap ' '
  else if p.zeros then sign ++ List.replicate gap '0' ++ body
  else List.replicate gap ' ' ++ sign ++ body

def textField (p : Place) (cs : List Char) : List Char :=
  let gap := List.replicate (p.width - cs.length) ' '
  if p.left then cs ++ gap else gap ++ cs

def signText (p : Place) (negative : Bool) : List Char :=
  if negative then ['-'] else if p.plus then ['+'] else if p.blank then [' '] else []

def baseMark : Char → List Char
  | 'o' => ['0', 'o']
  | 'x' => ['0', 'x']
  | 'X' => ['0', 'X']
  | _ => []

def baseOf (sign : Char) : Nat :=
  if sign = 'o' then 8 else if sign = 'x' || sign = 'X' then 16 else 10

/-- The integer that a value is written as. A binary number loses its fraction in base ten. -/
def integerOf (base : Nat) : Value → Except Reason Int
  | .int n => .ok n
  | .bool b => .ok (if b then 1 else 0)
  | .float x =>
    if base ≠ 10 then .error .wrongType
    else match x with
      | .nan => .error (.templateInvalid .noInteger)
      | .infinite _ => .error .overflow
      | .finite negative m e =>
        let (num, den) := Places.ratio m e
        .ok (if negative then -((num / den : Nat) : Int) else (num / den : Nat))
  | _ => .error .wrongType

/-- An integer in its place. -/
def integerText (p : Place) (sign : Char) (v : Value) : Except Reason (List Char) := do
  let base := baseOf sign
  let n ← integerOf base v
  if base = 10 && textBound ≤ n.natAbs then throw .integerTextTooLong
  let digits := Nat.toDigits base n.natAbs
  let digits := if sign = 'X' then digits.map Char.toUpper else digits
  let digits := List.replicate (p.precision.getD 0 - digits.length) '0' ++ digits
  let mark := if p.alternate then baseMark sign else []
  return numberField p (signText p (n < 0) ++ mark) digits

def floatOf : Value → Except Reason Binary64
  | .float x => .ok x
  | .bool b => .ok (Binary64.ofInt (if b then 1 else 0))
  | .int n =>
    match Binary64.ofInt n with
    | .infinite _ => .error .overflow
    | x => .ok x
  | _ => .error .wrongType

/-- A binary number in its place. -/
def floatText (p : Place) (sign : Char) (v : Value) : Except Reason (List Char) := do
  let places := p.precision.getD 6
  let (negative, body) := match ← floatOf v with
    | .nan => (false, ['n', 'a', 'n'])
    | .infinite negative => (negative, ['i', 'n', 'f'])
    | .finite negative m e =>
      let (num, den) := Places.ratio m e
      (negative, match sign.toLower with
        | 'f' => Places.fixedText p.alternate places num den
        | 'e' => Places.scientificText p.alternate places num den
        | _ => Places.generalText p.alternate places num den)
  let body := if sign.isUpper then body.map Char.toUpper else body
  return numberField p (signText p negative) body

def charText (p : Place) : Value → Except Reason (List Char)
  | .text s => match s.toList with
    | [c] => .ok (textField p [c])
    | _ => .error .wrongType
  | .int n =>
    if 0 ≤ n && n.toNat.isValidChar then .ok (textField p [Char.ofNat n.toNat])
    else .error .overflow
  | _ => .error .wrongType

def asciiText (cs : List Char) : List Char :=
  cs.flatMap fun c => if c.toNat < 0x80 then [c] else Text.codeEscape c.toNat

/-- A value as text in its place, cut after some characters if the place says so. -/
def valueText (p : Place) (sign : Char) (v : Value) : Except Reason (List Char) :=
  if !v.isBelow textBound then .error .integerTextTooLong
  else
    let cs := match sign with
      | 's' => v.plain.toList
      | 'r' => v.literal.toList
      | _ => asciiText v.literal.toList
    .ok (textField p (match p.precision with
      | some n => cs.take n
      | none => cs))

/-- The argument of a kind in its place; the index says where the sign of the kind stands. -/
def argumentText (p : Place) (sign : Char) (index : Nat) (v : Value) : Except Reason (List Char) :=
  if ['s', 'r', 'a'].contains sign then valueText p sign v
  else if ['d', 'i', 'u', 'o', 'x', 'X'].contains sign then integerText p sign v
  else if ['e', 'E', 'f', 'F', 'g', 'G'].contains sign then floatText p sign v
  else if sign = 'c' then charText p v
  else .error (.templateInvalid (.unknownSign sign index))

/-- The name between brackets and what follows; brackets inside it are balanced. -/
def takeName? : Nat → List Char → Option (List Char × List Char)
  | _, [] => none
  | depth, c :: cs =>
    if c = ')' && depth = 0 then some ([], cs)
    else
      let depth := if c = '(' then depth + 1 else if c = ')' then depth - 1 else depth
      (takeName? depth cs).map fun (name, rest) => (c :: name, rest)

def Supply.choose (s : Supply) (name : String) : Except Reason Supply :=
  match s.named with
  | none => .error .wrongType
  | some entries =>
    match Value.lookup? entries (.text name) with
    | some v => .ok { s with left := [v] }
    | none => .error (.given .missingKey [.text name])

/-- A width or a precision and what follows: digits, or an argument that a star stands for. -/
def takeCount (s : Supply) (cs : List Char) : Except Reason (Int × Supply × List Char) :=
  match cs with
  | '*' :: rest => do
    match ← s.next with
    | (.int n, s) => return (n, s, rest)
    | (.bool b, s) => return (if b then 1 else 0, s, rest)
    | _ => throw .wrongType
  | cs =>
    let (digits, rest) := cs.span Char.isDigit
    .ok (Text.digitsValue digits, s, rest)

def takePrecision (s : Supply) (cs : List Char) :
    Except Reason (Option Nat × Supply × List Char) :=
  match cs with
  | '.' :: rest => do
    let (n, s, rest) ← takeCount s rest
    return (some n.toNat, s, rest)
  | cs => .ok (none, s, cs)

/-- The text of the place after a percent sign, the arguments after it, and what follows. The length
is that of the whole template. -/
def placeText (length : Nat) (s : Supply) (cs : List Char) :
    Except Reason (List Char × Supply × List Char) := do
  let (s, cs) ← match cs with
    | '(' :: cs =>
      match takeName? 0 cs with
      | some (name, rest) =>
        if s.named.isNone then throw .wrongType
        pure (← s.choose (String.ofList name), rest)
      | none => if s.named.isNone then throw .wrongType else throw (.templateInvalid .incompleteKey)
    | cs => pure (s, cs)
  let (flags, cs) := cs.span ['-', '+', ' ', '#', '0'].contains
  let (width, s, cs) ← takeCount s cs
  let (precision, s, cs) ← takePrecision s cs
  let cs := match cs with
    | c :: rest => if ['h', 'l', 'L'].contains c then rest else cs
    | [] => []
  let p : Place :=
    { left := flags.contains '-' || width < 0, plus := flags.contains '+'
      blank := flags.contains ' ', alternate := flags.contains '#', zeros := flags.contains '0'
      width := width.natAbs, precision }
  match cs with
  | [] => throw (.templateInvalid .incomplete)
  | '%' :: rest => return (['%'], s, rest)
  | sign :: rest =>
    let (v, s) ← s.next
    return (← argumentText p sign (length - cs.length) v, s, rest)

/-- The text of what is left of a template. All arguments have to be used, unless they have
names. -/
def fillFrom (length : Nat) : Nat → Supply → List Char → Except Reason (List Char)
  | 0, _, cs => .ok cs
  | fuel + 1, s, cs =>
    match cs with
    | [] => if s.left.isEmpty || s.named.isSome then .ok [] else .error .wrongType
    | '%' :: rest => do
      let (text, s, rest) ← placeText length s rest
      return text ++ (← fillFrom length fuel s rest)
    | c :: rest => do return c :: (← fillFrom length fuel s rest)

/-- The text of a template with its arguments. Without arguments it is a plain text. -/
def fill (template : String) (args : List Value) : Except Reason String := do
  if args.isEmpty then return template
  let cs := template.toList
  return String.ofList (← fillFrom cs.length (cs.length + 1) (Supply.ofArguments args) cs)

end ClusterSubmission.Template
