import ClusterSubmission.Url.Basic
import ClusterSubmission.Text.Unicode
import ClusterSubmission.Text.Character

/-!
# Addresses ready to be sent

Before an address is sent it is brought into a normal form: scheme and host in small letters, no
points in the path, and every character that has no place in its part percent-encoded. Parameters
are appended to the query.
-/
namespace ClusterSubmission.Url

def percentByte (b : UInt8) : List Char :=
  '%' :: (Text.hexText 2 b.toNat).map Char.toUpper

def isUnreserved (c : Char) : Bool :=
  c.isAlphanum || c = '.' || c = '_' || c = '~' || c = '-'

def isOneOf (chars : String) (c : Char) : Bool := chars.toList.contains c

/-- The characters that stand for themselves beside user names, in paths and in queries. -/
def isUserChar (c : Char) : Bool := isUnreserved c || isOneOf "!$&\x27()*+,;=:" c

def isPathChar (c : Char) : Bool := isUserChar c || c = '@' || c = '/'

/-- The characters that stand for themselves in queries and fragments. -/
def isQueryChar (c : Char) : Bool := isPathChar c || c = '?'

def isEscape : List Char → Bool
  | '%' :: a :: b :: _ => isHexDigit a && isHexDigit b
  | _ => false

def capitalEscapes : List Char → List Char
  | '%' :: a :: b :: rest =>
    if isHexDigit a && isHexDigit b then '%' :: a.toUpper :: b.toUpper :: capitalEscapes rest
    else '%' :: capitalEscapes (a :: b :: rest)
  | c :: rest => c :: capitalEscapes rest
  | [] => []

def allEscapes : List Char → Bool
  | [] => true
  | c :: rest => (c != '%' || isEscape (c :: rest)) && allEscapes rest

def escapeChar (c : Char) : List Char := (String.utf8EncodeChar c).flatMap percentByte

/-- A text whose characters outside a class are escaped. Percent signs stay if all of them begin an
escape. -/
def encodeInvalid (allowed : Char → Bool) (cs : List Char) : List Char :=
  let cs := capitalEscapes cs
  let keep := allEscapes cs
  cs.flatMap fun c => if (c = '%' && keep) || allowed c then [c] else escapeChar c

def removeDots (path : List Char) : List Char :=
  let segments := Text.splitOnChar '/' path
  let kept := walk [] segments
  let kept := if path.head? == some '/' && kept.head? != some [] then [] :: kept else kept
  let last := segments.getLast?.getD []
  let kept := if 1 < segments.length && (last == ['.'] || last == ['.', '.']) then kept ++ [[]]
    else kept
  ['/'].intercalate kept

/-- A port, none if it is not given; not a port at all if it is too large. -/
def port? (digits : List Char) : Option (Option Nat) :=
  let significant := digits.dropWhile (· = '0')
  if digits.isEmpty then some none
  else if digits.all Char.isDigit && significant.length ≤ 5
      && Text.digitsValue significant ≤ 65535 then some (some (Text.digitsValue significant))
  else none

/-- The name or numeric address of a host, and what follows it. -/
def takeHost? (cs : List Char) : Option (List Char × List Char) :=
  match cs with
  | '[' :: rest =>
    match cut? ']' rest with
    | some (inside, after) =>
      if isIPv6 inside then some ('[' :: inside ++ [']'], after) else none
    | none => none
  | cs =>
    let (name, rest) := cs.span fun c => c != ':' && c != '[' && c != ']'
    if allEscapes name then some (name, rest) else none

def shrinkDelta : Nat → Nat → Nat → Nat
  | 0, d, k => k + 36 * d / (d + 38)
  | fuel + 1, d, k =>
    if 455 < d then shrinkDelta fuel (d / 35) (k + 36) else k + 36 * d / (d + 38)

def adaptBias (delta count : Nat) (first : Bool) : Nat :=
  let d := if first then delta / 700 else delta / 2
  shrinkDelta 64 (d + d / count) 0

def deltaDigit (n : Nat) : Char := if n < 26 then Char.ofNat (97 + n) else Char.ofNat (22 + n)

def deltaDigits : Nat → Nat → Nat → Nat → List Char
  | 0, _, _, q => [deltaDigit q]
  | fuel + 1, bias, k, q =>
    let t := if k ≤ bias then 1 else if bias + 26 ≤ k then 26 else k - bias
    if q < t then [deltaDigit q]
    else deltaDigit (t + (q - t) % (36 - t)) :: deltaDigits fuel bias (k + 36) ((q - t) / (36 - t))

/-- The state of the delta coding. -/
structure DeltaState where
  out : List Char
  delta : Nat
  bias : Nat
  handled : Nat

def deltaPass (basic n : Nat) (s : DeltaState) (c : Char) : DeltaState :=
  if c.toNat < n then { s with delta := s.delta + 1 }
  else if c.toNat = n then
    { out := s.out ++ deltaDigits 64 s.bias 36 s.delta, delta := 0
      bias := adaptBias s.delta (s.handled + 1) (s.handled == basic), handled := s.handled + 1 }
  else s

def deltaPasses (label : List Char) (basic : Nat) : List Nat → Nat → DeltaState → DeltaState
  | [], _, s => s
  | n :: rest, previous, s =>
    let s := { s with delta := s.delta + (n - previous) * (s.handled + 1) }
    let s := label.foldl (deltaPass basic n) s
    deltaPasses label basic rest (n + 1) { s with delta := s.delta + 1 }

def asciiLabel (label : List Char) : List Char :=
  let label := (Text.lower (String.ofList label)).toList
  if label.all (·.toNat < 0x80) then label
  else
    let basic := label.filter (·.toNat < 0x80)
    let others := ((label.filter (0x80 ≤ ·.toNat)).map Char.toNat).mergeSort.eraseDups
    let out := if basic.isEmpty then [] else basic ++ ['-']
    "xn--".toList ++ (deltaPasses label basic.length others 128 ⟨out, 0, 72, basic.length⟩).out

def normalHost (cs : List Char) : List Char :=
  match cs with
  | '[' :: _ => cs.map Char.toLower
  | cs => ['.'].intercalate ((Text.splitOnChar '.' cs).map asciiLabel)

/-- An address in parts, each normalised. -/
structure Address where
  scheme : List Char
  user : List Char
  host : List Char
  port : Option Nat
  path : List Char
  query : Option (List Char)
  fragment : Option (List Char)

/-- Takes an address of the web apart. -/
def address? (text : List Char) : Option Address :=
  let (scheme, rest) := match cut? ':' text with
    | some (s, rest) =>
      if s != [] && (s.head?.getD ' ').isAlpha && s.all (fun c => isSchemeChar c && c != '.') then
        (s.map Char.toLower, rest)
      else ([], '/' :: '/' :: text)
    | none => ([], if text.head? == some '/' then text else '/' :: '/' :: text)
  let (authority, rest) := match rest with
    | '/' :: '/' :: rest => rest.span fun c => c != '/' && c != '?' && c != '#' && c != '\\'
    | rest => ([], rest)
  let (rest, fragment) := match cut? '#' rest with
    | some (rest, f) => (rest, some f)
    | none => (rest, none)
  let (path, query) := match cut? '?' rest with
    | some (path, q) => (path, some q)
    | none => (rest, none)
  let hostPart := (authority.reverse.takeWhile (· != '@')).reverse
  let user := authority.take (authority.length - hostPart.length - 1)
  match takeHost? hostPart with
  | none => none
  | some (host, rest) =>
    let port := match rest with
      | [] => some none
      | ':' :: digits => port? digits
      | _ => none
    match port with
    | none => none
    | some port =>
      let path := encodeInvalid isPathChar (removeDots path)
      let path := if path != [] && path.head? != some '/' then '/' :: path else path
      some ⟨scheme, encodeInvalid isUserChar user, normalHost host, port, path,
        query.map (encodeInvalid isQueryChar), fragment.map (encodeInvalid isQueryChar)⟩

def unreservedEscape? : List Char → Option Char
  | a :: b :: _ =>
    let c := Char.ofNat (Text.hexValue a * 16 + Text.hexValue b)
    if isHexDigit a && isHexDigit b && isUnreserved c then some c else none
  | _ => none

def dropNeedless : List Char → List Char
  | '%' :: a :: b :: rest =>
    match unreservedEscape? [a, b] with
    | some c => c :: dropNeedless rest
    | none => '%' :: dropNeedless (a :: b :: rest)
  | c :: rest => c :: dropNeedless rest
  | [] => []

def hasBrokenEscape : List Char → Bool
  | '%' :: a :: b :: rest =>
    (a.isAlphanum && b.isAlphanum && !(isHexDigit a && isHexDigit b))
      || hasBrokenEscape (a :: b :: rest)
  | _ :: rest => hasBrokenEscape rest
  | [] => false

def requote (cs : List Char) : List Char :=
  let safe := fun (c : Char) => isUnreserved c || isOneOf "!#$&\x27()*+,/:;=?@[]~" c
  if hasBrokenEscape cs then cs.flatMap fun c => if safe c then [c] else escapeChar c
  else (dropNeedless cs).flatMap fun c => if safe c || c = '%' then [c] else escapeChar c

def formText (s : String) : List Char :=
  s.toList.flatMap fun c =>
    if c = ' ' then ['+']
    else if isUnreserved c then [c] else escapeChar c

def formQuery (parameters : List (String × String)) : List Char :=
  ['&'].intercalate (parameters.map fun p => formText p.1 ++ '=' :: formText p.2)

/-- The normal form of an address with parameters. -/
def prepare (text : String) (parameters : List (String × String)) : Except Reason String :=
  let cs := text.toList.dropWhile Text.isBlank
  let shown := Text.quoted (String.ofList cs)
  if cs.contains ':' && !"http".toList.isPrefixOf (Text.lower (String.ofList cs)).toList then
    .ok (String.ofList cs)
  else match address? cs with
    | none => .error (.addressInvalid (String.ofList cs))
    | some a =>
      if a.scheme.isEmpty then
        .error (.schemeMissing ("Invalid URL " ++ shown
          ++ ": No scheme supplied. Perhaps you meant https://" ++ String.ofList cs ++ "?"))
      else if a.host.isEmpty then
        .error (.addressInvalid ("Invalid URL " ++ shown ++ ": No host supplied"))
      else if a.host.head? == some '*' || a.host.head? == some '.' then
        .error (.addressInvalid "URL has an invalid label.")
      else
        let user := if a.user.isEmpty then [] else a.user ++ ['@']
        let port := match a.port with
          | some n => if n = 0 then [] else ':' :: (Text.natText n).toList
          | none => []
        let path := if a.path.isEmpty then ['/'] else a.path
        let form := formQuery parameters
        let query := a.query.getD []
        let query := if form.isEmpty then query
          else if query.isEmpty then form else query ++ '&' :: form
        let url : Url := ⟨a.scheme, user ++ a.host ++ port, path, [], query, a.fragment.getD []⟩
        .ok (String.ofList (requote url.unsplit))

end ClusterSubmission.Url
