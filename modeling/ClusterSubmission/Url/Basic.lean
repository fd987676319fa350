import ClusterSubmission.Failure
import ClusterSubmission.Text.LetterCase
import ClusterSubmission.Text.Path

/-!
# Addresses

The parts of a URL, how it is taken apart and put together, and how a reference is resolved against
a base. An address cannot be taken apart if the brackets around its host are at fault or its host
holds a character that stands for one of the separators.
-/
namespace ClusterSubmission

/-- The parts of a URL. -/
structure Url where
  scheme : List Char
  host : List Char
  path : List Char
  parameters : List Char
  query : List Char
  fragment : List Char
  deriving DecidableEq

namespace Url

def relativeSchemes : List String :=
  ["", "ftp", "http", "gopher", "nntp", "imap", "wais", "file", "https", "shttp", "mms", "prospero",
    "rtsp", "rtsps", "rtspu", "sftp", "svn", "svn+ssh", "ws", "wss"]

def hostSchemes : List String :=
  ["", "ftp", "http", "gopher", "nntp", "telnet", "imap", "wais", "file", "mms", "https", "shttp",
    "snews", "prospero", "rtsp", "rtsps", "rtspu", "rsync", "svn", "svn+ssh", "sftp", "nfs", "git",
    "git+ssh", "ws", "wss", "itms-services"]

def parameterSchemes : List String :=
  ["", "ftp", "hdl", "prospero", "http", "https", "shttp", "rtsp", "rtsps", "rtspu", "sip", "sips",
    "mms", "sftp", "tel"]

def isIn (scheme : List Char) (schemes : List String) : Bool :=
  schemes.contains (String.ofList scheme)

def isSchemeChar (c : Char) : Bool :=
  c.isAlphanum || c = '+' || c = '-' || c = '.'

/-- The text before the first occurrence of a character and the text after it. -/
def cut? (sep : Char) (cs : List Char) : Option (List Char × List Char) :=
  match cs.span (· != sep) with
  | (before, _ :: after) => some (before, after)
  | (_, []) => none

/-- The scheme that a text begins with, in small letters, and what follows its colon. -/
def takeScheme? (cs : List Char) : Option (List Char × List Char) :=
  match cs, cut? ':' cs with
  | c :: _, some (scheme, rest) =>
    if scheme != [] && c.isAlpha && scheme.all isSchemeChar then
      some (scheme.map Char.toLower, rest)
    else none
  | _, _ => none

def isOctet (cs : List Char) : Bool :=
  cs != [] && cs.length ≤ 3 && cs.all Char.isDigit && (cs.length = 1 || cs.head? != some '0')
    && Text.digitsValue cs ≤ 255

def isIPv4 (cs : List Char) : Bool :=
  let parts := Text.splitOnChar '.' cs
  parts.length = 4 && parts.all isOctet

def isHexDigit (c : Char) : Bool :=
  c.isDigit || ('a' ≤ c && c ≤ 'f') || ('A' ≤ c && c ≤ 'F')

def isHexGroup (cs : List Char) : Bool :=
  cs != [] && cs.length ≤ 4 && cs.all isHexDigit

/-- Whether the groups of a numeric address form one: eight groups, or fewer with one gap between
them. -/
def areIPv6Groups (parts : List (List Char)) : Bool :=
  let inner := (parts.drop 1).dropLast
  let gaps := (inner.filter (·.isEmpty)).length
  if parts.length < 3 || 9 < parts.length || 1 < gaps then false
  else if gaps = 0 then parts.length = 8 && parts.all isHexGroup
  else
    let high := (parts.drop 1).span (!·.isEmpty) |>.1
    let low := (parts.drop (high.length + 2))
    let first := parts.head?.getD []
    let last := parts.getLast?.getD []
    let highGroups := if first.isEmpty then high else first :: high
    let lowGroups := if last.isEmpty then low.dropLast else low
    (!first.isEmpty || high.isEmpty) && (!last.isEmpty || lowGroups.isEmpty)
      && highGroups.length + lowGroups.length < 8
      && highGroups.all isHexGroup && lowGroups.all isHexGroup

/-- Whether a text is a numeric address of groups, which may name a zone and may end in an address
of four parts. -/
def isIPv6 (cs : List Char) : Bool :=
  let (address, zone) := cs.span (· != '%')
  let parts := Text.splitOnChar ':' address
  let last := parts.getLast?.getD []
  let parts := if isIPv4 last then parts.dropLast ++ [['0'], ['0']] else parts
  (zone.isEmpty || (1 < zone.length && !(zone.drop 1).contains '%')) && areIPv6Groups parts

/-- Checks the text between the brackets of a host. -/
def checkBracketed (cs : List Char) : Except Reason Unit :=
  match cs with
  | 'v' :: rest =>
    match rest.span isHexDigit with
    | (_ :: _, '.' :: _ :: _) => .ok ()
    | _ => .error (.malformedAddress "IPvFuture address is invalid")
  | cs =>
    if isIPv4 cs then .error (.malformedAddress "An IPv4 address cannot be in brackets")
    else if isIPv6 cs then .ok ()
    else .error (.malformedAddress
      (Text.quoted (String.ofList cs) ++ " does not appear to be an IPv4 or IPv6 address"))

/-- The characters that stand for a separator when a host is normalised. -/
def separatorLookalikes : List Nat :=
  [0x2047, 0x2048, 0x2049, 0x2100, 0x2101, 0x2105, 0x2106, 0x2a74, 0xfe13, 0xfe16, 0xfe55, 0xfe56,
    0xfe5f, 0xfe6b, 0xff03, 0xff0f, 0xff1a, 0xff1f, 0xff20]

/-- Checks the host of an address. -/
def checkHost (host : List Char) : Except Reason Unit := do
  let opens := host.contains '['
  let closes := host.contains ']'
  if opens != closes then throw (.malformedAddress "Invalid IPv6 URL")
  if opens then
    checkBracketed (((host.dropWhile (· != '[')).drop 1).takeWhile (· != ']'))
  if host.any fun c => separatorLookalikes.contains c.toNat then
    throw (.malformedAddress ("netloc '" ++ String.ofList host
      ++ "' contains invalid characters under NFKC normalization"))

def splitParameters (path : List Char) : List Char × List Char :=
  let last := (path.reverse.takeWhile (· != '/')).reverse
  match cut? ';' last with
  | some (name, parameters) => (path.take (path.length - last.length) ++ name, parameters)
  | none => (path, [])

/-- Takes a text apart. A text without a scheme gets the one that is handed in. -/
def split (text : List Char) (scheme : List Char) : Except Reason Url := do
  let text := (text.dropWhile fun c => c.toNat ≤ 0x20).filter fun c =>
    c != '\t' && c != '\n' && c != '\r'
  let (scheme, rest) := (takeScheme? text).getD (scheme, text)
  let (host, rest) := match rest with
    | '/' :: '/' :: rest => rest.span fun c => c != '/' && c != '?' && c != '#'
    | rest => ([], rest)
  let (rest, fragment) := (cut? '#' rest).getD (rest, [])
  let (path, query) := (cut? '?' rest).getD (rest, [])
  checkHost host
  let (path, parameters) :=
    if isIn scheme parameterSchemes then splitParameters path else (path, [])
  return ⟨scheme, host, path, parameters, query, fragment⟩

def behind (sep : Char) (part : List Char) : List Char :=
  if part.isEmpty then [] else sep :: part

/-- Puts the parts together. -/
def unsplit (u : Url) : List Char :=
  let path := u.path ++ behind ';' u.parameters
  let body :=
    if u.host != [] || (u.scheme != [] && isIn u.scheme hostSchemes) || path.take 2 == ['/', '/']
    then
      let path := if path != [] && path.take 1 != ['/'] then '/' :: path else path
      '/' :: '/' :: u.host ++ path
    else path
  (if u.scheme.isEmpty then body else u.scheme ++ ':' :: body)
    ++ behind '?' u.query ++ behind '#' u.fragment

/-- Removes the empty members that are neither the first nor the last. -/
def dropInnerEmpty (segments : List (List Char)) : List (List Char) :=
  match segments with
  | [] => []
  | [s] => [s]
  | s :: rest => s :: (rest.dropLast.filter (!·.isEmpty)) ++ (rest.getLast?).toList

/-- Goes along segments: two points go up, a single point stays. The segments passed are kept last
one first. -/
def walk : List (List Char) → List (List Char) → List (List Char)
  | done, [] => done.reverse
  | done, s :: rest =>
    if s == ['.', '.'] then walk (done.drop 1) rest
    else if s == ['.'] then walk done rest
    else walk (s :: done) rest

/-- The path of a reference, seen from the path of its base. -/
def resolvePath (base path : List Char) : List Char :=
  let baseParts := Text.splitOnChar '/' base
  let baseParts := if baseParts.getLast? == some [] then baseParts else baseParts.dropLast
  let parts := Text.splitOnChar '/' path
  let segments := if path.head? == some '/' then parts else dropInnerEmpty (baseParts ++ parts)
  let resolved := walk [] segments
  let last := segments.getLast?.getD []
  let resolved := if last == ['.'] || last == ['.', '.'] then resolved ++ [[]] else resolved
  match ['/'].intercalate resolved with
  | [] => ['/']
  | cs => cs

/-- Resolves a reference against a base. -/
def join (base reference : List Char) : Except Reason (List Char) :=
  if base.isEmpty then .ok reference
  else if reference.isEmpty then .ok base
  else do
    let b ← split base []
    let r ← split reference b.scheme
    if r.scheme != b.scheme || !isIn r.scheme relativeSchemes then return reference
    if isIn r.scheme hostSchemes && r.host != [] then return r.unsplit
    let host := if isIn r.scheme hostSchemes then b.host else r.host
    if r.path.isEmpty && r.parameters.isEmpty then
      let query := if r.query.isEmpty then b.query else r.query
      return unsplit ⟨r.scheme, host, b.path, b.parameters, query, r.fragment⟩
    return unsplit ⟨r.scheme, host, resolvePath b.path r.path, r.parameters, r.query, r.fragment⟩

/-- The host of an address, with the user and the port that stand with it. -/
def hostOf (address : String) : Except Reason String := do
  return String.ofList (← split address.toList []).host

/-- Resolves a reference against a base, both as values: what is not set is nothing, and the other
one stands for itself. -/
def joinValues (base reference : Value) : Except Reason Value :=
  if !base.isSet then .ok reference
  else if !reference.isSet then .ok base
  else match base, reference with
    | .text b, .text r => do return .text (String.ofList (← join b.toList r.toList))
    | _, _ => .error .wrongType

end Url
end ClusterSubmission
