import ClusterSubmission.Site.File
import ClusterSubmission.Text.Character
import ClusterSubmission.Text.LetterCase

/-!
# The configuration of a site

The cluster's own configuration is a directory of site files. The first file that has a property
counts, and a value can refer to other properties, which are put in as often as it takes; a property
that refers back to itself is refused. From the properties follow the addresses of the resource
manager and how callers prove who they are.
-/
namespace ClusterSubmission

/-- The configuration in a directory that may be given. -/
structure SiteConfiguration where
  path : Value := .null

namespace SiteConfiguration

def usualDirectory : String := "/etc/hadoop/conf"

def firstSet (vs : List Value) (fallback : String) : Value :=
  (vs.find? Value.isSet).getD (.text fallback)

/-- The directory of the site files. A path to one of the files stands for the directory it is
in. -/
def directory (c : SiteConfiguration) : Run String := do
  let first ← Run.variableOrEmpty "HADOOP_CONF_DIR"
  let second ← Run.variableOrEmpty "YARN_CONF_DIR"
  match firstSet [c.path, .text first, .text second] usualDirectory with
  | .text s | .path s =>
    return if Site.isFileName (Text.pathName s) then Text.pathParent s else Text.normalPath s
  | _ => Run.fail .wrongType

def text (c : SiteConfiguration) : Run String := do
  return "HadoopConfig<" ++ (← c.directory) ++ ">"

def isAvailable (c : SiteConfiguration) : Run Bool := do
  let directory ← c.directory
  let files := (← get).files
  return files.isDirectory directory && !(Site.filesIn files directory).isEmpty

/-- The value of a property in the first of some site files that has it. -/
def findIn (key : Option String) : List String → Run (Option (Option String))
  | [] => return none
  | path :: paths => do
    match (← Site.readFile path).find? key with
    | some value => do
      let shown := fun (s : Option String) => s.getD "None"
      Run.debug ("Got key '" ++ shown key ++ "' with value '" ++ shown value ++ "' from '" ++ path
        ++ "'")
      return some value
    | none => findIn key paths

/-- A piece of a value: text, or a reference to a property. -/
inductive Piece where
  | text (c : Char)
  | reference (key : String)
  deriving DecidableEq, Repr

/-- The name inside a reference whose opening has been read, and the text after it. A reference
stands on one line. -/
def takeReference? : List Char → Option (List Char × List Char)
  | [] => none
  | c :: cs =>
    if c = '\x7d' then some ([], cs)
    else if c = '\n' then none
    else (takeReference? cs).map fun (name, rest) => (c :: name, rest)

theorem takeReference?_length {cs name rest : List Char}
    (h : takeReference? cs = some (name, rest)) : rest.length < cs.length := by
  induction cs generalizing name with
  | nil => simp [takeReference?] at h
  | cons c cs ih =>
    simp only [takeReference?] at h
    split at h
    · simp only [Option.some.injEq, Prod.mk.injEq] at h
      simp [← h.2]
    · split at h
      · simp at h
      · obtain ⟨⟨inner, tail⟩, hr, he⟩ := Option.map_eq_some_iff.1 h
        simp only [Prod.mk.injEq] at he
        have := ih (he.2 ▸ hr)
        simp only [List.length_cons]
        omega

def reference? : List Char → Option (List Char × List Char)
  | '$' :: '\x7b' :: cs => takeReference? cs
  | _ => none

theorem reference?_length {cs name rest : List Char} (h : reference? cs = some (name, rest)) :
    rest.length < cs.length := by
  unfold reference? at h
  split at h
  · have := takeReference?_length h
    simp only [List.length_cons]
    omega
  · simp at h

/-- The pieces of a value. -/
def pieces (cs : List Char) : List Piece :=
  match _h : reference? cs with
  | some (name, rest) => .reference (String.ofList name) :: pieces rest
  | none =>
    match cs with
    | [] => []
    | c :: cs => .text c :: pieces cs
termination_by cs.length
decreasing_by
  · exact reference?_length (by assumption)
  · simp

def fill (value : String → Run (Option String)) : List Piece → Run (List Char)
  | [] => return []
  | .text c :: ps => do return c :: (← fill value ps)
  | .reference key :: ps => do
    let s ← value key
    return (s.getD "").toList ++ (← fill value ps)

/-- The value of a property, or a default, with all references put in. The first argument bounds
how many properties refer to each other in a row; those on the way are `resolving`. -/
def resolve (c : SiteConfiguration) : Nat → List String → String → Option String →
    Run (Option String)
  | 0, _, key, _ => Run.fail (.interpolationCycle key)
  | fuel + 1, resolving, key, default => do
    if resolving.contains key then Run.fail (.interpolationCycle key)
    let directory ← c.directory
    if !(← c.isAvailable) then Run.fail (.siteFilesMissing directory)
    let found ← findIn (some key) (Site.filesIn (← get).files directory)
    match found.getD default with
    | none => return none
    | some s => do
      let inside := fun name => c.resolve fuel (key :: resolving) name none
      return some (String.ofList (← fill inside (pieces s.toList)))

/-- More than the number of different properties that can be found, in the site files as they are or
as they were kept. -/
def chainLimit (w : World) (directory : String) : Nat :=
  let sizes := (Site.filesIn w.files directory).map fun path =>
    ((Site.propertiesAt? w.files path).getD []).length
  let kept := w.siteCache.map fun e => e.properties.length
  sizes.foldl (· + ·) 0 + kept.foldl (· + ·) 0 + 2

def get? (c : SiteConfiguration) (key : String) (default : Option String := none) :
    Run (Option String) := do
  let directory ← c.directory
  c.resolve (chainLimit (← get) directory) [] key default

/-- The text of a value with all references put in, where some properties may not occur. -/
def filled (c : SiteConfiguration) (resolving : List String) (s : String) : Run Value := do
  let limit := chainLimit (← get) (← c.directory)
  return .text (String.ofList
    (← fill (fun name => c.resolve limit resolving name none) (pieces s.toList)))

/-- A default of any kind: text has its references put in, and a collection with the opening of a
reference among its members is refused, as is any other value that is set. -/
def filledDefault (c : SiteConfiguration) (resolving : List String) : Value → Run Value
  | .text s => c.filled resolving s
  | .bytes bs => if bs.isEmpty then return .bytes bs else Run.fail .wrongType
  | v =>
    if !v.isSet then return v
    else match v.members? with
      | some ms => if ms.contains (.text "$\x7b") then Run.fail .wrongType else return v
      | none => Run.fail .wrongType

/-- The value of a property by a key of any kind, or else a default. -/
def getValue (c : SiteConfiguration) (key default : Value) : Run Value := do
  if !key.isKey then Run.fail .wrongType
  let directory ← c.directory
  if !(← c.isAvailable) then Run.fail (.siteFilesMissing directory)
  let paths := Site.filesIn (← get).files directory
  let (found, resolving) ← match key with
    | .text s => do pure (← findIn (some s) paths, [s])
    | .null => do pure (← findIn none paths, [])
    | _ => do
      let _ ← paths.mapM Site.readFile
      pure (none, [])
  match found with
  | some none => return .null
  | some (some s) => c.filled resolving s
  | none => c.filledDefault resolving default

def isHighlyAvailable (c : SiteConfiguration) : Run Bool := do
  let v ← c.get? "yarn.resourcemanager.ha.enabled"
  return v == some "true" || v == some "1"

def resourceManagerIds (c : SiteConfiguration) : Run (Option (List String)) := do
  match ← c.get? "yarn.resourcemanager.ha.rm-ids" with
  | none | some "" => return none
  | some s =>
    return some ((Text.splitOnChar ',' s.toList).map fun p => Text.strip (String.ofList p))

def isSecureOnly (c : SiteConfiguration) : Run Bool := do
  return (← c.get? "yarn.http.policy") == some "HTTPS_ONLY"

def addressesAt (c : SiteConfiguration) (scheme : String) : List String → Run (List String)
  | [] => return []
  | key :: keys => do
    let rest := fun (s : Option String) => match s with
      | none | some "" => []
      | some s => [scheme ++ "://" ++ s]
    let first ← c.get? key
    return rest first ++ (← c.addressesAt scheme keys)

/-- The property with the address of the resource manager, the scheme of the address, and the port
that is used if only the host is known. -/
def addressRule (secure : Bool) : String × String × String :=
  if secure then ("yarn.resourcemanager.webapp.https.address", "https", "8090")
  else ("yarn.resourcemanager.webapp.address", "http", "8088")

/-- The names of the resource managers, if there is more than one. They are asked for once more when
they are there. -/
def standbyIds (c : SiteConfiguration) : Run (Option (List String)) := do
  if !(← c.isHighlyAvailable) then return none
  match ← c.resourceManagerIds with
  | none => return none
  | some _ =>
    match ← c.resourceManagerIds with
    | some ids => return some ids
    | none => Run.fail .wrongType

/-- The address by a property, which is asked for once more when it is there. -/
def addressBy (c : SiteConfiguration) (scheme key : String) : Run (Option String) := do
  match ← c.get? key with
  | none | some "" => return none
  | some _ => return some (scheme ++ "://" ++ (← c.get? key).getD "None")

/-- The address by the name of the host, with the port that is usual. -/
def addressByHost (c : SiteConfiguration) (scheme : String) : Run (Option String) := do
  match ← c.get? "yarn.resourcemanager.hostname" with
  | none | some "" => return none
  | some _ =>
    let secure ← c.isSecureOnly
    let host ← c.get? "yarn.resourcemanager.hostname"
    return some (scheme ++ "://" ++ host.getD "None" ++ ":" ++ (addressRule secure).2.2)

/-- The addresses of the resource managers, none if there are none. -/
def addresses (c : SiteConfiguration) : Run (Option (List String)) := do
  let (key, scheme, _) := addressRule (← c.isSecureOnly)
  match ← c.standbyIds with
  | some ids =>
    match ← c.addressesAt scheme (ids.map fun id => key ++ "." ++ id) with
    | [] => return none
    | found => return some found
  | none =>
    match ← c.addressBy scheme key with
    | some address => return some [address]
    | none => return (← c.addressByHost scheme).map fun address => [address]

/-- Whether callers prove who they are by Kerberos: the environment says so, or else the site
files. -/
def usesKerberos (c : SiteConfiguration) : Run Bool := do
  let word := Text.lower (← Run.variableOrEmpty "HADOOP_AUTH")
  if word == "kerberos" || word == "simple" then return word == "kerberos"
  if !(← c.isAvailable) then return false
  match ← c.get? "hadoop.security.authentication" with
  | none | some "" => return false
  | some s => return Text.lower s == "kerberos"

end SiteConfiguration
end ClusterSubmission
