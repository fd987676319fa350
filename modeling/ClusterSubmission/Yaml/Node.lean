import ClusterSubmission.Yaml.Token

/-!
# The nodes of a YAML document

Tokens make a tree of scalars, sequences and mappings. A node can have a tag and a name, and an
alias stands for the node with its name. Inside a collection the name of the collection itself
stands for an empty one of its kind, so that every tree is finite.
-/
namespace ClusterSubmission.Yaml

/-- A node; its tag is there if the document gives it one. -/
inductive Node where
  | scalar (tag : Option String) (isPlain : Bool) (text : String)
  | sequence (tag : Option String) (items : List Node)
  | mapping (tag : Option String) (entries : List (Node × Node))
  deriving Inhabited

def Node.empty : Node := .scalar none true ""

/-- What is left of a document: its tokens, the named nodes so far, and what the handles of tags
stand for. -/
structure Draft where
  tokens : List Token
  anchors : List (List Char × Node) := []
  handles : List (List Char × List Char) := []

abbrev Compose := StateT Draft Option

namespace Compose

def peek : Compose (Option Token) := do return (← get).tokens.head?

def skip : Compose Unit := modify fun d => { d with tokens := d.tokens.drop 1 }

def refuse {α : Type} : Compose α := fun _ => none

def skipIf (t : Token) : Compose Bool := do
  if (← peek) == some t then
    skip
    return true
  else return false

def nextIn (ts : List Token) : Compose Bool := do
  return (← peek).all ts.contains

def anchor? : Compose (Option (List Char)) := do
  match ← peek with
  | some (.anchor name) =>
    skip
    return some name
  | _ => return none

/-- The tag at the place, with what its handle stands for. -/
def tag? : Compose (Option String) := do
  match ← peek with
  | some (.tag [] text) =>
    skip
    return some (String.ofList text)
  | some (.tag handle text) =>
    skip
    match (← get).handles.find? (·.1 == handle) with
    | some (_, start) => return some (String.ofList (start ++ text))
    | none => refuse
  | _ => return none

def properties : Compose (Option (List Char) × Option String) := do
  match ← anchor? with
  | some name => return (some name, ← tag?)
  | none =>
    let tag ← tag?
    match tag with
    | some _ => return (← anchor?, tag)
    | none => return (none, none)

/-- Gives a node a name, in place of what the name stood for while the node was read. -/
def name (anchor : Option (List Char)) (node : Node) : Compose Node := do
  match anchor with
  | some a => modify fun d => { d with anchors := (a, node) :: d.anchors }
  | none => pure ()
  return node

def claim (anchor : Option (List Char)) : Compose Unit := do
  let taken := (← get).anchors
  if anchor.any fun a => taken.any (·.1 == a) then refuse

/-- A node that has nothing but its properties, at least one of them. The tag that stands for none
makes it an empty text. -/
def bare (anchor : Option (List Char)) (tag : Option String) : Compose Node :=
  match tag with
  | some "!" => name anchor (.scalar none false "")
  | some t => name anchor (.scalar (some t) true "")
  | none => if anchor.isSome then name anchor .empty else refuse

mutual
/-- A node. Blocks are not allowed inside brackets, and a sequence without indentation only as a
value of a block mapping. -/
def node (inBlock unindented : Bool) : Nat → Compose Node
  | 0 => refuse
  | fuel + 1 => do
    match ← peek with
    | some (.alias a) =>
      skip
      match (← get).anchors.find? (·.1 == a) with
      | some (_, n) => return n
      | none => refuse
    | _ =>
      let (anchor, tag) ← properties
      claim anchor
      let sequence := fun (items : Compose (List Node)) => do
        let _ ← name anchor (.sequence tag [])
        name anchor (.sequence tag (← items))
      let mapping := fun (entries : Compose (List (Node × Node))) => do
        let _ ← name anchor (.mapping tag [])
        name anchor (.mapping tag (← entries))
      match ← peek with
      | some (.scalar isPlain text) =>
        skip
        name anchor (.scalar tag isPlain (String.ofList text))
      | some .openSequence => sequence (do skip; flowItems true fuel)
      | some .openMapping => mapping (do skip; flowEntries true fuel)
      | some .item => if unindented then sequence (unindentedItems fuel) else bare anchor tag
      | some .blockSequence =>
        if inBlock then sequence (do skip; blockItems fuel) else bare anchor tag
      | some .blockMapping =>
        if inBlock then mapping (do skip; blockEntries fuel) else bare anchor tag
      | _ => bare anchor tag

def nodeUnless (inBlock unindented : Bool) (ts : List Token) : Nat → Compose Node
  | 0 => refuse
  | fuel + 1 => do
    if ← nextIn ts then
      return .empty
    else node inBlock unindented fuel

def blockItems : Nat → Compose (List Node)
  | 0 => refuse
  | fuel + 1 => do
    if ← skipIf .item then
      let n ← nodeUnless true false [.item, .blockEnd] fuel
      return n :: (← blockItems fuel)
    else if ← skipIf .blockEnd then return []
    else refuse

/-- The members of a sequence that is indented like the mapping around it. -/
def unindentedItems : Nat → Compose (List Node)
  | 0 => refuse
  | fuel + 1 => do
    if ← skipIf .item then
      let n ← nodeUnless true false [.item, .key, .value, .blockEnd] fuel
      return n :: (← unindentedItems fuel)
    else return []

/-- The entries of a block mapping, and its end. -/
def blockEntries : Nat → Compose (List (Node × Node))
  | 0 => refuse
  | fuel + 1 => do
    if ← skipIf .key then
      let k ← nodeUnless true true [.key, .value, .blockEnd] fuel
      let v ← if ← skipIf .value then nodeUnless true true [.key, .value, .blockEnd] fuel
        else pure .empty
      return (k, v) :: (← blockEntries fuel)
    else if ← skipIf .blockEnd then return []
    else refuse

/-- The value of an entry inside brackets, empty if there is no colon. -/
def flowValue (ends : Token) : Nat → Compose Node
  | 0 => refuse
  | fuel + 1 => do
    if ← skipIf .value then nodeUnless false false [.comma, ends] fuel
    else return .empty

/-- The members of a flow sequence, and its end. A single pair is a mapping of its own. -/
def flowItems (first : Bool) : Nat → Compose (List Node)
  | 0 => refuse
  | fuel + 1 => do
    if ← skipIf .closeSequence then return []
    else
      let separated ← if first then pure true else skipIf .comma
      if !separated then refuse
      else if ← skipIf .closeSequence then return []
      else if ← skipIf .key then
        let k ← if ← nextIn [.value, .comma, .closeSequence] then do
            skip
            pure .empty
          else node false false fuel
        let v ← flowValue .closeSequence fuel
        return .mapping none [(k, v)] :: (← flowItems false fuel)
      else
        let n ← node false false fuel
        return n :: (← flowItems false fuel)

/-- The entries of a flow mapping, and its end. A key alone has the empty value. -/
def flowEntries (first : Bool) : Nat → Compose (List (Node × Node))
  | 0 => refuse
  | fuel + 1 => do
    if ← skipIf .closeMapping then return []
    else
      let separated ← if first then pure true else skipIf .comma
      if !separated then refuse
      else if ← skipIf .closeMapping then return []
      else if ← skipIf .key then
        let k ← nodeUnless false false [.value, .comma, .closeMapping] fuel
        let v ← flowValue .closeMapping fuel
        return (k, v) :: (← flowEntries false fuel)
      else
        let k ← node false false fuel
        return (k, .empty) :: (← flowEntries false fuel)
end

/-- The lines before a document that say how it is to be read: the handles, and whether there is any
such line. Only the first two versions of the format are known. -/
def directives (versioned : Bool) :
    List Token → List (List Char × List Char) → Option (List (List Char × List Char) × List Token)
  | .versionMark major minor :: ts, handles =>
    if versioned || major ≠ 1 || (minor ≠ 1 && minor ≠ 2) then none
    else directives true ts handles
  | .tagMark handle start :: ts, handles =>
    if handles.any (·.1 == handle) then none
    else directives versioned ts (handles ++ [(handle, start)])
  | ts, handles => some (handles, ts)

def usualHandles : List (List Char × List Char) :=
  [(['!'], ['!']), (['!', '!'], "tag:yaml.org,2002:".toList)]

/-- Whether the content of a document is missing, since something else follows at once. -/
def isBare : List Token → Bool
  | [] | .documentStart :: _ | .documentEnd :: _ | .versionMark .. :: _ | .tagMark .. :: _ => true
  | _ => false

end Compose

/-- The only document among the tokens, none if there is no document at all. Tokens that say how it
is to be read need a mark where it begins. -/
def document? (ts : List Token) : Option (Option Node) := do
  if ts.isEmpty then some none
  else
    let (handles, rest) ← Compose.directives false ts []
    let draft : Draft := { tokens := rest, handles := handles ++ Compose.usualHandles }
    let fuel := 3 * ts.length + 4
    let (node, draft) ← match rest with
      | .documentStart :: content =>
        let draft := { draft with tokens := content }
        if Compose.isBare content then some (Node.empty, draft)
        else Compose.node true false fuel draft
      | _ =>
        if rest.length < ts.length then none else Compose.node true false fuel draft
    if (draft.tokens.dropWhile (· == .documentEnd)).isEmpty then some (some node) else none

end ClusterSubmission.Yaml
