import ClusterSubmission.Yaml.Node
import ClusterSubmission.Yaml.Scalar

/-!
# The content of a YAML document

A document is read as a value. The entries of a merge key come before the entries of its mapping, so
that the latter win, and of entries with equal keys the last one counts, at the place of the first.
-/
namespace ClusterSubmission.Yaml

def collectionKind (usual : Kind) : Option String → Kind
  | none | some "!" => usual
  | some t => taggedKind t

def Node.isSpecial (kind : Kind) : Node → Bool
  | .scalar tag isPlain s => scalarKind tag isPlain s == kind
  | _ => false

mutual
def Node.text? : Node → Option String
  | .scalar _ _ s => some s
  | .sequence .. => none
  | .mapping _ entries => Node.defaultText? entries

def Node.defaultText? : List (Node × Node) → Option String
  | [] => none
  | (k, v) :: rest =>
    if k.isSpecial .defaultKey then v.text? else Node.defaultText? rest
end

def storeEntries (entries : List (Value × Value)) : Except Reason (List (Value × Value)) :=
  entries.foldlM
    (fun done e =>
      if e.1.isKey then .ok (Value.insert done e.1 e.2) else .error .malformedDocument) []

mutual
/-- The value of a node. -/
def Node.content : Node → Except Reason Value
  | .scalar tag isPlain s => scalarValue (scalarKind tag isPlain s) s
  | .sequence tag items =>
    match collectionKind .sequence tag with
    | .sequence => do return .list (← Node.contents items)
    | .ordered | .pairs => do return .list (← Node.pairContents items)
    | _ => .error .malformedDocument
  | .mapping tag entries =>
    match collectionKind .mapping tag with
    | .mapping => do return .mapping (← storeEntries (← Node.entryContents entries))
    | .set => do return .list ((← storeEntries (← Node.entryContents entries)).map (·.1))
    | .sequence | .ordered | .pairs => .error .malformedDocument
    | kind =>
      match Node.defaultText? entries with
      | some s => scalarValue kind s
      | none => .error .malformedDocument

def Node.contents : List Node → Except Reason (List Value)
  | [] => .ok []
  | n :: ns => do
    let v ← n.content
    return v :: (← Node.contents ns)

def Node.pairContents : List Node → Except Reason (List Value)
  | [] => .ok []
  | .mapping _ [(k, v)] :: ns => do
    let k ← k.content
    let v ← v.content
    return .tuple [k, v] :: (← Node.pairContents ns)
  | _ :: _ => .error .malformedDocument

def Node.entryContents (entries : List (Node × Node)) : Except Reason (List (Value × Value)) := do
  let (merged, own) ← Node.splitContents entries
  return merged ++ own

/-- The entries of the merge keys among some entries, and the other entries. -/
def Node.splitContents :
    List (Node × Node) → Except Reason (List (Value × Value) × List (Value × Value))
  | [] => .ok ([], [])
  | (k, v) :: rest => do
    if k.isSpecial .merge then
      let more ← v.mergeContents
      let (merged, own) ← Node.splitContents rest
      return (more ++ merged, own)
    else
      let key ← if k.isSpecial .defaultKey then pure (Value.text "=") else k.content
      let value ← v.content
      let (merged, own) ← Node.splitContents rest
      return (merged, (key, value) :: own)

/-- The entries that the value of a merge key stands for: those of a mapping, or those of several
mappings, the last one first. -/
def Node.mergeContents : Node → Except Reason (List (Value × Value))
  | .scalar .. => .error .malformedDocument
  | .mapping _ entries => Node.entryContents entries
  | .sequence _ items => Node.mergeItems items

def Node.mergeItems : List Node → Except Reason (List (Value × Value))
  | [] => .ok []
  | .mapping _ entries :: ns => do
    let es ← Node.entryContents entries
    return (← Node.mergeItems ns) ++ es
  | _ :: _ => .error .malformedDocument
end

/-- The value in the bytes of a document; a document without content is null. -/
def content (bs : List UInt8) : Except Reason Value :=
  match (decode? bs).bind tokens? |>.bind document? with
  | none => .error .malformedDocument
  | some none => .ok .null
  | some (some n) => n.content

end ClusterSubmission.Yaml
