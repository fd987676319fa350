import ClusterSubmission.Message.Schema
import ClusterSubmission.Json.Writer

/-!
# Message parts

A message is a tree of records, lists and values. A record knows which of its fields were given, so
that a field that was left at its default can be left out when the message is written.
-/
namespace ClusterSubmission.Message

/-- A part of a message. The slots of a record follow the fields of its model; an empty slot is
left at its default. -/
inductive Part where
  | leaf (v : Value)
  | record (m : Model) (slots : List (Option Part))
  | list (items : List Part)
  deriving Inhabited

def Default.part : Default → Part
  | .required => .leaf .null
  | .value v => .leaf v
  | .emptyList => .list []
  | .emptyMapping => .leaf (.mapping [])

namespace Part

def get (p : Part) (name : String) : Part :=
  match p with
  | .record m slots =>
    match m.fields.zip slots |>.find? fun f => f.1.name == name with
    | some (f, slot) => slot.getD f.default.part
    | none => .leaf .null
  | _ => .leaf .null

def value : Part → Value
  | .leaf v => v
  | _ => .null

def field (p : Part) (name : String) : Value := (p.get name).value

mutual
def attributes : Part → Value
  | .leaf v => v
  | .list items => .list (itemAttributes items)
  | .record m slots => .mapping (slotAttributes m.fields slots)

def itemAttributes : List Part → List Value
  | [] => []
  | p :: ps => attributes p :: itemAttributes ps

/-- The fields of a record with the names of the library, defaults included. -/
def slotAttributes : List Field → List (Option Part) → List (Value × Value)
  | f :: fs, some p :: slots => (.text f.name, attributes p) :: slotAttributes fs slots
  | f :: fs, none :: slots =>
    (.text f.name, match f.default with
      | .value v => v
      | .emptyList => .list []
      | .emptyMapping => .mapping []
      | .required => .null) :: slotAttributes fs slots
  | _, _ => []
end

/-- Whether a value is the very default of its field. Long text and large numbers are values of
their own, even where they equal the default. -/
def isDefaultValue (v d : Value) : Bool :=
  match v, d with
  | .null, .null => true
  | .bool a, .bool b => a == b
  | .int a, .int b => a == b && -5 ≤ a && a ≤ 256
  | .text a, .text b => a == b && a.length ≤ 1
  | _, _ => false

/-- Whether a part that was given can be left out because it is the default. -/
def isDefault (p : Part) (d : Default) : Bool :=
  match p, d with
  | .leaf v, .value d => isDefaultValue v d
  | .leaf (.list []), .emptyList => true
  | .list [], .emptyList => true
  | .leaf (.mapping []), .emptyMapping => true
  | _, _ => false

end Part

mutual
/-- A value made of what documents can hold: bytes become base64 text, tuples lists, and records
mappings. Paths have no such form. -/
def plainValue : Value → Except Reason Value
  | .bytes bs => .ok (.text (Text.base64 .standard bs))
  | .list vs | .tuple vs => do return .list (← plainItems vs)
  | .mapping es => do return .mapping (← plainEntries es)
  | .path _ => .error .wrongType
  | .version v => .ok (.list (v.parts.map .int))
  | .handle v => do return .mapping [(.text "id", ← plainValue v)]
  | .resource a b c d e => do
    return .mapping [(.text "location", ← plainValue a), (.text "size", ← plainValue b),
      (.text "timestamp", ← plainValue c), (.text "type", ← plainValue d),
      (.text "visibility", ← plainValue e)]
  | .moment _ s => .ok (.text s)
  | v => .ok v

def plainItems : List Value → Except Reason (List Value)
  | [] => .ok []
  | v :: vs => do
    let v ← plainValue v
    return v :: (← plainItems vs)

def plainEntries : List (Value × Value) → Except Reason (List (Value × Value))
  | [] => .ok []
  | (k, v) :: es => do
    let k ← plainValue k
    let v ← plainValue v
    return (k, v) :: (← plainEntries es)
end

mutual
/-- A part with the names of the wire, where fields left at their default are left out if the model
says so. -/
def Part.wireForm : Part → Except Reason Value
  | .leaf v => plainValue v
  | .list items => do return .list (← itemWireForms items)
  | .record m slots => do return .mapping (← slotWireForms m.omitsDefaults m.fields slots)

def itemWireForms : List Part → Except Reason (List Value)
  | [] => .ok []
  | p :: ps => do
    let v ← p.wireForm
    return v :: (← itemWireForms ps)

/-- The fields of a record with the names of the wire. -/
def slotWireForms (sparse : Bool) :
    List Field → List (Option Part) → Except Reason (List (Value × Value))
  | f :: fs, some p :: slots =>
    if sparse && p.isDefault f.default then slotWireForms sparse fs slots
    else do
      let v ← p.wireForm
      return (.text f.wire, v) :: (← slotWireForms sparse fs slots)
  | f :: fs, none :: slots =>
    if sparse then slotWireForms sparse fs slots
    else do
      let v := match f.default with
        | .value v => v
        | .emptyList => .list []
        | .emptyMapping => .mapping []
        | .required => .null
      return (.text f.wire, v) :: (← slotWireForms sparse fs slots)
  | _, _ => .ok []
end

/-- Whether a value says something: null and empty collections do not. -/
def isKept : Value → Bool
  | .null | .list [] | .tuple [] | .mapping [] => false
  | _ => true

mutual
/-- A value without the members and entries that say nothing. What becomes empty by that stays. -/
def prune : Value → Value
  | .list vs => .list (pruneItems vs)
  | .tuple vs => .tuple (pruneItems vs)
  | .mapping es => .mapping (pruneEntries es)
  | v => v

def pruneItems : List Value → List Value
  | [] => []
  | v :: vs => if isKept v then prune v :: pruneItems vs else pruneItems vs

def pruneEntries : List (Value × Value) → List (Value × Value)
  | [] => []
  | (k, v) :: es => if isKept v then (k, prune v) :: pruneEntries es else pruneEntries es
end

def Part.toMapping (p : Part) : Except Reason Value := do return prune (← p.wireForm)

def encodeValue (v : Value) : Except Reason String :=
  match Json.write? v with
  | some s => .ok s
  | none => .error .wrongType

def Part.encode (p : Part) : Except Reason String := do encodeValue (← p.toMapping)

end ClusterSubmission.Message
