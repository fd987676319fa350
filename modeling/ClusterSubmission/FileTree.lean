import ClusterSubmission.Failure
import ClusterSubmission.Text.Path

/-!
# File trees

The files that the program can see: a working directory with files and directories below it. A path
is followed segment by segment, so that going up needs the directory it goes up from.
-/
namespace ClusterSubmission

/-- When a file was changed last: a time that was set, or the time of the change itself. -/
inductive Stamp where
  | given (time : Quantity)
  | change (number : Nat)
  deriving DecidableEq

/-- A file or a directory. -/
inductive FileNode where
  | file (content : List UInt8) (stamp : Stamp)
  | directory

/-- The files and directories below the working directory, by their segments, and how many changes
there have been. -/
structure FileTree where
  nodes : List (List String × FileNode) := []
  changes : Nat := 0

namespace FileTree

/-- The segments of a path, none if it does not start in the working directory. -/
def segments? (path : String) : Option (List String) :=
  if Text.pathRoot path.toList == [] then some ((Text.pathSegments path.toList).map String.ofList)
  else none

/-- What stands at a place; the working directory itself is one of them. -/
def nodeAt? (t : FileTree) (place : List String) : Option FileNode :=
  if place == [] then some .directory
  else (t.nodes.find? (·.1 == place)).map (·.2)

/-- Follows segments from a place, and says what is wrong if that is not possible. -/
def follow (t : FileTree) (path : String) (place : List String) :
    List String → Except Reason (List String)
  | [] => .ok place
  | seg :: rest =>
    match t.nodeAt? place with
    | none => .error (.notFound path)
    | some (.file ..) => .error (.notDirectory path)
    | some .directory =>
      if seg == ".." then
        if place == [] then .error (.notFound path) else t.follow path place.dropLast rest
      else t.follow path (place ++ [seg]) rest

/-- The place that a path leads to, whether there is something or not. -/
def resolve (t : FileTree) (path : String) : Except Reason (List String) :=
  match segments? path with
  | some segs => t.follow path [] segs
  | none => .error (.notFound path)

def find? (t : FileTree) (path : String) : Option FileNode :=
  match t.resolve path with
  | .ok place => t.nodeAt? place
  | .error _ => none

def isDirectory (t : FileTree) (path : String) : Bool :=
  match t.find? path with
  | some .directory => true
  | _ => false

def read (t : FileTree) (path : String) : Except Reason (List UInt8 × Stamp) := do
  match t.nodeAt? (← t.resolve path) with
  | some (.file content stamp) => return (content, stamp)
  | some .directory => throw (.isDirectory path)
  | none => throw (.notFound path)

/-- The tree with something put at a place, in place of what stood there. -/
def put (t : FileTree) (place : List String) (node : FileNode) : FileTree :=
  { nodes := (t.nodes.filter (·.1 != place)) ++ [(place, node)], changes := t.changes + 1 }

/-- Writes a file into a directory that is there. -/
def write (t : FileTree) (path : String) (content : List UInt8) (stamp : Option Stamp := none) :
    Except Reason FileTree := do
  let place ← t.resolve path
  match t.nodeAt? place with
  | some .directory => throw (.isDirectory path)
  | some (.file ..) => return t.put place (.file content (stamp.getD (.change t.changes)))
  | none =>
    match t.nodeAt? place.dropLast with
    | some .directory => return t.put place (.file content (stamp.getD (.change t.changes)))
    | some (.file ..) => throw (.notDirectory path)
    | none => throw (.notFound path)

def append (t : FileTree) (path : String) (content : List UInt8) : Except Reason FileTree :=
  match t.read path with
  | .ok (before, _) => t.write path (before ++ content)
  | .error _ => t.write path content

/-- Makes a directory and those above it. Directories that are there already are fine. -/
def makeDirectories (t : FileTree) (path : String) (place : List String) :
    List String → Except Reason FileTree
  | [] => .ok t
  | seg :: rest =>
    let next := if seg == ".." then place.dropLast else place ++ [seg]
    match t.nodeAt? next with
    | some .directory => t.makeDirectories path next rest
    | some (.file ..) => .error (if rest.isEmpty then .fileExists path else .notDirectory path)
    | none => (t.put next .directory).makeDirectories path next rest

def makeDirectory (t : FileTree) (path : String) : Except Reason FileTree :=
  match segments? path with
  | some segs => t.makeDirectories path [] segs
  | none => .ok t

def place (t : FileTree) (path : String) (content : List UInt8) (stamp : Option Stamp := none) :
    Except Reason FileTree := do
  (← t.makeDirectory (Text.pathParent path)).write path content stamp

def remove (t : FileTree) (path : String) : FileTree :=
  match t.resolve path with
  | .ok place =>
    { nodes := t.nodes.filter fun n => !place.isPrefixOf n.1, changes := t.changes + 1 }
  | .error _ => t

def children (t : FileTree) (path : String) : List String :=
  match t.resolve path with
  | .ok place =>
    t.nodes.filterMap fun n =>
      if n.1.length = place.length + 1 && place.isPrefixOf n.1 then n.1.getLast? else none
  | .error _ => []

end FileTree
end ClusterSubmission
