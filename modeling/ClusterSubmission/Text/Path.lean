/-!
# Paths

A path is an optional root and the segments below it. Empty segments and single points say nothing
and are left out; two points are kept, because what they mean depends on links.
-/
namespace ClusterSubmission.Text

def splitOnChar (sep : Char) : List Char → List (List Char)
  | [] => [[]]
  | c :: cs =>
    if c = sep then [] :: splitOnChar sep cs
    else match splitOnChar sep cs with
      | piece :: pieces => (c :: piece) :: pieces
      | [] => [[c]]

/-- The root of a path: none, a slash, or the two slashes that are told apart from one. -/
def pathRoot : List Char → List Char
  | ['/', '/'] => ['/', '/']
  | '/' :: '/' :: '/' :: _ => ['/']
  | '/' :: '/' :: _ => ['/', '/']
  | '/' :: _ => ['/']
  | _ => []

def pathSegments (cs : List Char) : List (List Char) :=
  (splitOnChar '/' cs).filter fun seg => seg != [] && seg != ['.']

/-- The path with a root and segments; a path with neither is a point. -/
def joinPath (root : List Char) (segments : List (List Char)) : List Char :=
  match root ++ ['/'].intercalate segments with
  | [] => ['.']
  | cs => cs

def normalPath (s : String) : String :=
  String.ofList (joinPath (pathRoot s.toList) (pathSegments s.toList))

def withoutReturns (segments : List (List Char)) : List (List Char) :=
  segments.foldl
    (fun done seg =>
      if seg == ['.', '.'] && done.getLast?.any (· != ['.', '.']) then done.dropLast
      else done ++ [seg]) []

def directPath (s : String) : String :=
  String.ofList (joinPath (pathRoot s.toList) (withoutReturns (pathSegments s.toList)))

def pathName (s : String) : String :=
  String.ofList ((pathSegments s.toList).getLast?.getD [])

def pathParent (s : String) : String :=
  String.ofList (joinPath (pathRoot s.toList) (pathSegments s.toList).dropLast)

def pathBelow (s name : String) : String :=
  if s == "." then name
  else String.ofList (joinPath (pathRoot s.toList) (pathSegments s.toList ++ [name.toList]))

end ClusterSubmission.Text
