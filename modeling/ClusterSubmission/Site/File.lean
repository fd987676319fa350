import ClusterSubmission.World
import ClusterSubmission.Xml.Element

/-!
# Site files

A site file lists properties, each with a name and possibly a value. Files that were read are kept
and read again once the time of their last change differs; only a limited number of them is kept,
those that were asked for last.
-/
namespace ClusterSubmission.Site

/-- The properties of a site file: names and values, each of which can be empty. -/
abbrev Properties := List (Option String × Option String)

def lastText? (e : Xml.Element) (name : String) : Option (Option String) :=
  (e.children.reverse.find? (·.name == name)).map (·.text?)

def propertyOf? (e : Xml.Element) : Option (Option String × Option String) :=
  (lastText? e "name").map fun name => (name, (lastText? e "value").join)

def propertiesOf (root : Xml.Element) : Properties :=
  (root.children.filter (·.name == "property")).filterMap propertyOf?

/-- The value of a property; of properties with the same name the last one counts. -/
def Properties.find? (ps : Properties) (name : Option String) : Option (Option String) :=
  (List.find? (·.1 == name) ps.reverse).map (·.2)

/-- The properties in the content of a site file, if it is well-formed. -/
def read? (content : List UInt8) : Option Properties :=
  match Xml.read content with
  | .ok root => some (propertiesOf root)
  | .error _ => none

def sameStamp : Stamp → Stamp → Bool
  | .given p, .given q => Value.sameQuantity p q
  | .change m, .change n => m == n
  | _, _ => false

def keptFiles : Nat := 32

/-- The properties of the site file at a path. -/
def readFile (path : String) : Run Properties := do
  let w ← get
  let (content, stamp) ← Run.ofExcept (w.files.read path)
  let isIt := fun (e : SiteEntry) => e.path == path && sameStamp e.stamp stamp
  let properties ← match w.siteCache.find? isIt with
    | some e => pure e.properties
    | none => pure (propertiesOf (← Run.ofExcept (Xml.read content)))
  let entry : SiteEntry := ⟨path, stamp, properties⟩
  modify fun w =>
    { w with siteCache := (entry :: w.siteCache.filter fun e => !isIt e).take keptFiles }
  return properties

def fileEnding : String := "-site.xml"

def isFileName (name : String) : Bool := fileEnding.toList.isSuffixOf name.toList

/-- The properties that the site file at a path has now. -/
def propertiesAt? (files : FileTree) (path : String) : Option Properties :=
  match files.read path with
  | .ok (content, _) => read? content
  | .error _ => none

def filesIn (files : FileTree) (directory : String) : List String :=
  ((files.children directory).filter isFileName).mergeSort (fun a b => !(b < a))
    |>.map (Text.pathBelow directory)

end ClusterSubmission.Site
