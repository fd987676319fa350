import ClusterSubmission.Text.Character

/-!
# Mismatches

A document that is well-formed can still differ from the message it should be. A mismatch says what
is wrong and at which place of the document.
-/
namespace ClusterSubmission

/-- One step on the way from the root of a document to a place in it. -/
inductive PlaceStep where
  | field (name : String)
  | item (index : Nat)
  | anyValue
  deriving DecidableEq, Repr

/-- A place in a document: the steps from the root, and whether it is a key found there. -/
structure Place where
  steps : List PlaceStep
  isKey : Bool
  deriving DecidableEq, Repr

/-- What is wrong at a place. -/
inductive Fault where
  | kind (expected got : String)
  | keyKind
  | below (bound : Int)
  | tooShort (length : Nat)
  | offPattern (pattern : String)
  | notAChoice (given : String)
  | missingField (name : String)
  | numberOutOfRange
  | integerOutOfRange
  deriving DecidableEq, Repr

/-- A fault and its place. -/
structure Mismatch where
  fault : Fault
  place : Place
  deriving DecidableEq, Repr

def PlaceStep.text : PlaceStep → String
  | .field name => "." ++ name
  | .item index => "[" ++ Text.natText index ++ "]"
  | .anyValue => "[...]"

def Place.text (p : Place) : String :=
  let way := "$" ++ String.join (p.steps.map PlaceStep.text)
  if p.isKey then " - at `key` in `" ++ way ++ "`"
  else if p.steps.isEmpty then ""
  else " - at `" ++ way ++ "`"

/-- What is wrong, in words. -/
def Fault.text : Fault → String
  | .kind expected got => "Expected `" ++ expected ++ "`, got `" ++ got ++ "`"
  | .keyKind => "Expected `str`"
  | .below bound => "Expected `int` >= " ++ Text.intText bound
  | .tooShort length => "Expected `str` of length >= " ++ Text.natText length
  | .offPattern pattern => "Expected `str` matching regex " ++ pattern
  | .notAChoice given => "Invalid enum value '" ++ given ++ "'"
  | .missingField name => "Object missing required field `" ++ name ++ "`"
  | .numberOutOfRange => "Number out of range"
  | .integerOutOfRange => "Integer value out of range"

def Mismatch.message (m : Mismatch) : String := m.fault.text ++ m.place.text

end ClusterSubmission
