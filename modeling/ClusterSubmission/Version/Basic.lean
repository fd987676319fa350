import ClusterSubmission.Text.Character

/-!
# Cluster versions

A version has three parts and is ordered by them, the most significant one first.
-/
namespace ClusterSubmission

/-- A release version of the cluster. -/
structure Version where
  major : Int
  minor : Int := 0
  patch : Int := 0
  deriving DecidableEq, Repr, Inhabited

namespace Version

def parts (v : Version) : List Int := [v.major, v.minor, v.patch]

def text (v : Version) : String :=
  Text.intText v.major ++ "." ++ Text.intText v.minor ++ "." ++ Text.intText v.patch

def atLeast (v w : Version) : Bool :=
  w.major < v.major || w.major = v.major &&
    (w.minor < v.minor || w.minor = v.minor && w.patch ≤ v.patch)

/-- The first version whose clusters keep containers across application attempts. -/
def keepContainersSince : Version := ⟨2, 4, 0⟩

/-- Whether clusters of a version keep containers across application attempts. -/
def keepsContainers (v : Version) : Bool := v.atLeast keepContainersSince

end Version
end ClusterSubmission
