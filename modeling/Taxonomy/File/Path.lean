/-!
# Paths

A path is relative, or begins at an anchor. Empty parts and single points vanish; two points stay,
since what they mean depends on the tree.
-/

namespace Taxonomy

/-- **A path.** A relative one has the empty anchor. -/
structure Path where
  anchor : String := ""
  parts : List String := []
  deriving DecidableEq, Repr, Inhabited

namespace Path

/-- Does the path begin at an anchor? -/
def isAbsolute (p : Path) : Bool := p.anchor != ""

/-- The parts of a text between slashes, without the empty ones and single points. -/
def partsOf (cs : List Char) : List String :=
  ((cs.splitOn '/').map String.ofList).filter fun s => s != "" && s != "."

/-- The number of slashes that make up the root: two in front of a path are kept. -/
def rootSlashes (cs : List Char) : Nat :=
  let n := (cs.takeWhile (· == '/')).length
  if n == 2 then 2 else min n 1

/-- **A path from its text.** -/
def ofText (s : String) : Path :=
  ⟨String.ofList (List.replicate (rootSlashes s.toList) '/'), partsOf s.toList⟩

/-- **The text of a path.** -/
def text (p : Path) : String :=
  if p.anchor == "" && p.parts.isEmpty then "."
  else
    let body := "/".intercalate p.parts
    let isNamed := p.anchor != "" && !p.anchor.endsWith "/"
    if isNamed && !p.parts.isEmpty then p.anchor ++ "/" ++ body else p.anchor ++ body

/-- **The path of something inside a directory**; what begins at an anchor is not inside. -/
def join (dir inner : Path) : Path :=
  if inner.isAbsolute then inner else ⟨dir.anchor, dir.parts ++ inner.parts⟩

/-- The directory that holds what the path leads to. -/
def parent (p : Path) : Path := ⟨p.anchor, p.parts.dropLast⟩

end Path

end Taxonomy
