import Taxonomy.Fault
import Taxonomy.File.Path
import Taxonomy.Text.Utf8

/-!
# Trees of files

The files below one directory, which has a name as an anchor of paths. Nothing is known of what is
outside of it.

* `FileTree.find`: what a path leads to.
* `FileTree.read`: the content of a file.
* `FileTree.nearest`: a file of a name in a directory or above it.
-/

namespace Taxonomy

/-- **The content of a file.** -/
inductive Content where
  | text (s : String)
  | bytes (bs : List Nat)
  deriving Inhabited

/-- The text of a content. -/
def Content.read : Content → Result String
  | text s => pure s
  | bytes bs => match Text.decode bs with
    | .ok s => pure s
    | .error f => throw (.undecodable f.byte f.first f.last f.reason)

/-- **The files below a directory**, each with its way there, other directories, and the directory
that relative paths begin in. -/
structure FileTree where
  anchor : String
  files : List (List String × Content) := []
  directories : List (List String) := []
  here : List String := []
  deriving Inhabited

/-- What a path leads to. -/
inductive Place where
  | directory (way : List String)
  | file (content : Content)
  | outside
  | nowhere (fault : FileFault)
  deriving Inhabited

namespace FileTree

variable (t : FileTree)

/-- Is there a directory at the end of a way? -/
def isDirectory (way : List String) : Bool :=
  way.isEmpty || t.files.any (fun f => way.length < f.1.length && way.isPrefixOf f.1) ||
    t.directories.any way.isPrefixOf

/-- The most bytes of a name. -/
def nameLimit : Nat := 255

/-- Is a name longer than any in a tree? -/
def isTooLong (name : String) : Bool := nameLimit < name.utf8ByteSize

/-- Follows the parts of a path from a place. -/
def follow : Place → List String → Place
  | place, [] => place
  | .nowhere f, _ => .nowhere f
  | .file _, _ :: _ => .nowhere .notDirectory
  | .outside, part :: parts =>
    if part == ".." then follow .outside parts
    else .nowhere (if isTooLong part then .nameTooLong else .missing)
  | .directory way, part :: parts =>
    if part == ".." then
      follow (if way.isEmpty then .outside else .directory way.dropLast) parts
    else
      let next := way ++ [part]
      match t.files.lookup next with
      | some content => follow (.file content) parts
      | none =>
        if t.isDirectory next then follow (.directory next) parts
        else .nowhere (if isTooLong part then .nameTooLong else .missing)

/-- The most bytes of a path. -/
def pathLimit : Nat := 4095

/-- **What a path leads to.** -/
def find (p : Path) : Place :=
  if p.text.contains '\x00' then .nowhere .nulInside
  else if pathLimit < p.text.utf8ByteSize then .nowhere .nameTooLong
  else if p.anchor == "" then t.follow (.directory t.here) p.parts
  else if p.anchor == t.anchor then t.follow (.directory []) p.parts
  else t.follow .outside p.parts

/-- Is there anything at the end of a path? Of one that is too long this cannot be asked. -/
def «exists» (p : Path) : Result Bool :=
  match t.find p with
  | .nowhere .nameTooLong => throw (.file .nameTooLong p.text)
  | .nowhere _ => pure false
  | _ => pure true

/-- **The content at the end of a path.** -/
def read (p : Path) : Result Content :=
  match t.find p with
  | .file content => pure content
  | .directory _ | .outside => throw (.file .isDirectory p.text)
  | .nowhere f => throw (.file f p.text)

/-- The path of a way below the directory. -/
def pathOf (way : List String) : Path := ⟨t.anchor, way⟩

/-- The way of a path below the directory; two points lead back by one step. -/
def wayOf (p : Path) : List String :=
  p.parts.foldl (fun way part => if part == ".." then way.dropLast else way ++ [part])
    (if p.isAbsolute then [] else t.here)

/-- **The nearest file of a name** in a directory or above it. -/
def nearest (name : String) (way : List String) : Option Path :=
  let directories := (List.range (way.length + 1)).reverse.map way.take
  (directories.find? fun dir => (t.files.lookup (dir ++ [name])).isSome).map fun dir =>
    t.pathOf (dir ++ [name])

end FileTree

end Taxonomy
