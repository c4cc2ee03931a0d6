import Taxonomy.Console.Emoji
import Taxonomy.Console.Handler
import Taxonomy.Console.Style

/-!
# Marked-up text

Printed text may hold tags between brackets, which change its looks and vanish. A backslash in front
of a tag makes it plain text.

* `Markup.render`: the text without its tags, with its emoji codes replaced.
* `Markup.escape`: a text that is printed as it is.
-/

namespace Taxonomy.Markup

/-- The characters that a tag may begin with. -/
def isTagStart (c : Char) : Bool :=
  ('a' ≤ c && c ≤ 'z') || c == '#' || c == '/' || c == '@'

/-- A tag at the beginning, with the number of backslashes in front of it. -/
def tag? (cs : List Char) : Option (Nat × List Char × List Char) :=
  let slashes := cs.takeWhile (· == '\\')
  match cs.drop slashes.length with
  | '[' :: c :: rest =>
    if !isTagStart c then none
    else
      let body := rest.takeWhile fun d => d != '[' && d != ']'
      match rest.drop body.length with
      | ']' :: rest => some (slashes.length, c :: body, rest)
      | _ => none
  | _ => none

/-- A part of a marked-up text: plain text, or a tag with its position. -/
inductive Piece where
  | plain (cs : List Char)
  | tag (body : List Char) (position : Nat)
  deriving DecidableEq, Repr

/-- The parts of a text from a position on; `plain` is what was read since the last tag, in reverse,
and `fuel` bounds the number of characters. -/
def piecesFrom : Nat → Nat → List Char → List Char → List Piece
  | 0, _, plain, _ => [.plain plain.reverse]
  | _ + 1, _, plain, [] => [.plain plain.reverse]
  | fuel + 1, position, plain, c :: cs =>
    match tag? (c :: cs) with
    | none => piecesFrom fuel (position + 1) (c :: plain) cs
    | some (slashes, body, rest) =>
      let next := position + slashes + body.length + 2
      let kept := List.replicate (slashes / 2) '\\'
      let piece := if slashes % 2 == 0 then Piece.tag body (position + slashes)
        else .plain ('[' :: body ++ [']'])
      .plain plain.reverse :: .plain kept :: piece :: piecesFrom fuel next [] rest

/-- The parts of a marked-up text. -/
def pieces (s : String) : List Piece := piecesFrom (s.length + 1) 0 [] s.toList

/-- Brackets that belong to no tag lose the backslash in front of them. -/
def plainText : List Char → List Char
  | '\\' :: '[' :: cs => '[' :: plainText cs
  | c :: cs => c :: plainText cs
  | [] => []

/-- **A tag that is open**: the name of its style and what it is given. -/
structure OpenTag where
  name : String
  given : Option String

/-- Closes the last tag of a name: the tag, and the tags that stay open. -/
def close? (name : String) : List OpenTag → Option (OpenTag × List OpenTag)
  | [] => none
  | t :: ts =>
    if t.name == name then some (t, ts)
    else (close? name ts).map fun (closed, open') => (closed, t :: open')

/-- Looks at what the tag of a handler is given when it is closed. -/
def OpenTag.check (t : OpenTag) : Result Unit :=
  match t.given with
  | some given => if t.name.startsWith "@" && given != "" then Handler.check given else return
  | none => return

/-- The body of a tag: its name, and what it is given behind an equals sign. -/
def splitBody (body : List Char) : String × Option String :=
  let name := body.takeWhile (· != '=')
  (String.ofList name, match body.drop name.length with
    | _ :: given => some (String.ofList given)
    | [] => none)

/-- The text of parts, where `tags` are the open ones, the last one first. -/
def renderPieces : List OpenTag → List Piece → Result (List Char)
  | _, [] => pure []
  | tags, .plain cs :: ps => do
    return (Emoji.replaceFrom none (plainText cs)) ++ (← renderPieces tags ps)
  | tags, .tag body position :: ps => do
    let (name, given) := splitBody body
    match name.toList with
    | '/' :: cs =>
      let closing := Text.trim (String.ofList cs)
      if closing.isEmpty then
        match tags with
        | [] => throw (.nothingToClose position)
        | t :: tags => do
          t.check
          renderPieces tags ps
      else match close? (← Style.normalize closing) tags with
        | some (t, tags) => do
          t.check
          renderPieces tags ps
        | none => throw (.strayTag (String.ofList body) position)
    | _ => renderPieces (⟨← Style.normalize name, given⟩ :: tags) ps

/-- **The text without its tags**, with its emoji codes replaced. -/
def render (s : String) : Result String := return String.ofList (← renderPieces [] (pieces s))

/-- The characters of a text with a backslash in front of every tag. -/
def escapeFrom : Nat → List Char → List Char
  | 0, cs => cs
  | _ + 1, [] => []
  | fuel + 1, c :: cs =>
    match tag? (c :: cs) with
    | none => c :: escapeFrom fuel cs
    | some (slashes, body, rest) =>
      List.replicate (2 * slashes + 1) '\\' ++ '[' :: body ++ ']' :: escapeFrom fuel rest

/-- **A text that is printed as it is.** A single backslash at the end is doubled. -/
def escape (s : String) : String :=
  let cs := escapeFrom (s.length + 1) s.toList
  String.ofList <| match cs.reverse with
    | ['\\'] => cs ++ ['\\']
    | '\\' :: c :: _ => if c == '\\' then cs else cs ++ ['\\']
    | _ => cs

end Taxonomy.Markup
