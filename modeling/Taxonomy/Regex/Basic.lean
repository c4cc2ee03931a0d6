import Taxonomy.Regex.Fault

/-!
# Regular expressions

The expressions of the name and value predicates, as trees.

* `Regex`: the tree of an expression.
* `Regex.width`: the least and the greatest number of characters that an expression takes.
* `Regex.faults`: what forbids the use of an expression that is well written.
-/

namespace Taxonomy

/-- The modes under which a part of an expression is read. -/
structure RegexMode where
  ignoreCase : Bool := false
  multiline : Bool := false
  dotAll : Bool := false
  verbose : Bool := false
  ascii : Bool := false
  deriving DecidableEq, Repr, Inhabited

/-- Classes of characters that an escape names. -/
inductive CharClass where
  | digit
  | space
  | word
  deriving DecidableEq, Repr

/-- A member of a character set. -/
inductive SetItem where
  | code (n : Nat)
  | range (first last : Nat)
  | cls (c : CharClass) (negated : Bool)
  deriving DecidableEq, Repr

/-- Places in a text. -/
inductive Anchor where
  | lineStart
  | lineEnd
  | textStart
  | textEnd
  | wordEdge
  | noWordEdge
  deriving DecidableEq, Repr

/-- **A regular expression.** The bodies of groups and the choices are sequences. A reference to a
group holds the widths of that group. -/
inductive Regex where
  | code (mode : RegexMode) (negated : Bool) (n : Nat)
  | any (mode : RegexMode)
  | set (mode : RegexMode) (negated : Bool) (items : List SetItem)
  | anchor (mode : RegexMode) (place : Anchor)
  | seq (parts : List Regex)
  | alt (choices : List Regex)
  | repeated (greed : Greed) (least most : Nat) (body : Regex)
  | group (index : Nat) (body : Regex)
  | scoped (body : Regex)
  | atomic (body : Regex)
  | look (behind negated : Bool) (body : Regex)
  | backref (mode : RegexMode) (index : Nat) (least most : Nat)
  | ifGroup (index : Nat) (yes no : Regex)
  deriving Inhabited

namespace Regex

/-- The bound of a repetition that has none, and of all widths. -/
def unbounded : Nat := 4294967295

/-- **The widest look-behind**, in characters. -/
def maxLookBehind : Nat := 0x7fffffff

mutual

/-- **The least and the greatest number of characters that an expression takes.** A least number
stays below the bound of all widths. -/
def width : Regex → Nat × Nat
  | .code .. | .any _ | .set .. => (1, 1)
  | .anchor .. | .look .. => (0, 0)
  | .seq parts => widthSeq parts
  | .alt choices => widthAlt choices
  | .repeated _ least most body =>
    let (lo, hi) := width body
    (lo * least, hi * most)
  | .group _ body | .scoped body | .atomic body => width body
  | .backref _ _ least most => (least, most)
  | .ifGroup _ yes no =>
    let (lo, hi) := width yes
    let (lo', hi') := width no
    (min lo lo', max hi hi')

/-- The widths of a sequence: the sums. -/
def widthSeq : List Regex → Nat × Nat
  | [] => (0, 0)
  | r :: rs =>
    let (lo, hi) := width r
    let (lo', hi') := widthSeq rs
    (min (lo + lo') (unbounded - 1), min (hi + hi') unbounded)

/-- The widths of a choice: the least and the greatest. -/
def widthAlt : List Regex → Nat × Nat
  | [] => (0, 0)
  | [r] => width r
  | r :: rs =>
    let (lo, hi) := width r
    let (lo', hi') := widthAlt rs
    (min lo lo', max hi hi')

end

mutual

/-- **What forbids the use of an expression**, from left to right: look-behinds without one width
or too wide, and repetitions in a template. -/
def faults (template : Bool) : Regex → List RegexFault
  | .code .. | .any _ | .set .. | .anchor .. | .backref .. => []
  | .seq parts => faultsAmong template parts
  | .alt choices => faultsAmong template choices
  | .repeated greed _ _ body =>
    (if template then [.templateRepeat greed] else []) ++ faults template body
  | .group _ body | .scoped body | .atomic body => faults template body
  | .look behind _ body =>
    let (lo, hi) := width body
    let own :=
      if !behind then []
      else if lo != hi then [.lookBehindWidth]
      else if maxLookBehind < lo then [.lookBehindTooWide]
      else []
    own ++ faults template body
  | .ifGroup _ yes no => faults template yes ++ faults template no

/-- The same for several expressions. -/
def faultsAmong (template : Bool) : List Regex → List RegexFault
  | [] => []
  | r :: rs => faults template r ++ faultsAmong template rs

end

/-- **The fault that is told of an expression.** A look-behind that is too wide is noticed last. -/
def fault? (template : Bool) (r : Regex) : Option RegexFault :=
  let all := r.faults template
  (all.find? (· != .lookBehindTooWide)).or all.head?

end Regex

end Taxonomy
