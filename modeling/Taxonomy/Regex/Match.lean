import Taxonomy.Regex.Member
import Taxonomy.Regex.Trail

/-!
# Matching regular expressions

Matching tries the choices of an expression in order and goes back to the latest one when the rest
fails. A matcher takes what is to follow as an argument, so that each expression is matched by
recursion on its tree. Every attempt, also one that fails, ends with a trail.

* `Regex.found`: does the expression match somewhere in a text?
* `Regex.covers`: does the expression match the whole text?
-/

namespace Taxonomy.Regex

/-- How an attempt ends: did it succeed, and with which trail? The trail of a success notes where
the match ends. -/
abbrev Outcome := Bool × Trail

/-- A way to go on from a place. -/
abbrev Goal := Nat → Trail → Outcome

/-- A matcher, which takes the way to go on after it. -/
abbrev Matcher := Goal → Goal

/-- The end of all matching: every match is taken. -/
def done : Goal := fun i t => (true, t.note i)

/-- Is there a character of a word on exactly one side? -/
def atWordEdge (ascii : Bool) (text : Array Char) (i : Nat) : Bool :=
  let word (c : Option Char) := c.any fun x => inClass ascii x .word
  word (if i == 0 then none else text[i - 1]?) != word text[i]?

/-- **Is the place of this kind?** An empty text has neither word edges nor other places. -/
def atAnchor (mode : RegexMode) (text : Array Char) (i : Nat) : Anchor → Bool
  | .lineStart => i == 0 || (mode.multiline && text[i - 1]? == some '\n')
  | .lineEnd =>
    i == text.size || (i + 1 == text.size && text[i]? == some '\n') ||
      (mode.multiline && text[i]? == some '\n')
  | .textStart => i == 0
  | .textEnd => i == text.size
  | .wordEdge => !text.isEmpty && atWordEdge mode.ascii text i
  | .noWordEdge => !text.isEmpty && !atWordEdge mode.ascii text i

/-- Does the character at a place pass a test? -/
def passes (text : Array Char) (test : CharTest) (i : Nat) : Bool := text[i]?.any test.holds

/-- Matches one character. -/
def single (text : Array Char) (test : CharTest) : Matcher := fun k i t =>
  if passes text test i then k (i + 1) t else (false, t)

/-- The number of characters from a place on that pass a test, at most `limit`. -/
def run (text : Array Char) (test : CharTest) : Nat → Nat → Nat
  | 0, _ => 0
  | limit + 1, i => if passes text test i then run text test limit (i + 1) + 1 else 0

/-- The number of repetitions of a single character, and the place that counting them notes. -/
def runFrom (text : Array Char) (test : CharTest) (most i : Nat) : Nat × Nat :=
  let n := run text test (min most (text.size - i)) i
  (n, if test.form == .folded then i + n else i)

/-- Goes on after `spare` characters more than the least number, then after fewer. Places where
the character that has to follow is missing are passed over. -/
def retreat (text : Array Char) (inside : Bool) (next : Option CharTest) (k : Goal) (first : Nat)
    (before : Marks) : Nat → Trail → Outcome
  | spare, t =>
    let i := first + spare
    let blocked := next.any fun test => test.form == .code && !passes text test i
    let (hit, t') := if blocked then (false, t) else k i (t.note i)
    if hit then (true, t')
    else
      let t' := if blocked then t' else t'.giveUp inside before
      match spare with
      | 0 => (false, t')
      | spare + 1 => retreat text inside next k first before spare t'

/-- Goes on after as few characters as possible, then after up to `more` further ones. -/
def advance (text : Array Char) (inside : Bool) (test : CharTest) (k : Goal) (before : Marks) :
    Nat → Nat → Trail → Outcome
  | more, i, t =>
    let (hit, t) := k i (t.note i)
    if hit then (true, t)
    else
      let t := t.giveUp inside before
      if passes text test i then
        let t := t.note (if test.form == .folded then i + 1 else i)
        match more with
        | 0 => (false, t)
        | more + 1 => advance text inside test k before more (i + 1) t
      else (false, t.note i)

/-- **A repetition of a single character.** What follows has to begin with `next`. -/
def repeatSingle (text : Array Char) (inside : Bool) (test : CharTest) (greed : Greed)
    (least most : Nat) (next : Option CharTest) : Matcher := fun k i t =>
  if text.size < i + least then (false, t)
  else match greed with
    | .greedy =>
      let (n, noted) := runFrom text test most i
      let t := t.note noted
      if n < least then (false, t)
      else retreat text inside next k (i + least) t.marks (n - least) t
    | .lazy =>
      let (n, noted) := runFrom text test least i
      let t := t.note noted
      if n < least then (false, t)
      else
        let more := if most == unbounded then text.size else most - least
        advance text inside test k t.marks more (i + least) t
    | .possessive =>
      let (n, noted) := runFrom text test most i
      let t := t.note noted
      if n < least then (false, t) else k (i + n) t

/-- **A greedy repetition**, after `count` iterations. An iteration beyond the least number begins
behind the one before it, which began at `last`. -/
def iterate (least most : Nat) (body : Matcher) (k : Goal) :
    Nat → Nat → Option Nat → Nat → Trail → Outcome
  | 0, _, _, _, t => (false, t)
  | fuel + 1, count, last, i, t =>
    if count < least then
      let (hit, t) := body (iterate least most body k fuel (count + 1) last) i (t.note i)
      (hit, if hit then t else t.note i)
    else
      let (hit, t') :=
        if (count < most || most == unbounded) && last != some i then
          let (hit, t') := body (iterate least most body k fuel (count + 1) (some i)) i (t.note i)
          (hit, if hit then t' else t.note i)
        else (false, t.note i)
      if hit then (true, t')
      else
        let (hit, t') := k i t'
        (hit, if hit then t' else t'.note i)

/-- **A lazy repetition**, after `count` iterations; `inside` tells whether it is part of an
iteration of another one. -/
def iterateLazily (inside : Bool) (least most : Nat) (body : Matcher) (k : Goal) :
    Nat → Nat → Option Nat → Nat → Trail → Outcome
  | 0, _, _, _, t => (false, t)
  | fuel + 1, count, last, i, t =>
    let again (last' : Option Nat) (t : Trail) : Outcome :=
      let (hit, t) :=
        body (iterateLazily inside least most body k fuel (count + 1) last') i (t.note i)
      (hit, if hit then t else t.note i)
    if count < least then again last t
    else
      let (hit, t') := k i (t.note i)
      if hit then (true, t')
      else
        let t' := (t'.giveUp inside t.marks).note i
        if (most ≤ count && most != unbounded) || last == some i then (false, t')
        else again (some i) t'

/-- The iterations of a possessive repetition that it has to make. Each begins where the one before
it ended. -/
def exhaustLeast (body : Matcher) : Nat → Trail → Outcome
  | 0, t => (true, t)
  | least + 1, t =>
    let (hit, t) := body done t.noted t
    if hit then exhaustLeast body least t else (false, t)

/-- The further iterations of a possessive repetition. The repetition ends at the place that was
noted last, also by an iteration that failed. -/
def exhaust (body : Matcher) (isUnbounded : Bool) : Nat → Nat → Option Nat → Trail → Trail
  | 0, _, _, t => t
  | fuel + 1, more, last, t =>
    if (more == 0 && !isUnbounded) || last == some t.noted then t
    else
      let (hit, t') := body done t.noted t
      if hit then exhaust body isUnbounded fuel (more - 1) (some t.noted) t'
      else t'.giveUp true t.marks

/-- **A repetition of a matcher.** Beyond the least number each iteration makes progress, which
bounds their number. -/
def repetition (size : Nat) (greed : Greed) (inside : Bool) (least most : Nat)
    (body : Matcher) : Matcher := fun k i t =>
  let fuel := least + size + 2
  let t := t.note i
  match greed with
  | .greedy => iterate least most body k fuel 0 none i t
  | .lazy => iterateLazily inside least most body k fuel 0 none i t
  | .possessive =>
    let (hit, t) := exhaustLeast body least t
    if hit then
      let t := exhaust body (most == unbounded) fuel (most - least) none t
      k t.noted t
    else (false, t.note i)

/-- A look-around: the body has to match ahead, or right behind, or must not. -/
def lookAround (behind negated inside : Bool) (size : Nat) (body : Matcher) : Matcher :=
  fun k i t =>
    let back := if behind then size else 0
    if i < back then if negated then k i t else (false, t)
    else
      let (hit, t') := body done (i - back) (t.note (i - back))
      if negated then if hit then (false, t') else k i (t'.giveUp inside t.marks)
      else if hit then k i t' else (false, t')

mutual

/-- The test that an expression begins with, where what follows it begins with `next`. -/
def opening (next : Option CharTest) : Regex → Option CharTest
  | .seq parts => openingSeq next parts
  | .scoped body => opening next body
  | .code mode negated n => some (codeTest mode negated n)
  | .set mode negated items => some (setTest mode negated items)
  | _ => none

/-- The test that a sequence begins with. -/
def openingSeq (next : Option CharTest) : List Regex → Option CharTest
  | [] => next
  | r :: rs => opening (openingSeq next rs) r

end

/-- Tries choices in order. A choice that begins with a plain test is passed over where the test
fails. -/
def choose (text : Array Char) (inside : Bool) (k : Goal) (i : Nat) (before : Marks) :
    List (Option CharTest × Matcher) → Trail → Outcome
  | [], t => (false, t)
  | (first, m) :: more, t =>
    if first.any fun test => test.isPlain && !passes text test i then
      choose text inside k i before more t
    else
      let (hit, t) := m k i (t.note i)
      if hit then (true, t)
      else choose text inside k i before more (t.giveUp inside before)

/-- Does the text repeat the characters from `a` to `b` at a place? -/
def repeats (text : Array Char) (same : Char → Char → Bool) (a b i : Nat) : Bool :=
  (List.range (b - a)).all fun d =>
    match text[a + d]?, text[i + d]? with
    | some x, some y => same x y
    | _, _ => false

mutual

/-- **The matcher of an expression**, inside an iteration of a repetition or outside, where what
follows begins with `next`. -/
def matcher (text : Array Char) (inside : Bool) (next : Option CharTest) : Regex → Matcher
  | .code mode negated n => single text (codeTest mode negated n)
  | .any mode => single text ⟨.other, fun c => mode.dotAll || c != '\n'⟩
  | .set mode negated items => single text (setTest mode negated items)
  | .anchor mode place => fun k i t => if atAnchor mode text i place then k i t else (false, t)
  | .seq parts => matcherSeq text inside next parts
  | .alt choices => fun k i t => choose text inside k i t.marks (matcherAlt text inside choices) t
  | .repeated greed least most body =>
    match test? body with
    | some test => repeatSingle text inside test greed least most next
    | none =>
      let inner := inside || greed != .possessive
      repetition text.size greed inside least most (matcher text inner none body)
  | .group index body => fun k i t =>
    matcher text inside none body (fun j t => k j (t.put (leaveMark index) j)) i
      (t.put (enterMark index) i)
  | .scoped body => matcher text inside next body
  | .atomic body => fun k i t =>
    let (hit, t) := matcher text inside none body done i (t.note i)
    if hit then k t.noted t else (false, t.note i)
  | .look behind negated body =>
    lookAround behind negated inside (width body).1 (matcher text inside none body)
  | .backref mode index _ _ => fun k i t =>
    match t.marks.span? index with
    | none => (false, t)
    | some (a, b) =>
      let same (x y : Char) :=
        if mode.ignoreCase then foldCode mode.ascii x.toNat == foldCode mode.ascii y.toNat
        else x == y
      if repeats text same a b i then k (i + (b - a)) t else (false, t)
  | .ifGroup index yes no => fun k i t =>
    let after := match no with
      | .seq [] => next
      | _ => none
    if (t.marks.span? index).isSome then matcher text inside after yes k i t
    else matcher text inside next no k i t

/-- The matcher of a sequence. -/
def matcherSeq (text : Array Char) (inside : Bool) (next : Option CharTest) :
    List Regex → Matcher
  | [], k => k
  | r :: rs, k =>
    matcher text inside (openingSeq next rs) r (matcherSeq text inside next rs k)

/-- The matchers of choices, each with the test that it begins with. -/
def matcherAlt (text : Array Char) (inside : Bool) :
    List Regex → List (Option CharTest × Matcher)
  | [] => []
  | r :: rs => (opening none r, matcher text inside none r) :: matcherAlt text inside rs

end

/-- Nothing noted and no marks, at a place. -/
def freshTrail (i : Nat) : Trail := ⟨i, []⟩

/-- Tells whether there is a match. A match with a group that ends before it begins is refused. -/
def Outcome.verdict : Option Outcome → Except RegexFault Bool
  | some (true, t) => if t.marks.isOrdered then return true else throw .brokenSpan
  | _ => return false

/-- **Does the expression match somewhere in the text?** Texts and places with too few characters
are not tried. -/
def found (r : Regex) (s : String) : Except RegexFault Bool :=
  let text := s.toList.toArray
  let least := (width r).1
  if text.size < least then return false
  else
    let goal := matcher text false none r done
    Outcome.verdict ((List.range (text.size + 1 - (least - 1))).findSome? fun i =>
      let outcome := goal i (freshTrail i)
      if outcome.1 then some outcome else none)

/-- **Does the expression match the whole text?** A text with too few characters is not tried. -/
def covers (r : Regex) (s : String) : Except RegexFault Bool :=
  let text := s.toList.toArray
  if text.size < (width r).1 then return false
  else
    let whole : Goal := fun i t => if i == text.size then done i t else (false, t)
    Outcome.verdict (some (matcher text false none r whole 0 (freshTrail 0)))

end Taxonomy.Regex
