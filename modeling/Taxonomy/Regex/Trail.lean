/-!
# The trail of matching

What matching leaves as it goes: the marks of groups, and the place that was noted last.

A mark is set where a group is entered and where it is left. An attempt that fails does not take
its marks back. What gives a choice up afterwards either restores all marks, or forgets those
that were not there before and keeps new values of the others.

* `Marks.put`, `Marks.forget`: how marks are set and forgotten.
* `Marks.span?`: where a group matched last.
-/

namespace Taxonomy.Regex

/-- **The marks of groups**: the entry `2 * i` is where the group `i + 1` was entered last, the
entry `2 * i + 1` where it was left. -/
abbrev Marks := List (Option Nat)

/-- Sets a mark. Marks that come before it and were not set are empty. -/
def Marks.put (marks : Marks) (index place : Nat) : Marks :=
  if index < marks.length then marks.set index (some place)
  else marks ++ List.replicate (index - marks.length) none ++ [some place]

/-- Forgets the marks that were not there before. -/
def Marks.forget (marks before : Marks) : Marks := marks.take before.length

/-- The index of the mark where a group is entered. -/
def enterMark (group : Nat) : Nat := 2 * (group - 1)

/-- The index of the mark where a group is left. -/
def leaveMark (group : Nat) : Nat := enterMark group + 1

/-- **Where a group matched last.** A group that was entered behind the place where it was left
did not match. -/
def Marks.span? (marks : Marks) (group : Nat) : Option (Nat × Nat) :=
  match marks[enterMark group]?, marks[leaveMark group]? with
  | some (some a), some (some b) => if a ≤ b then some (a, b) else none
  | _, _ => none

/-- **Is no group left before it was entered?** -/
def Marks.isOrdered : Marks → Bool
  | some a :: some b :: marks => a ≤ b && isOrdered marks
  | _ :: _ :: marks => isOrdered marks
  | _ => true

/-- **What matching leaves**: the place noted last and the marks. -/
structure Trail where
  noted : Nat
  marks : Marks
  deriving DecidableEq, Repr

/-- Notes a place. -/
def Trail.note (t : Trail) (place : Nat) : Trail := { t with noted := place }

/-- Sets a mark. -/
def Trail.put (t : Trail) (index place : Nat) : Trail := { t with marks := t.marks.put index place }

/-- Gives up what was tried since `before`, inside a repetition or outside. -/
def Trail.giveUp (t : Trail) (inside : Bool) (before : Marks) : Trail :=
  { t with marks := if inside then before else t.marks.forget before }

/-- A mark that was set is there. -/
theorem Marks.getElem?_put (marks : Marks) (index place : Nat) :
    (marks.put index place)[index]? = some (some place) := by
  unfold Marks.put
  split
  · simp_all
  · rename_i h
    have hn : marks.length + (index - marks.length) = index := by omega
    rw [List.getElem?_append_right (by simp; omega)]
    simp [hn]

end Taxonomy.Regex
