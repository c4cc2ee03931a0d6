import Taxonomy.Regex.Basic

/-!
# Choices

What all choices begin with is taken out of them, and a choice among single characters is a set of
characters.

* `Regex.choice`: the expressions, one after another, that a choice comes down to.
-/

namespace Taxonomy.Regex

/-- **Are two parts of a choice plainly the same?** Groups and what has a body are not. -/
def isSamePart : Regex → Regex → Bool
  | .code _ negated n, .code _ negated' n' => negated == negated' && n == n'
  | .any _, .any _ => true
  | .set _ negated items, .set _ negated' items' => negated == negated' && items == items'
  | .anchor _ place, .anchor _ place' => place == place'
  | .backref _ index _ _, .backref _ index' _ _ => index == index'
  | _, _ => false

/-- **What all choices begin with**, and what is left of the first choice and of the others. -/
def sharedStart : List Regex → List (List Regex) → List Regex × List Regex × List (List Regex)
  | [], others => ([], [], others)
  | r :: rs, others =>
    if others.all fun o => o.head?.any (isSamePart r) then
      let (shared, first, others) := sharedStart rs (others.map List.tail)
      (r :: shared, first, others)
    else ([], r :: rs, others)

/-- The members of the set that a choice stands for by itself. -/
def memberItems? : List Regex → Option (RegexMode × List SetItem)
  | [.code mode false n] => some (mode, [.code n])
  | [.set mode false items] => some (mode, items)
  | _ => none

/-- **A choice**: what all choices begin with, and the choice among the rest. -/
def choice : List (List Regex) → List Regex
  | [] => []
  | first :: others =>
    let (shared, first, others) := sharedStart first others
    let rest := first :: others
    shared ++ [match rest.mapM memberItems? with
      | some ((mode, items) :: more) =>
        .set mode false (items ++ more.flatMap Prod.snd).eraseDups
      | _ => .alt (rest.map .seq)]

/-- All that the choices begin with was taken from the first one. -/
theorem sharedStart_append (first : List Regex) (others : List (List Regex)) :
    (sharedStart first others).1 ++ (sharedStart first others).2.1 = first := by
  induction first generalizing others with
  | nil => rfl
  | cons r rs ih =>
    rw [sharedStart]
    split
    · simpa using ih (others.map List.tail)
    · rfl

end Taxonomy.Regex
