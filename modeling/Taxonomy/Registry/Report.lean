import Taxonomy.Registry.Problem

/-!
# Bootstrap reports

What came of loading providers into a registry.
-/

namespace Taxonomy

/-- **What came of loading providers**: the order they were taken in, those that loaded, those
that failed with the reason, those that were left out, and the state of inheritance afterwards. -/
structure BootstrapReport where
  order : List String := []
  loaded : List String := []
  failed : List (String × String) := []
  skipped : List String := []
  resolved : Nat := 0
  unresolved : List Problem := []
  deriving DecidableEq, Repr, Inhabited

namespace BootstrapReport

variable (r : BootstrapReport)

/-- Did nothing fail, and is everything resolved? -/
def ok : Bool := r.failed.isEmpty && r.unresolved.isEmpty

/-- The report in one line. -/
def summary : String :=
  Fault.row ([s!"{r.loaded.length} provider(s) loaded"] ++
    (if r.failed.isEmpty then []
      else [s!"{r.failed.length} failed ({Fault.row (sortTexts (r.failed.map Prod.fst))})"]) ++
    (if r.skipped.isEmpty then [] else [s!"{r.skipped.length} disabled"]) ++
    [s!"{r.resolved} deferred type(s) resolved"] ++
    if r.unresolved.isEmpty then [] else [s!"{r.unresolved.length} unresolved"])

end BootstrapReport

end Taxonomy
