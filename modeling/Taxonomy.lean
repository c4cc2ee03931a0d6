import Taxonomy.Main
import Taxonomy.Session
import Taxonomy.Command.Named
import Taxonomy.Proofs.Catalog
import Taxonomy.Proofs.Inheritance.Walk
import Taxonomy.Proofs.Inheritance.Coherence
import Taxonomy.Proofs.Inheritance.Settling
import Taxonomy.Proofs.Inheritance.Growth
import Taxonomy.Proofs.Registry.Registering
import Taxonomy.Proofs.Registry.Extending
import Taxonomy.Proofs.Registry.Releasing
import Taxonomy.Proofs.Registry.Resolving
import Taxonomy.Proofs.Registry.Soundness
import Taxonomy.Proofs.Registry.History
import Taxonomy.Proofs.Registry.Views
import Taxonomy.Proofs.Draft
import Taxonomy.Proofs.Registry.Extensions
import Taxonomy.Proofs.Inheritance.Parents
import Taxonomy.Proofs.Inheritance.Circles
import Taxonomy.Proofs.Registry.Resolution
import Taxonomy.Proofs.Registry.Diagnosing
import Taxonomy.Proofs.Registry.Marking
import Taxonomy.Proofs.Registry.Bystanders
import Taxonomy.Proofs.Registry.LoadOrder
import Taxonomy.Proofs.Registry.Loading
import Taxonomy.Proofs.Placement.Probing
import Taxonomy.Proofs.Placement.Scan
import Taxonomy.Proofs.Placement.Currency
import Taxonomy.Proofs.Placement.Governing
import Taxonomy.Proofs.Placement.Ruling
import Taxonomy.Proofs.Registry.Holdings
import Taxonomy.Proofs.Registry.Steady
import Taxonomy.Proofs.Registry.Refusing
import Taxonomy.Proofs.Registry.Constraining
import Taxonomy.Proofs.Registry.Erasing
import Taxonomy.Proofs.Registry.Surviving
import Taxonomy.Proofs.Registry.Queueing
import Taxonomy.Proofs.Provider.Confined
import Taxonomy.Proofs.Provider.Script
import Taxonomy.Proofs.Provider.Order
import Taxonomy.Proofs.Provider.Rollback
import Taxonomy.Proofs.Provider.Greedy
import Taxonomy.Proofs.Provider.Countdown
import Taxonomy.Proofs.Provider.Cycles
import Taxonomy.Proofs.Provider.Failing
import Taxonomy.Proofs.Registry.ConstraintIds
import Taxonomy.Proofs.Constraint.Making
import Taxonomy.Proofs.Constraint.Inheriting
import Taxonomy.Proofs.Constraint.Appending
import Taxonomy.Proofs.Constraint.Narrowing
import Taxonomy.Proofs.Constraint.Judging
import Taxonomy.Proofs.Placement.Listing
import Taxonomy.Proofs.Constraint.Verdicts
import Taxonomy.Proofs.Constraint.Schema
import Taxonomy.Proofs.Number.Numerals
import Taxonomy.Proofs.Constraint.Spelling
import Taxonomy.Proofs.Number.Decimals
import Taxonomy.Proofs.Constraint.Interval
import Taxonomy.Proofs.Placement.Attributes
import Taxonomy.Proofs.Registry.ConstraintHistory
import Taxonomy.Proofs.Constraint.Reporting
import Taxonomy.Proofs.Registry.ScopeNames
import Taxonomy.Proofs.TypeId.Names
import Taxonomy.Proofs.Registry.Copying
import Taxonomy.Proofs.Inheritance.Rounds
import Taxonomy.Proofs.Inheritance.Candidates
import Taxonomy.Proofs.Merging
