import ExportTrail.Complaint
import ExportTrail.Cursor
import ExportTrail.Dialect
import ExportTrail.Export
import ExportTrail.Failure
import ExportTrail.Import
import ExportTrail.Json
import ExportTrail.Locator
import ExportTrail.Locator.Regular
import ExportTrail.Locator.Specifier
import ExportTrail.Log
import ExportTrail.Node
import ExportTrail.Number
import ExportTrail.Options
import ExportTrail.Parsing
import ExportTrail.Path
import ExportTrail.Search
import ExportTrail.Search.Recursive
import ExportTrail.Session
import ExportTrail.Settings
import ExportTrail.Settings.DotEnv
import ExportTrail.Settings.Variables
import ExportTrail.Text.Blank
import ExportTrail.Text.Capital
import ExportTrail.Text.Hex
import ExportTrail.Text.Listing
import ExportTrail.Text.Newline
import ExportTrail.Text.Numeral
import ExportTrail.Text.Printable
import ExportTrail.Text.Quoted
import ExportTrail.Text.Split
import ExportTrail.Text.Utf8
import ExportTrail.Traversal
import ExportTrail.Tree
import ExportTrail.Value
import ExportTrail.Workspace
import ExportTrail.World
import ExportTrail.World.Canonical
import ExportTrail.World.Change
import ExportTrail.World.Walk
import ExportTrail.Proofs.Export.Agenda
import ExportTrail.Proofs.Parse.Options
import ExportTrail.Proofs.Parse.Serial
import ExportTrail.Proofs.Search.Books
import ExportTrail.Proofs.Search.Reach
import ExportTrail.Proofs.Search.Recursion
import ExportTrail.Proofs.Search.Soundness
import ExportTrail.Proofs.Search.Wildcards
import ExportTrail.Proofs.Session.Series
import ExportTrail.Proofs.Session.Default
import ExportTrail.Proofs.Search.Stack
import ExportTrail.Proofs.Search.Cap
import ExportTrail.Proofs.Parse.Inside
import ExportTrail.Proofs.Parse.Prune
import ExportTrail.Proofs.Search.Provenance
import ExportTrail.Proofs.Search.Survey
import ExportTrail.Proofs.Search.Surveyed
import ExportTrail.Proofs.Search.Revisit
import ExportTrail.Proofs.World.Canonical
import ExportTrail.Proofs.World.Linkless
import ExportTrail.Proofs.World.Resolves
import ExportTrail.Proofs.Locator.Stems
import ExportTrail.Proofs.Locator.Confined
import ExportTrail.Proofs.Locator.Faults
import ExportTrail.Proofs.Locator.Order
import ExportTrail.Proofs.Search.Met
import ExportTrail.Proofs.Search.Route
import ExportTrail.Proofs.Search.Blame
import ExportTrail.Proofs.Search.Lockstep
import ExportTrail.Proofs.Search.Identity
import ExportTrail.Proofs.Export.Gathered
import ExportTrail.Proofs.Export.Erased
import ExportTrail.Proofs.Search.Erased
import ExportTrail.Proofs.Search.Inert
import ExportTrail.Proofs.Traversal.Recursion
import ExportTrail.Proofs.Export.Contribution
import ExportTrail.Proofs.Search.Dialogue
import ExportTrail.Proofs.Parse.Acceptance
import ExportTrail.Proofs.Search.Unflagged
import ExportTrail.Proofs.Export.Bindings
import ExportTrail.Proofs.Search.Bindings
import ExportTrail.Proofs.Locator.Hops
import ExportTrail.Proofs.Session.Settings
import ExportTrail.Proofs.Text.Listing
import ExportTrail.Proofs.Parse.Navigation
import ExportTrail.Proofs.Text.Utf8
import ExportTrail.Proofs.Parse.Snippet
import ExportTrail.Proofs.Settings.Notations
