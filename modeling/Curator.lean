import Curator.Main
import Curator.Proofs.Lifecycle.Operations
import Curator.Proofs.Model.Removing
import Curator.Proofs.Model.Overwriting
import Curator.Proofs.Model.Uniqueness
import Curator.Proofs.Plan.Parameters
import Curator.Proofs.Plan.Where
import Curator.Service
import Curator.Proofs.Lifecycle.Visibility
import Curator.Proofs.Event.Deeds
import Curator.Proofs.Model.Notifications
import Curator.Proofs.Model.WrittenKey
import Curator.Proofs.Model.Conflict
import Curator.Proofs.Model.Upserting
import Curator.Proofs.Text.Integers
import Curator.Proofs.Request.Expanding
import Curator.Proofs.Request.Reading
import Curator.Proofs.Text.Names
import Curator.Proofs.Schema.Declared
import Curator.Proofs.Plan.Refusals
import Curator.Proofs.Plan.Rendering
import Curator.Proofs.Plan.Planned
import Curator.Proofs.Plan.Exclusions
import Curator.Proofs.Plan.JoinOrder
import Curator.Proofs.Plan.Sources
import Curator.Proofs.Request.Tokens
import Curator.Proofs.Plan.Continued
import Curator.Proofs.Model.Walking
import Curator.Proofs.Model.Preceding
import Curator.Proofs.Model.Totals
import Curator.Proofs.Sql.Dialects
import Curator.Registry.Tables
import Curator.Proofs.Registry.Tables
import Curator.Proofs.Event.Announced
import Curator.Proofs.Model.Disposal
import Curator.Proofs.Hook.Touched
import Curator.Proofs.Transform.Applied
import Curator.Proofs.Model.Assigned
import Curator.Proofs.Model.Copying
import Curator.Proofs.Lifecycle.Parallel
import Curator.Proofs.Model.Omitted
import Curator.Proofs.Plan.Nesting
import Curator.Proofs.Database.Classified
import Curator.Proofs.Model.Naming
import Curator.Proofs.Metadata.Validation
import Curator.Proofs.Model.Merging
import Curator.Proofs.Sql.Matching
import Curator.Proofs.Model.Windows
import Curator.Proofs.Plan.Depth
import Curator.Proofs.Model.Labels
import Curator.Proofs.Request.Inline
import Curator.Proofs.Hook.Compounding
import Curator.Proofs.Event.Delivery
import Curator.Proofs.Model.Clearing
import Curator.Proofs.Model.Replaced
import Curator.Proofs.Plan.BottomUp
import Curator.Proofs.Transform.Refusals
import Curator.Proofs.Number.Sizes
import Curator.Proofs.Rules.Broken
import Curator.Proofs.Rules.Formats
import Curator.Proofs.Transform.Documents
import Curator.Proofs.Transform.Identifiers
import Curator.Proofs.Model.Stamped
import Curator.Proofs.Value.Pruned
import Curator.Proofs.Sql.Paths
import Curator.Proofs.Database.Deletions
import Curator.Proofs.Request.Offsets
import Curator.Proofs.Database.Writes
import Curator.Proofs.Transform.Slugs
import Curator.Proofs.Settings
