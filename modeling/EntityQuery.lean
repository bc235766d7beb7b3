import EntityQuery.Catalog.Directory
import EntityQuery.Catalog.Inheritance
import EntityQuery.Json.Reader
import EntityQuery.Query
import EntityQuery.Settings.File
import EntityQuery.Statement.Codec
import EntityQuery.Proofs.Buffer.Splice
import EntityQuery.Proofs.Blindness.Noninterference
import EntityQuery.Proofs.Composite.Comparison
import EntityQuery.Proofs.Scoping.Statement
import EntityQuery.Proofs.Logic.Connectives
import EntityQuery.Proofs.Logic.Literals
import EntityQuery.Proofs.Logic.Membership
import EntityQuery.Proofs.Joins.Traversal
import EntityQuery.Proofs.Outer.Statement
import EntityQuery.Proofs.Renaming.Invariance
import EntityQuery.Proofs.Lists.Separators
import EntityQuery.Proofs.Results.Entities
import EntityQuery.Proofs.Results.Fetches
import EntityQuery.Proofs.Results.Labels
import EntityQuery.Proofs.Faults.Absence
import EntityQuery.Proofs.Mapping.Modes
import EntityQuery.Proofs.Mapping.Order
import EntityQuery.Proofs.Mapping.Chains
import EntityQuery.Proofs.Mapping.Discriminators
import EntityQuery.Proofs.Naming.Aliases
import EntityQuery.Proofs.Naming.Quoting
import EntityQuery.Proofs.Naming.Scopes
import EntityQuery.Proofs.Wording.Bindings
import EntityQuery.Proofs.Wording.Directives
import EntityQuery.Proofs.Correlation.Dismissal
import EntityQuery.Proofs.Correlation.Links
import EntityQuery.Proofs.Codec.Mapping
import EntityQuery.Proofs.Codec.Statement
