import Interpolation.Atoms
import Interpolation.Catalog
import Interpolation.Catalog.References
import Interpolation.Codec.Entity
import Interpolation.Codec.Expression
import Interpolation.Codec.Reference
import Interpolation.Command.Arguments
import Interpolation.Command.Run
import Interpolation.Composition
import Interpolation.Comprehension
import Interpolation.Entity
import Interpolation.Expression
import Interpolation.Failure
import Interpolation.Files.Documents
import Interpolation.Files.Path
import Interpolation.Files.Tree
import Interpolation.Identifier
import Interpolation.Json.Basic
import Interpolation.Json.Number
import Interpolation.Json.Reader
import Interpolation.Json.Record
import Interpolation.Json.Writer
import Interpolation.Main
import Interpolation.Marker
import Interpolation.Reference
import Interpolation.Resolver
import Interpolation.Settings
import Interpolation.Text.Basic
import Interpolation.Text.Characters
import Interpolation.Proofs.Layout
import Interpolation.Proofs.Scanning
import Interpolation.Proofs.Anchoring
import Interpolation.Proofs.Gaps
import Interpolation.Proofs.Arrangement
import Interpolation.Proofs.Trimming
import Interpolation.Proofs.Parts
import Interpolation.Proofs.Templates
import Interpolation.Proofs.Braces
import Interpolation.Proofs.Remainders
import Interpolation.Proofs.Placement
import Interpolation.Proofs.Sweep
import Interpolation.Proofs.Matching
import Interpolation.Proofs.Targets
import Interpolation.Proofs.Outcomes
import Interpolation.Proofs.Splicing
import Interpolation.Proofs.Words
import Interpolation.Proofs.Narrowing
import Interpolation.Proofs.Segments
import Interpolation.Proofs.Independence
import Interpolation.Proofs.Naming
import Interpolation.Proofs.Identifiers
import Interpolation.Proofs.Chains
import Interpolation.Proofs.Paths
import Interpolation.Proofs.Trees
import Interpolation.Proofs.Saving
import Interpolation.Proofs.Scalars
import Interpolation.Proofs.Spelling
import Interpolation.Proofs.Nesting
import Interpolation.Proofs.RoundTrip
import Interpolation.Proofs.Partition
import Interpolation.Proofs.Isolation
import Interpolation.Proofs.Durability
import Interpolation.Proofs.Batches
import Interpolation.Proofs.Commands
import Interpolation.Proofs.Catalogs
import Interpolation.Proofs.Positions
