import JavaTypes.Handle
import JavaTypes.Limits.Document
import JavaTypes.Pattern
import JavaTypes.Snapshot.Decode
import JavaTypes.Store.Operation
import JavaTypes.Store.Standard
import JavaTypes.View
import JavaTypes.Text.Category
import JavaTypes.Text.Property
import JavaTypes.Pattern.Expression
import JavaTypes.Pattern.Footprint
import JavaTypes.Pattern.Meaning
import JavaTypes.Proofs.Settings
import JavaTypes.Proofs.Run
import JavaTypes.Proofs.Budget
import JavaTypes.Proofs.Enclosure
import JavaTypes.Proofs.Causes
import JavaTypes.Proofs.Decision
import JavaTypes.Proofs.Truth
import JavaTypes.Proofs.Sameness
import JavaTypes.Proofs.Reachability
import JavaTypes.Proofs.Assignment
import JavaTypes.Proofs.Matching
import JavaTypes.Proofs.Equivalence
import JavaTypes.Proofs.FlagText
import JavaTypes.Proofs.Snapshot
import JavaTypes.Proofs.Building
import JavaTypes.Proofs.Coherence
import JavaTypes.Proofs.Restoration
import JavaTypes.Proofs.Registration
import JavaTypes.Proofs.Interning
import JavaTypes.Proofs.Candidates
import JavaTypes.Proofs.Overriding
import JavaTypes.Proofs.Naming
import JavaTypes.Proofs.Subtyping
import JavaTypes.Proofs.Accuracy
import JavaTypes.Proofs.Growth
import JavaTypes.Proofs.Persistence
import JavaTypes.Proofs.Hiding
import JavaTypes.Proofs.Inference
import JavaTypes.Proofs.Ground
import JavaTypes.Proofs.NameSearch
import JavaTypes.Proofs.Renaming
import JavaTypes.Proofs.Anonymity
import JavaTypes.Proofs.Equivariance
import JavaTypes.Proofs.Walking
import JavaTypes.Proofs.DepthFirst
import JavaTypes.Proofs.Inquiries
import JavaTypes.Proofs.NameTests
import JavaTypes.Proofs.Lookup
import JavaTypes.Proofs.Carrying
import JavaTypes.Proofs.WellFormedness
import JavaTypes.Proofs.RootClass
import JavaTypes.Proofs.TypeArguments
import JavaTypes.Proofs.Wildcards
import JavaTypes.Proofs.Intersections
import JavaTypes.Proofs.Standing
import JavaTypes.Proofs.Rendering
import JavaTypes.Proofs.Brackets
import JavaTypes.Proofs.SourceForm
import JavaTypes.Proofs.Stability
import JavaTypes.Proofs.Awaiting
import JavaTypes.Proofs.Reservation
import JavaTypes.Proofs.Balance
import JavaTypes.Proofs.Recording
import JavaTypes.Proofs.Spelling
import JavaTypes.Proofs.Respelling
import JavaTypes.Proofs.WholeNames
import JavaTypes.Proofs.Chains
import JavaTypes.Proofs.Unwrapping
import JavaTypes.Proofs.Packages
