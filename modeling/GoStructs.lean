import GoStructs.Structs.Extract
import GoStructs.Structs.Written
import GoStructs.Json.Reader
import GoStructs.Proofs.Source.Places
import GoStructs.Proofs.Syntax.Pieces
import GoStructs.Proofs.Syntax.Reads
import GoStructs.Proofs.Syntax.Proper
import GoStructs.Proofs.Syntax.Faults
import GoStructs.Proofs.Syntax.Layout
import GoStructs.Proofs.Syntax.Forms
import GoStructs.Proofs.Syntax.Shapes
import GoStructs.Proofs.Syntax.Formed
import GoStructs.Proofs.Structs.Table
import GoStructs.Proofs.Source.Bytes
import GoStructs.Proofs.Structs.Specs
import GoStructs.Proofs.Structs.SourceOrder
import GoStructs.Proofs.Structs.Fields
import GoStructs.Proofs.Structs.Locations
import GoStructs.Proofs.Structs.Lookup
import GoStructs.Proofs.World.Steps
import GoStructs.Proofs.World.Walks
import GoStructs.Proofs.Import.Detours
import GoStructs.Proofs.Config.Layers
import GoStructs.Proofs.Import.Spellings
import GoStructs.Proofs.Structs.Relocation
import GoStructs.Proofs.Structs.RelativePaths
import GoStructs.Proofs.Syntax.Keeps
import GoStructs.Proofs.Syntax.Coverage
import GoStructs.Proofs.Structs.Documentation
import GoStructs.Proofs.Config.Provenance
import GoStructs.Proofs.Import.Rules
import GoStructs.Proofs.Json.Records
import GoStructs.Proofs.Structs.RoundTrip
import GoStructs.Proofs.Structs.ProjectTree
import GoStructs.Proofs.Structs.Outcomes
import GoStructs.Proofs.Structs.CommentBlocks
import GoStructs.Proofs.Structs.Definitions
import GoStructs.Proofs.Structs.Anchors
import GoStructs.Proofs.World.Visits
import GoStructs.Proofs.Config.Detours
import GoStructs.Proofs.World.Changes
import GoStructs.Proofs.Import.ModuleFiles
import GoStructs.Proofs.Import.Subdirectories
import GoStructs.Proofs.Import.Workspaces
import GoStructs.Proofs.Structs.Reordering
import GoStructs.Proofs.Structs.EmbeddedMembers
import GoStructs.Proofs.Import.Segments
import GoStructs.Proofs.Syntax.Preorder
import GoStructs.Proofs.Syntax.Search
import GoStructs.Proofs.Text.Trimming
import GoStructs.Proofs.Import.Directives
import GoStructs.Proofs.Structs.ReadTables
