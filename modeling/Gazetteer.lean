import Gazetteer.Text.Pieces
import Gazetteer.Text.Fold
import Gazetteer.Text.Quoted
import Gazetteer.Number.Numeral
import Gazetteer.Number.Shortest
import Gazetteer.Ordered.Map
import Gazetteer.Ordered.Set
import Gazetteer.Json.Printer
import Gazetteer.Json.Record
import Gazetteer.Lookup.Similar
import Gazetteer.Lookup.Target
import Gazetteer.Category.Rule
import Gazetteer.Area.Inference
import Gazetteer.Glob.Match
import Gazetteer.ProjectMap
import Gazetteer.Hint.Recovery
import Gazetteer.Disk.Record
import Gazetteer.Scan.Walk
import Gazetteer.Cache.Meta
import Gazetteer.Cache.Graph
import Gazetteer.Cache.Artifact
import Gazetteer.Cache.Gate
import Gazetteer.Command.Response
import Gazetteer.Command.Handler
import Gazetteer.CommandLine.Run
import Gazetteer.Main
import Gazetteer.Proofs.Cache.Pairing
import Gazetteer.Proofs.Area.Reference
import Gazetteer.Proofs.Area.Relation
import Gazetteer.Proofs.Area.Spelling
import Gazetteer.Proofs.Hint.Rendering
import Gazetteer.Proofs.Command.NextSteps
import Gazetteer.Proofs.Command.Opening
import Gazetteer.Proofs.Cache.Fingerprint
import Gazetteer.Proofs.Scan.Files
import Gazetteer.Proofs.Cache.Coherence
import Gazetteer.Proofs.Disk.Patch
import Gazetteer.Proofs.Scan.Plain
import Gazetteer.Proofs.Cache.Edit
import Gazetteer.Proofs.Cache.Interruption
import Gazetteer.Proofs.Cache.Invalidation
import Gazetteer.Proofs.Command.Listing
import Gazetteer.Proofs.Command.Answering
import Gazetteer.Proofs.Command.Finding
import Gazetteer.Proofs.Command.Transparency
import Gazetteer.Proofs.Command.Settings
import Gazetteer.Proofs.Cache.Bookkeeping
import Gazetteer.Proofs.Hint.Suggestion
import Gazetteer.Proofs.Command.Output
import Gazetteer.Proofs.Cache.Shelf
import Gazetteer.Proofs.Cache.FingerprintText
import Gazetteer.Proofs.Hint.Choice
import Gazetteer.Proofs.Lookup.Containment
import Gazetteer.Proofs.Cache.Clearing
import Gazetteer.Proofs.Category.Spelling
import Gazetteer.Proofs.Category.HookName
import Gazetteer.Proofs.Category.RoleName
import Gazetteer.Proofs.Area.Inferred
import Gazetteer.Proofs.Area.Referent
import Gazetteer.Proofs.Cache.Importing
import Gazetteer.Proofs.Hint.Substitution
import Gazetteer.Proofs.Text.CodePoint
import Gazetteer.Proofs.Text.Refolding
import Gazetteer.Proofs.Area.Refolding
import Gazetteer.Proofs.Disk.Visiting
import Gazetteer.Proofs.Disk.Atomic
import Gazetteer.Proofs.Cache.Atomicity
