import ReplayGen.Main
import ReplayGen.Session
import ReplayGen.Proofs.Emission.Run
import ReplayGen.Proofs.Emission.Lines
import ReplayGen.Proofs.Text.Marks
import ReplayGen.Proofs.Text.Spelling
import ReplayGen.Proofs.Text.Distinctive
import ReplayGen.Proofs.Function.Building
import ReplayGen.Proofs.Replay.Unit
import ReplayGen.Proofs.Replay.Lines
import ReplayGen.Proofs.Replay.Ordinary
import ReplayGen.Proofs.GL.Lines
import ReplayGen.Proofs.GL.Layout
import ReplayGen.Proofs.GL.Distinctive
import ReplayGen.Proofs.GL.CallWrapper
import ReplayGen.Proofs.GL.LegacyGuard
import ReplayGen.Proofs.GL.BlobLines
import ReplayGen.Proofs.GL.Overrides
import ReplayGen.Proofs.GL.Conservative
import ReplayGen.Proofs.Emission.Depth
import ReplayGen.Proofs.Emission.Indentation
import ReplayGen.Proofs.Replay.File
import ReplayGen.Proofs.GL.Composition
import ReplayGen.Proofs.GL.Faultless
import ReplayGen.Proofs.GL.Indentation
import ReplayGen.Proofs.GL.FileLines
import ReplayGen.Proofs.GL.Table
import ReplayGen.Proofs.Function.Lettered
import ReplayGen.Proofs.Emission.Nesting
import ReplayGen.Proofs.Replay.Nesting
import ReplayGen.Proofs.GL.Nesting
import ReplayGen.Proofs.Emission.Faults
import ReplayGen.Proofs.Replay.Faults
import ReplayGen.Proofs.Emission.Code
import ReplayGen.Proofs.Emission.Paths
import ReplayGen.Proofs.Replay.GivingUp
import ReplayGen.Proofs.GL.GivingUp
import ReplayGen.Proofs.Text.Mentions
import ReplayGen.Proofs.Replay.Sections
import ReplayGen.Proofs.Replay.Passing
import ReplayGen.Proofs.GL.Sections
import ReplayGen.Proofs.Text.Respelling
import ReplayGen.Proofs.GL.Respelling
import ReplayGen.Proofs.Catalog.Validation
import ReplayGen.Proofs.Function.Steps
import ReplayGen.Proofs.Toml.Keyed
import ReplayGen.Proofs.Catalog.Records
import ReplayGen.Proofs.Catalog.Documents
import ReplayGen.Proofs.Catalog.Loading
import ReplayGen.Proofs.Replay.Events
import ReplayGen.Proofs.GL.Placeholders
import ReplayGen.Proofs.GL.Events
import ReplayGen.Proofs.Emission.Relative
import ReplayGen.Proofs.Replay.Sessions
import ReplayGen.Proofs.Command.Files
import ReplayGen.Proofs.Command.Generation
import ReplayGen.Proofs.Emission.Source
import ReplayGen.Proofs.Replay.Source
import ReplayGen.Proofs.GL.Source
import ReplayGen.Proofs.GL.Declarations
import ReplayGen.Proofs.GL.Scopes
import ReplayGen.Proofs.Kind.Raw
import ReplayGen.Proofs.Kind.Classification
import ReplayGen.Proofs.Kind.Elements
import ReplayGen.Proofs.Replay.Decoding
import ReplayGen.Proofs.Replay.Extraction
import ReplayGen.Proofs.Replay.Turns
import ReplayGen.Proofs.Function.Runs
import ReplayGen.Proofs.Command.RoleRecords
