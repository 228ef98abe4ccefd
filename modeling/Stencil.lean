import Stencil.Log
import Stencil.Path
import Stencil.Record
import Stencil.Report
import Stencil.CommandLine.Program
import Stencil.Main
import Stencil.FileTree.Edit
import Stencil.FileTree.Session
import Stencil.Proofs.Expansion.WholeText
import Stencil.Proofs.Plan.Destinations
import Stencil.Proofs.Generation.LastWriter
import Stencil.Proofs.Generation.Replay
import Stencil.Proofs.Generation.Templates
import Stencil.Proofs.Expansion.OwnTemplate
import Stencil.Proofs.FileTree.Faults
import Stencil.Proofs.Expansion.Failing
import Stencil.Proofs.Generation.Preview
import Stencil.Proofs.Generation.Refusal
import Stencil.Proofs.Log
import Stencil.Proofs.Generation.Ending
import Stencil.Proofs.Toml.Document
import Stencil.Proofs.Toml.Distinct
import Stencil.Proofs.Descriptor.Keys
import Stencil.Proofs.FileTree.Alike
import Stencil.Proofs.Generation.Alone
import Stencil.Proofs.Generation.Order
import Stencil.Proofs.Toml.Quoted
import Stencil.Proofs.Toml.Inline
import Stencil.Proofs.Toml.Lines
import Stencil.Proofs.Descriptor.RoundTrip
import Stencil.Proofs.Substitution.Tokens
import Stencil.Proofs.Substitution.Scan
import Stencil.Proofs.Substitution.Completeness
import Stencil.Proofs.Substitution.Slots
import Stencil.Proofs.Expansion.LineEndings
import Stencil.Proofs.Expansion.PartialText
import Stencil.Proofs.Descriptor.Verdict
import Stencil.Proofs.Plan.Product
import Stencil.Proofs.Plan.Collisions
import Stencil.Proofs.Text.Position
import Stencil.Proofs.FileName
import Stencil.Proofs.Text.DisplayLines
import Stencil.Proofs.Report
import Stencil.Proofs.FileTree.Spellings
import Stencil.Proofs.Generation.LaterJob
import Stencil.Proofs.CommandLine.Wording
import Stencil.Proofs.CommandLine.Verbosity
import Stencil.Proofs.Descriptor.Messages
import Stencil.Proofs.Substitution.Overlap
