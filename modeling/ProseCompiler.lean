import ProseCompiler.Main
import ProseCompiler.Proofs.Watch.History
import ProseCompiler.Proofs.Watch.Ledger
import ProseCompiler.Proofs.Watch.Bookkeeping
import ProseCompiler.Proofs.Watch.Delivery
import ProseCompiler.Proofs.Files.Path
import ProseCompiler.Proofs.Files.Tree
import ProseCompiler.Proofs.Encoding.Utf8
import ProseCompiler.Proofs.Files.Lookup
import ProseCompiler.Proofs.Files.Directories
import ProseCompiler.Proofs.Files.Writing
import ProseCompiler.Proofs.Document.Target
import ProseCompiler.Proofs.Pipeline.Course
import ProseCompiler.Proofs.Service.Answer
import ProseCompiler.Proofs.Pipeline.Failure
import ProseCompiler.Proofs.Pipeline.Success
import ProseCompiler.Proofs.Watch.Intake
import ProseCompiler.Proofs.Watch.Slots
import ProseCompiler.Proofs.Watch.Turns
import ProseCompiler.Proofs.Watch.Coalescing
import ProseCompiler.Proofs.Files.LinkFree
import ProseCompiler.Proofs.Pipeline.Outcomes
import ProseCompiler.Proofs.Files.PlainDirectories
import ProseCompiler.Proofs.Files.Undisturbed
import ProseCompiler.Proofs.Pipeline.Replay
import ProseCompiler.Proofs.Pipeline.Independence
import ProseCompiler.Proofs.Watch.Stopping
import ProseCompiler.Proofs.Json.RoundTrip
import ProseCompiler.Proofs.Pipeline.Transmission
import ProseCompiler.Proofs.Pipeline.Source
import ProseCompiler.Proofs.Json.Limits
import ProseCompiler.Proofs.Service.Classification
import ProseCompiler.Proofs.Watch.Indifference
import ProseCompiler.Proofs.Config.Layers
import ProseCompiler.Proofs.Config.Precedence
import ProseCompiler.Proofs.Files.Unlinked
import ProseCompiler.Proofs.Text.Case
import ProseCompiler.Proofs.Document.Scaffold
import ProseCompiler.Proofs.CommandLine.ExitStatus
import ProseCompiler.Proofs.Pipeline.Credentials
import ProseCompiler.Proofs.Files.Rewritten
import ProseCompiler.Proofs.Pipeline.LineEnds
import ProseCompiler.Proofs.Pipeline.Stages
import ProseCompiler.Proofs.Files.Names
import ProseCompiler.Proofs.Watch.Origins
import ProseCompiler.Proofs.CommandLine.Acceptance
import ProseCompiler.Proofs.Document.Header
import ProseCompiler.Proofs.Log.Delivery
import ProseCompiler.Proofs.CommandLine.Sending
import ProseCompiler.Proofs.Config.Loading
import ProseCompiler.Proofs.Watch.Starting
import ProseCompiler.Proofs.Files.Patterns
import ProseCompiler.Proofs.Files.Search
import ProseCompiler.Proofs.Watch.Scanning
import ProseCompiler.Proofs.Watch.Draining
import ProseCompiler.Proofs.Service.Extraction
import ProseCompiler.Proofs.Config.Overlay
import ProseCompiler.Proofs.Document.Refusal
import ProseCompiler.Proofs.Files.Relative
import ProseCompiler.Proofs.Watch.Notifications
import ProseCompiler.Proofs.Files.Providing
import ProseCompiler.Proofs.Document.Creation
import ProseCompiler.Proofs.Document.Leftover
import ProseCompiler.Proofs.Document.Naming
import ProseCompiler.Proofs.Document.LineEnds
import ProseCompiler.Proofs.Log.Core
