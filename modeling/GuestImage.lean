import GuestImage.Action
import GuestImage.Allocation
import GuestImage.Cbor.Decoder
import GuestImage.Cbor.Item
import GuestImage.Command.Line
import GuestImage.Command.Pipe
import GuestImage.Command.Runner
import GuestImage.Failure.Basic
import GuestImage.Failure.Context
import GuestImage.FileSystem.Basic
import GuestImage.FileSystem.Listing
import GuestImage.FileSystem.Lookup
import GuestImage.FileSystem.Operations
import GuestImage.Image
import GuestImage.Json.Parser
import GuestImage.Json.Printer
import GuestImage.Json.Value
import GuestImage.Log
import GuestImage.Log.Export
import GuestImage.LoopDevice
import GuestImage.NameResolution
import GuestImage.Path
import GuestImage.Population
import GuestImage.Proofs.Annotating
import GuestImage.Proofs.Announcing
import GuestImage.Proofs.Blaming
import GuestImage.Proofs.Building
import GuestImage.Proofs.Calls
import GuestImage.Proofs.Carrying
import GuestImage.Proofs.Cbor
import GuestImage.Proofs.Clearing
import GuestImage.Proofs.Confinement
import GuestImage.Proofs.Course
import GuestImage.Proofs.Cutting
import GuestImage.Proofs.Directories
import GuestImage.Proofs.Enclosure
import GuestImage.Proofs.Ending
import GuestImage.Proofs.Estimating
import GuestImage.Proofs.Exports
import GuestImage.Proofs.Extracting
import GuestImage.Proofs.Feeding
import GuestImage.Proofs.Following
import GuestImage.Proofs.GuestView
import GuestImage.Proofs.Hindering
import GuestImage.Proofs.Json
import GuestImage.Proofs.Keeping
import GuestImage.Proofs.LeastSize
import GuestImage.Proofs.Leaving
import GuestImage.Proofs.LinkFree
import GuestImage.Proofs.Linking
import GuestImage.Proofs.LogLines
import GuestImage.Proofs.Lookup
import GuestImage.Proofs.Making
import GuestImage.Proofs.MountTable
import GuestImage.Proofs.Mounting
import GuestImage.Proofs.Moves
import GuestImage.Proofs.Naming
import GuestImage.Proofs.Pairing
import GuestImage.Proofs.Parallel
import GuestImage.Proofs.Preflight
import GuestImage.Proofs.Records
import GuestImage.Proofs.Refusing
import GuestImage.Proofs.Repeating
import GuestImage.Proofs.Replacing
import GuestImage.Proofs.Reporting
import GuestImage.Proofs.Retracing
import GuestImage.Proofs.Sequence
import GuestImage.Proofs.Settling
import GuestImage.Proofs.Sizes
import GuestImage.Proofs.Spelling
import GuestImage.Proofs.Stages
import GuestImage.Proofs.Surfacing
import GuestImage.Proofs.Tokens
import GuestImage.Proofs.Transcribing
import GuestImage.Proofs.Unwinding
import GuestImage.Proofs.Utf8
import GuestImage.Provisioning
import GuestImage.Rehearsal.Fixture
import GuestImage.Rehearsal.Script
import GuestImage.Rehearsal.ScriptedHost
import GuestImage.Rehearsal.Shell.Arithmetic
import GuestImage.Rehearsal.Shell.Builtin.Basic
import GuestImage.Rehearsal.Shell.Builtin.Printing
import GuestImage.Rehearsal.Shell.Builtin.Process
import GuestImage.Rehearsal.Shell.Builtin.Variables
import GuestImage.Rehearsal.Shell.Condition
import GuestImage.Rehearsal.Shell.Expansion
import GuestImage.Rehearsal.Shell.Files
import GuestImage.Rehearsal.Shell.Finding
import GuestImage.Rehearsal.Shell.Format
import GuestImage.Rehearsal.Shell.Grammar
import GuestImage.Rehearsal.Shell.Host
import GuestImage.Rehearsal.Shell.Interpreter
import GuestImage.Rehearsal.Shell.Numeral
import GuestImage.Rehearsal.Shell.Octets
import GuestImage.Rehearsal.Shell.Pattern
import GuestImage.Rehearsal.Shell.Program
import GuestImage.Rehearsal.Shell.Program.Counting
import GuestImage.Rehearsal.Shell.Program.Lines
import GuestImage.Rehearsal.Shell.Program.Quoting
import GuestImage.Rehearsal.Shell.Program.Showing
import GuestImage.Rehearsal.Shell.Program.Small
import GuestImage.Rehearsal.Shell.Program.Usage
import GuestImage.Rehearsal.Shell.Redirecting
import GuestImage.Rehearsal.Shell.Setting
import GuestImage.Rehearsal.Shell.Signal
import GuestImage.Rehearsal.Shell.Source
import GuestImage.Rehearsal.Shell.State
import GuestImage.Rehearsal.Shell.Syntax
import GuestImage.Rehearsal.Shell.WordReader
import GuestImage.Release
import GuestImage.Report
import GuestImage.Report.Export
import GuestImage.Report.TrailingNumber
import GuestImage.Run
import GuestImage.Settings
import GuestImage.Sha256
import GuestImage.Shrinking
import GuestImage.Sizing
import GuestImage.Source
import GuestImage.Text.Blank
import GuestImage.Text.Columns
import GuestImage.Text.Decimal
import GuestImage.Text.Lines
import GuestImage.Text.Occurrence
import GuestImage.Text.Printable
import GuestImage.Text.Punctuation
import GuestImage.Text.Quoted
import GuestImage.Text.Ranges
import GuestImage.Text.Utf8
import GuestImage.Tool
import GuestImage.Unpacking
