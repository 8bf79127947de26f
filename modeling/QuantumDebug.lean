import QuantumDebug.Breakpoint.Armed
import QuantumDebug.Breakpoint.Basic
import QuantumDebug.Breakpoint.Resolver
import QuantumDebug.Client.Frame
import QuantumDebug.Client.Message
import QuantumDebug.Client.Request
import QuantumDebug.Client.Source
import QuantumDebug.CommandLine
import QuantumDebug.Config
import QuantumDebug.Console
import QuantumDebug.Engine.Basic
import QuantumDebug.Engine.Error
import QuantumDebug.Engine.Process
import QuantumDebug.Engine.Wire
import QuantumDebug.Inspector
import QuantumDebug.Json.Basic
import QuantumDebug.Json.Binary64
import QuantumDebug.Json.Decode
import QuantumDebug.Json.Parser
import QuantumDebug.Json.Printer
import QuantumDebug.Location
import QuantumDebug.Main
import QuantumDebug.Panel
import QuantumDebug.Program
import QuantumDebug.Proofs.Arming
import QuantumDebug.Proofs.Conversation
import QuantumDebug.Proofs.FileNames
import QuantumDebug.Proofs.Footprint
import QuantumDebug.Proofs.Goodbye
import QuantumDebug.Proofs.Logging
import QuantumDebug.Proofs.Matching
import QuantumDebug.Proofs.Nesting
import QuantumDebug.Proofs.Offset
import QuantumDebug.Proofs.Printing
import QuantumDebug.Proofs.Record
import QuantumDebug.Proofs.Replying
import QuantumDebug.Proofs.Serving
import QuantumDebug.Proofs.Session.Acknowledgement
import QuantumDebug.Proofs.Session.Announcements
import QuantumDebug.Proofs.Session.Answers
import QuantumDebug.Proofs.Session.Armed
import QuantumDebug.Proofs.Session.Calls
import QuantumDebug.Proofs.Session.Circuits
import QuantumDebug.Proofs.Session.Configuration
import QuantumDebug.Proofs.Session.Counting
import QuantumDebug.Proofs.Session.Deferral
import QuantumDebug.Proofs.Session.Ending
import QuantumDebug.Proofs.Session.Faults
import QuantumDebug.Proofs.Session.Inspection
import QuantumDebug.Proofs.Session.Launch
import QuantumDebug.Proofs.Session.Lifecycle
import QuantumDebug.Proofs.Session.Likeness
import QuantumDebug.Proofs.Session.Loading
import QuantumDebug.Proofs.Session.Memory
import QuantumDebug.Proofs.Session.Moves
import QuantumDebug.Proofs.Session.Noninterference
import QuantumDebug.Proofs.Session.Offering
import QuantumDebug.Proofs.Session.Outline
import QuantumDebug.Proofs.Session.Parts
import QuantumDebug.Proofs.Session.Programs
import QuantumDebug.Proofs.Session.Race
import QuantumDebug.Proofs.Session.Recall
import QuantumDebug.Proofs.Session.References
import QuantumDebug.Proofs.Session.Refusals
import QuantumDebug.Proofs.Session.Reloading
import QuantumDebug.Proofs.Session.Rendering
import QuantumDebug.Proofs.Session.Replies
import QuantumDebug.Proofs.Session.Retelling
import QuantumDebug.Proofs.Session.Revealing
import QuantumDebug.Proofs.Session.Runs
import QuantumDebug.Proofs.Session.Scripted
import QuantumDebug.Proofs.Session.Settled
import QuantumDebug.Proofs.Session.Shots
import QuantumDebug.Proofs.Session.Stack
import QuantumDebug.Proofs.Shots
import QuantumDebug.Proofs.Sources
import QuantumDebug.Proofs.Table
import QuantumDebug.Proofs.Waiting
import QuantumDebug.Proofs.Widening
import QuantumDebug.Server
import QuantumDebug.Session.Basic
import QuantumDebug.Session.Handle
import QuantumDebug.Session.Phase
import QuantumDebug.Shots
import QuantumDebug.SourceRegistry
import QuantumDebug.StepOutcome
import QuantumDebug.Surroundings
import QuantumDebug.Table
import QuantumDebug.Text.Alphanumeric
import QuantumDebug.Text.Blank
import QuantumDebug.Text.CharMap
import QuantumDebug.Text.CharSet
import QuantumDebug.Text.LineBreak
import QuantumDebug.Text.LineBreak.Class
import QuantumDebug.Text.Normal
import QuantumDebug.Text.Numeral
import QuantumDebug.Text.Quoted
import QuantumDebug.Text.Utf8
import QuantumDebug.Text.Width
import QuantumDebug.Text.Wrap
import QuantumDebug.Url.Basic
import QuantumDebug.Url.Domain
import QuantumDebug.Url.Host
import QuantumDebug.Url.Idna.Label
import QuantumDebug.Url.Idna.Mapping
import QuantumDebug.Url.Idna.Punycode
import QuantumDebug.Url.Parser
import QuantumDebug.Url.Percent
import QuantumDebug.Visualization
