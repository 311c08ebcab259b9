import Completions.Chat.Dialect
import Completions.Chat.Message
import Completions.Engine.Backend
import Completions.Engine.Basic
import Completions.Engine.Cause
import Completions.Engine.Complete
import Completions.Engine.Controller
import Completions.Engine.Event
import Completions.Engine.Generation
import Completions.Engine.Prompt
import Completions.Engine.Result
import Completions.Engine.Station
import Completions.Fault
import Completions.Http.Chunk
import Completions.Http.Server
import Completions.Http.Transmission
import Completions.Json.Basic
import Completions.Json.Integer
import Completions.Json.Reader
import Completions.Json.Shown
import Completions.Json.Writer
import Completions.Launch.Factory
import Completions.Launch.Options
import Completions.Launch.Start
import Completions.Main
import Completions.Number.Binary
import Completions.Number.Shortest
import Completions.Number.Spelling
import Completions.Rehearsal.Factory
import Completions.Rehearsal.Script
import Completions.Rehearsal.Session
import Completions.Rehearsal.Visit
import Completions.Rehearsal.World
import Completions.Request.Basic
import Completions.Request.Reading
import Completions.Request.Validation
import Completions.Tool.Basic
import Completions.Stop
import Completions.Text.Blank
import Completions.Text.Integer
import Completions.Text.Encoding
import Completions.Text.Growing
import Completions.Text.LetterCase
import Completions.Text.Quoted
import Completions.Text.Search
import Completions.Tool.Mention
import Completions.Proofs.Occurrence
import Completions.Proofs.StopCheck
import Completions.Proofs.Journal
import Completions.Proofs.SettledText
import Completions.Proofs.Course
import Completions.Proofs.RunCourse
import Completions.Proofs.LoopText
import Completions.Proofs.ServiceCourse
import Completions.Proofs.Delivery
import Completions.Proofs.Tape
import Completions.Proofs.StopScan
import Completions.Proofs.Reference
import Completions.Proofs.ServiceOutcome
import Completions.Proofs.EventGrammar
import Completions.Proofs.GateDiscipline
import Completions.Proofs.FreshRun
import Completions.Proofs.BodyReading
import Completions.Proofs.ClientView
import Completions.Proofs.StreamedAnswer
import Completions.Proofs.SameOutcome
import Completions.Proofs.Preparation
import Completions.Proofs.CarriedFailure
import Completions.Proofs.ModelNotReady
import Completions.Proofs.BusyEngine
import Completions.Proofs.Interruption
import Completions.Proofs.WriterGrammar
import Completions.Proofs.Slots
import Completions.Proofs.Outcome
import Completions.Proofs.Overflow
import Completions.Proofs.Balance
import Completions.Proofs.LeadingDigit
import Completions.Proofs.NumberText
import Completions.Proofs.JsonText
import Completions.Proofs.CallEnvelope
import Completions.Proofs.Refusal
import Completions.Proofs.SingleCall
import Completions.Proofs.CallShapes
import Completions.Proofs.OpenReply
import Completions.Proofs.GrowingPrompt
import Completions.Proofs.Marks
import Completions.Proofs.TaggedTurns
import Completions.Proofs.Trimming
import Completions.Proofs.OpeningMark
import Completions.Proofs.ToolInstruction
import Completions.Proofs.AttachedCalls
import Completions.Proofs.Splitting
import Completions.Proofs.ExactCheck
import Completions.Proofs.PlainChat
import Completions.Proofs.PrintedText
import Completions.Proofs.Framing
import Completions.Proofs.NullFields
import Completions.Proofs.RoundTrips
