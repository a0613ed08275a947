import CallFrame.Fault
import CallFrame.Word
import CallFrame.RoundUp
import CallFrame.Kind
import CallFrame.Signature
import CallFrame.Tally
import CallFrame.Convention
import CallFrame.OutArgs
import CallFrame.Trace
import CallFrame.Layout
import CallFrame.Placement
import CallFrame.Text.Decimal
import CallFrame.Text.Printable
import CallFrame.Text.Quoted
import CallFrame.Expectation
import CallFrame.Session
import CallFrame.Report
import CallFrame.Report.Reader
import CallFrame.CommandLine.Setting
import CallFrame.CommandLine.Item
import CallFrame.CommandLine.Invocation
import CallFrame.CommandLine.Outcome
import CallFrame.CommandLine.Spelling
import CallFrame.Main
import CallFrame.Proofs.Alignment
import CallFrame.Proofs.Counting
import CallFrame.Proofs.FrameSize
import CallFrame.Proofs.Threshold
import CallFrame.Proofs.Agreement
import CallFrame.Proofs.Placement
import CallFrame.Proofs.DirectCall
import CallFrame.Proofs.ReturnedSizes
import CallFrame.Proofs.CheckedSizes
import CallFrame.Proofs.Faults
import CallFrame.Proofs.Grammar
import CallFrame.Proofs.FrameCommand
import CallFrame.Proofs.RoundTrip
import CallFrame.Proofs.TailCall
import CallFrame.Proofs.OutputForms
import CallFrame.Proofs.SizeCommand
import CallFrame.Proofs.SessionRuns
import CallFrame.Proofs.EventLog
import CallFrame.Proofs.OneMoreArgument
import CallFrame.Proofs.ReadingRules
import CallFrame.Proofs.OptionPlacement
import CallFrame.Proofs.ConventionRules
import CallFrame.Proofs.CharacterTally
import CallFrame.Proofs.SameSizes
import CallFrame.Proofs.ExpectedFrames
import CallFrame.Proofs.Scaling
import CallFrame.Proofs.Rounding
