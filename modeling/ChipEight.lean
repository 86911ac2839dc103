import ChipEight.Main
import ChipEight.Proofs.Decoding
import ChipEight.Proofs.Execution
import ChipEight.Proofs.Step
import ChipEight.Proofs.Atomicity
import ChipEight.Proofs.LoadedProgram
import ChipEight.Proofs.Numbers
import ChipEight.Proofs.Packing
import ChipEight.Proofs.Layout
import ChipEight.Proofs.Snapshot
import ChipEight.Proofs.SnapshotAcceptance
import ChipEight.Proofs.SnapshotAtomicity
import ChipEight.Proofs.InstructionSet
import ChipEight.Proofs.ListingAgreement
import ChipEight.Proofs.Consulting
import ChipEight.Proofs.RunOutcome
import ChipEight.Proofs.Transparency
import ChipEight.Machine.Call
import ChipEight.Proofs.Representation
import ChipEight.Proofs.CallReturn
import ChipEight.Session.Action
import ChipEight.Proofs.Restart
import ChipEight.Proofs.ListingText
import ChipEight.Proofs.Drawing
import ChipEight.Proofs.MemoryHistory
import ChipEight.Debugger.Call
import ChipEight.Proofs.DebuggerHistory
import ChipEight.Proofs.Wording
import ChipEight.Proofs.CommandLine
import ChipEight.Proofs.Arguments
import ChipEight.Proofs.RunnerOutcome
import ChipEight.Proofs.RunReturn
import ChipEight.Proofs.Resuming
import ChipEight.Proofs.Reaching
import ChipEight.Proofs.DrawingStep
import ChipEight.Proofs.Footprint
import ChipEight.Proofs.FrameRun
import ChipEight.Proofs.Arithmetic
import ChipEight.Proofs.Requests
import ChipEight.Proofs.BlockReads
import ChipEight.Proofs.ByteLimit
import ChipEight.Proofs.MemoryListing
import ChipEight.Proofs.Standstill
import ChipEight.Proofs.Redrawing
import ChipEight.Proofs.PlainText
import ChipEight.Proofs.ListingLines
import ChipEight.Proofs.HexDump
import ChipEight.Proofs.ListerOutcome
import ChipEight.Proofs.Repacking
import ChipEight.Proofs.AddressGrammar
import ChipEight.Proofs.UncheckedNumbers
import ChipEight.Proofs.MemoryDump
import ChipEight.Proofs.Report
