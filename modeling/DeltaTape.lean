import DeltaTape.Main
import DeltaTape.Proofs.ReflectedWalk
import DeltaTape.Proofs.TapeSpan
import DeltaTape.Proofs.RoundTrip
import DeltaTape.Proofs.StepGrammar
import DeltaTape.Proofs.CanonicalForm
import DeltaTape.Proofs.OutputRange
import DeltaTape.Proofs.SourceBytes
import DeltaTape.Proofs.CompileReplay
import DeltaTape.Proofs.Expansion
import DeltaTape.Proofs.SourceCompiles
import DeltaTape.Proofs.LinearPart
import DeltaTape.Proofs.SinkFrame
import DeltaTape.Proofs.OneText
import DeltaTape.Proofs.TokenPlaces
import DeltaTape.Proofs.SinkRefusal
import DeltaTape.Proofs.CheckedInput
import DeltaTape.Proofs.CompileOutcome
import DeltaTape.Proofs.TreeUntouched
import DeltaTape.Proofs.ResumedReading
import DeltaTape.Proofs.SinkOrder
import DeltaTape.Proofs.ItemStream
import DeltaTape.Proofs.SingleSteps
import DeltaTape.Proofs.TapeOperations
import DeltaTape.Proofs.IdleInstructions
import DeltaTape.Proofs.JoinedText
import DeltaTape.Proofs.OrderedWork
import DeltaTape.Proofs.TamperedTape
import DeltaTape.Proofs.ReplayOutcome
import DeltaTape.Proofs.ControlSequences
import DeltaTape.Proofs.ViableText
import DeltaTape.Proofs.ComplaintPlace
import DeltaTape.Proofs.VerboseCalls
