import BenchRelay.Link
import BenchRelay.Main
import BenchRelay.Message.Read
import BenchRelay.Payload.Script
import BenchRelay.Payload.Transcript
import BenchRelay.Proofs.ChildRun
import BenchRelay.Proofs.DecoderCalls
import BenchRelay.Proofs.LineCutting
import BenchRelay.Proofs.LossyLines
import BenchRelay.Proofs.LossyReading
import BenchRelay.Proofs.MessageLines
import BenchRelay.Proofs.MessageReading
import BenchRelay.Proofs.Posting
import BenchRelay.Proofs.RelayedLines
import BenchRelay.Proofs.ServedFrames
import BenchRelay.Proofs.ServedRuns
import BenchRelay.Proofs.SessionRuns
import BenchRelay.Proofs.Utf8Table
import BenchRelay.Sink.Mailbox
import BenchRelay.Sink.Recorder
import BenchRelay.Proofs.ScriptedRuns
import BenchRelay.Proofs.Arrivals
import BenchRelay.Proofs.RunAccounts
import BenchRelay.Proofs.WrittenRuns
import BenchRelay.Proofs.DispatchLoops
import BenchRelay.Proofs.AlikeSinks
import BenchRelay.Proofs.FullSinks
import BenchRelay.Proofs.LinkSteps
import BenchRelay.Proofs.LinkEnds
import BenchRelay.Proofs.LinkHistories
import BenchRelay.Proofs.TornLines
import BenchRelay.Proofs.FailedWrites
import BenchRelay.Proofs.HandedTexts
import BenchRelay.Proofs.MessageLanguage
import BenchRelay.Proofs.PromptLines
import BenchRelay.Proofs.CommandWords
import BenchRelay.Proofs.ConfigTexts
import BenchRelay.Proofs.HeldBackBytes
import BenchRelay.Proofs.OffsetLoops
