import FloppyTrack.Main
import FloppyTrack.Console.Completion
import FloppyTrack.Proofs.Hiding
import FloppyTrack.Proofs.Offsets
import FloppyTrack.Proofs.RType.Confusion
import FloppyTrack.Proofs.RType.Acceptance
import FloppyTrack.Proofs.Table
import FloppyTrack.Proofs.Dump
import FloppyTrack.Proofs.Isolation
import FloppyTrack.Proofs.Blocks
import FloppyTrack.Proofs.Detection
import FloppyTrack.Proofs.LongTrack.Apart
import FloppyTrack.Proofs.LongTrack.Acceptance
import FloppyTrack.Proofs.Redetection
import FloppyTrack.Proofs.Tape
import FloppyTrack.Proofs.RType.FlippedCell
import FloppyTrack.Proofs.Damage
import FloppyTrack.Proofs.KeyTrack.Acceptance
import FloppyTrack.Proofs.MoreTurns
import FloppyTrack.Proofs.Failures
import FloppyTrack.Proofs.Console.Turns
import FloppyTrack.Proofs.Console.Complaints
import FloppyTrack.Proofs.Console.Script
import FloppyTrack.Proofs.ClockRule
import FloppyTrack.Proofs.Finished
import FloppyTrack.Proofs.Measuring
import FloppyTrack.Proofs.HeardCrc
import FloppyTrack.Proofs.RType.ClockNoise
import FloppyTrack.Proofs.KeyTrack.DamagedBlock
import FloppyTrack.Proofs.CellSums
import FloppyTrack.Proofs.Console.Rendering
