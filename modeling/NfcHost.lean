import NfcHost.Bench
import NfcHost.Channel.Tapped
import NfcHost.Driver.Builder
import NfcHost.Reader.Canned
import NfcHost.Tag
import NfcHost.Proofs.Tolerance
import NfcHost.Proofs.Acceptance
import NfcHost.Proofs.Succession
import NfcHost.Proofs.Truncation
import NfcHost.Proofs.Tables
import NfcHost.Proofs.Access
import NfcHost.Proofs.Chip
import NfcHost.Proofs.LossyChip
import NfcHost.Proofs.Session
import NfcHost.Proofs.Operations
import NfcHost.Proofs.Coherence
import NfcHost.Proofs.Losses
import NfcHost.Proofs.RawEffect
import NfcHost.Proofs.Transparency
import NfcHost.Proofs.Listing
import NfcHost.Proofs.OperationBounds
import NfcHost.Proofs.HandshakeCourse
import NfcHost.Proofs.Provenance
import NfcHost.Proofs.TimeoutTable
import NfcHost.Proofs.Waiting
import NfcHost.Proofs.RepeatedWrites
import NfcHost.Proofs.RawCommands
import NfcHost.Proofs.Tiling
import NfcHost.Proofs.Interview
import NfcHost.Proofs.TypeBPoll
import NfcHost.Proofs.TypeBFinds
import NfcHost.Proofs.BringUpCourse
import NfcHost.Proofs.BitSerial
import NfcHost.Proofs.ErrorDetection
import NfcHost.Proofs.TypeAReadings
import NfcHost.Proofs.Damage
import NfcHost.Proofs.RawPayload
import NfcHost.Proofs.Elision
import NfcHost.Proofs.Transactions
import NfcHost.Proofs.FirmwareQueries
import NfcHost.Proofs.Transmissions
import NfcHost.Proofs.HexText
import NfcHost.Proofs.WriteRecord
import NfcHost.Proofs.ReadyBench
