import KermitSend.Line.Terminal
import KermitSend.Main
import KermitSend.Proofs.Checksum.Register
import KermitSend.Proofs.Line.WriteTimeout
import KermitSend.Proofs.Packet.Canonical
import KermitSend.Proofs.Packet.ErrorDetection
import KermitSend.Proofs.Packet.FrameLength
import KermitSend.Proofs.Packet.SelfDelimiting
import KermitSend.Proofs.Program.RestartAdvice
import KermitSend.Proofs.Quoting.Tokens
import KermitSend.Proofs.Storage.CallSequence
import KermitSend.Proofs.Transfer.Milestones
import KermitSend.Proofs.Transfer.ReadSplitting
import KermitSend.Proofs.Transfer.SessionInvariant
import KermitSend.Proofs.Transfer.ShortReplies
import KermitSend.Proofs.Transfer.Validation
