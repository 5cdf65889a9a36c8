import PairedAudio.Capture.Loopback
import PairedAudio.Capture.Monitor
import PairedAudio.Capture.Scripted
import PairedAudio.Cipher.IvSource.Distinct
import PairedAudio.Main
import PairedAudio.Proofs.Dispatch
import PairedAudio.Proofs.Run
import PairedAudio.Proofs.Backend
import PairedAudio.Proofs.Consistency
import PairedAudio.Proofs.Refusal
import PairedAudio.Proofs.Invisible
import PairedAudio.Proofs.Courses
import PairedAudio.Proofs.Takeover.Isolation
import PairedAudio.Proofs.Takeover.Alone
import PairedAudio.Proofs.Serial.Outline
import PairedAudio.Proofs.Serial.Order
import PairedAudio.Proofs.Agreement
import PairedAudio.Proofs.Channel
import PairedAudio.Proofs.Closing.Alone
import PairedAudio.Proofs.Closing.Final
import PairedAudio.Proofs.Chunks
import PairedAudio.Proofs.RoundTrip
import PairedAudio.Proofs.Acceptance
import PairedAudio.Proofs.Codec.Arming
import PairedAudio.Proofs.Codec.Buffers
import PairedAudio.Proofs.Codec.Chaining
import PairedAudio.Proofs.Codec.Tampering
import PairedAudio.Proofs.Vectors
import PairedAudio.Proofs.Reload
import PairedAudio.Proofs.LifeCycle
import PairedAudio.Proofs.Period
import PairedAudio.Proofs.Unbroken
import PairedAudio.Proofs.Takeover.Announced
import PairedAudio.Proofs.Loopback.Calls
import PairedAudio.Proofs.Loopback.Polling
import PairedAudio.Proofs.Usage
import PairedAudio.Proofs.Advertised
import PairedAudio.Proofs.FailedStart
import PairedAudio.Proofs.SameDevice
import PairedAudio.Proofs.Loopback.Account
import PairedAudio.Proofs.Loading
import PairedAudio.Proofs.Samples.Packing
import PairedAudio.Proofs.Records
import PairedAudio.Proofs.SharedKeys
import PairedAudio.Proofs.Loopback.Arithmetic
import PairedAudio.Proofs.Samples.Conversion
import PairedAudio.Proofs.OwnType
import PairedAudio.Proofs.Negotiation
import PairedAudio.Proofs.Reachable
