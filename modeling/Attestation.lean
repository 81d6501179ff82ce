import Attestation.Clock
import Attestation.Environment.History
import Attestation.Hash.Lemmas
import Attestation.Ledger.Json
import Attestation.LogFilter
import Attestation.Network.Traffic
import Attestation.Proofs.Codec.Verdict
import Attestation.Provider
import Attestation.Settings.Json
import Attestation.Settings.Load
import Attestation.Proofs.Merkle.Heap
import Attestation.Proofs.Merkle.Guarded
import Attestation.Proofs.Merkle.Inclusion
import Attestation.Proofs.Preimage
import Attestation.Proofs.Finding
import Attestation.Proofs.Merkle.Binding
import Attestation.Proofs.Network.Closing
import Attestation.Proofs.Sponge
import Attestation.Proofs.Network.Filing
import Attestation.Proofs.Environment.Proved
import Attestation.Proofs.Validation.Amount
import Attestation.Proofs.Validation.Window
import Attestation.Proofs.Validation.Nonexistence
import Attestation.Proofs.Validation.Payment
import Attestation.Proofs.Chain.Extension
import Attestation.Proofs.Chain.Pages
import Attestation.Proofs.Validation.Stable
import Attestation.Proofs.Network.RoundBinding
import Attestation.Proofs.Environment.Quiet
import Attestation.Proofs.Codec.IntegrityCode
import Attestation.Proofs.Environment.Anticipated
import Attestation.Proofs.Environment.Protocol
import Attestation.Proofs.Network.Waking
import Attestation.Proofs.Network.Arrival
import Attestation.Proofs.Json.Scalar
import Attestation.Proofs.Json.Record
import Attestation.Proofs.Json.Token
import Attestation.Proofs.Json.Text
import Attestation.Proofs.Response.RoundTrip
import Attestation.Proofs.Flow.Session
import Attestation.Proofs.Flow.WellFormed
import Attestation.Proofs.Codec.Written
import Attestation.Proofs.Preimage.Schema
import Attestation.Proofs.Merkle.Tampering
import Attestation.Proofs.Flow.Replies
import Attestation.Proofs.Flow.Dialogue
import Attestation.Proofs.Chain.Located
import Attestation.Proofs.Chain.Timely
import Attestation.Proofs.Validation.QueryWindow
import Attestation.Proofs.Codec.Plain
import Attestation.Proofs.Environment.Ending
import Attestation.Proofs.Environment.Payment
import Attestation.Proofs.Environment.Nonexistence
import Attestation.Proofs.Validation.Exact
import Attestation.Proofs.Validation.Conservation
import Attestation.Proofs.Validation.Alike
import Attestation.Proofs.Numeral.Grammar
import Attestation.Proofs.Scheme.Valid
import Attestation.Proofs.Scheme.Registry
import Attestation.Proofs.Codec.Checked
import Attestation.Proofs.Poll.Delay
import Attestation.Proofs.Poll.Wait
import Attestation.Proofs.Merkle.Canonical
import Attestation.Proofs.Merkle.Height
import Attestation.Proofs.Chain.Schedule
import Attestation.Proofs.Chain.Index
import Attestation.Proofs.Clock.Forward
