import CeloLightClient.Lib.Outcome
import CeloLightClient.Lib.Run
import CeloLightClient.Lib.SideBySide
import CeloLightClient.Lib.Bytes
import CeloLightClient.Lib.Rlp
import CeloLightClient.Lib.Keccak
import CeloLightClient.Lib.Select
import CeloLightClient.Lib.Trace
import CeloLightClient.Lib.Base64
import CeloLightClient.Lib.Json
import CeloLightClient.Lib.Decimal
import CeloLightClient.Lib.Deserialize
import CeloLightClient.Lib.Format
import CeloLightClient.Lib.Hex
import CeloLightClient.Lib.JsonReader
import CeloLightClient.Types
import CeloLightClient.Codec
import CeloLightClient.Istanbul
import CeloLightClient.Hash
import CeloLightClient.Seal
import CeloLightClient.State
import CeloLightClient.Insert
import CeloLightClient.Reference
import CeloLightClient.Safety
import CeloLightClient.Chain
import CeloLightClient.Epochs
import CeloLightClient.Ultralight
import CeloLightClient.Interference
import CeloLightClient.RoundTrip
import CeloLightClient.Canonical
import CeloLightClient.HexFields
import CeloLightClient.JsonCodec
import CeloLightClient.Totality
import CeloLightClient.Commitment
import CeloLightClient.Quorum
import CeloLightClient.Addresses
import CeloLightClient.Diffs
import CeloLightClient.Aborts
import CeloLightClient.Agreement
import CeloLightClient.Relayer
import CeloLightClient.LightestSync
import CeloLightClient.FullSync
import CeloLightClient.Contract.Types
import CeloLightClient.Contract.Store
import CeloLightClient.Contract.StoreLaw
import CeloLightClient.Contract.Merkle
import CeloLightClient.Contract.Handle
import CeloLightClient.Contract.Query
import CeloLightClient.Contract.Reference
import CeloLightClient.Contract.Membership
import CeloLightClient.Contract.Binding
import CeloLightClient.Contract.OutOfRange
import CeloLightClient.Contract.Heights
import CeloLightClient.Contract.Misbehaviour
import CeloLightClient.Contract.Recovery
import CeloLightClient.Contract.Bootstrap
import CeloLightClient.Contract.Refinement
import CeloLightClient.Contract.Lockstep
import CeloLightClient.Contract.Status
import CeloLightClient.Contract.Upgrade
import CeloLightClient.Contract.Liveness
import CeloLightClient.Contract.Delay
import CeloLightClient.Contract.Frames
import CeloLightClient.Contract.LatestHeight
import CeloLightClient.Contract.Accountability
import CeloLightClient.Contract.Lifecycle
import CeloLightClient.Contract.Substitution
import CeloLightClient.Contract.Wire
import CeloLightClient.Contract.Configuration
