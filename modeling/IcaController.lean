import IcaController.Lib.Codec
import IcaController.Lib.Exec
import IcaController.Lib.Machine
import IcaController.Lib.Failure
import IcaController.Lib.Relational
import IcaController.Lib.Observer
import IcaController.Lib.KeyValue
import IcaController.Lib.Flight
import IcaController.Lib.Commute
import IcaController.Lib.Slot
import IcaController.Lib.Json
import IcaController.Lib.JsonRoundTrip
import IcaController.Lib.JsonJoined
import IcaController.Lib.Protobuf
import IcaController.Lib.Base64
import IcaController.Lib.Decimal
import IcaController.Lib.Unicode
import IcaController.Model.CosmWasm
import IcaController.Model.Types
import IcaController.Model.Serde
import IcaController.Model.Metadata
import IcaController.Model.Packet
import IcaController.Model.Readers
import IcaController.Model.Handshake
import IcaController.Model.Relay
import IcaController.Model.Contract
import IcaController.Model.Chain
import IcaController.Model.Records
import IcaController.Model.Store
import IcaController.Proofs.Handlers
import IcaController.Proofs.Metadata
import IcaController.Proofs.Runs
import IcaController.Proofs.Dial
import IcaController.Proofs.History
import IcaController.Proofs.Records
import IcaController.Proofs.Independence
import IcaController.Proofs.RecordFormats
import IcaController.Proofs.Stored
import IcaController.Proofs.Sends
import IcaController.Proofs.Formats
import IcaController.Proofs.Callbacks
import IcaController.Proofs.Rollback
import IcaController.Proofs.Conservation
import IcaController.Proofs.Memory
import IcaController.Proofs.Packets
import IcaController.Proofs.Traffic
import IcaController.Proofs.Transactions
import IcaController.Proofs.Spending
import IcaController.Proofs.Rejections
import IcaController.Proofs.Negotiation
import IcaController.Proofs.Overlap
import IcaController.Proofs.Reopen
import IcaController.Proofs.Sessions
import IcaController.Proofs.Surroundings
