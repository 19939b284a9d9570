/-
The handshake metadata and its checks (`ibc/types/keys.rs`, `ibc/types/stargate.rs`,
`ibc/types/metadata.rs`).
-/
import IcaController.Lib.Unicode
import IcaController.Model.Serde

namespace IcaController

/-- `ICA_VERSION`. -/
def icaVersion : String := "ics27-1"

/-- `HOST_PORT_ID`. -/
def hostPortId : String := "icahost"

/-! ### The connection query -/

/-- `QueryRequest::Stargate`. -/
structure StargateQuery where
  path : String
  data : Binary
  deriving DecidableEq, Repr

structure Counterparty where
  connectionId : String
  deriving DecidableEq, Repr

structure ConnectionEnd where
  counterparty : Counterparty
  deriving DecidableEq, Repr

structure QueryConnectionResponse where
  connection : ConnectionEnd
  deriving DecidableEq, Repr

/-- What the host gives a call: its address checker and its querier. -/
structure Deps where
  /-- `Api::addr_validate`. -/
  addrValidate : String → Except StdError Addr
  /-- `QuerierWrapper::query`, at the one response type asked for. -/
  query : StargateQuery → Except StdError QueryConnectionResponse

/-- Queries the counterparty connection id using stargate queries. -/
def counterpartyConnectionId (deps : Deps) (connectionId : String) :
    Except ContractError String :=
  -- `QueryConnectionRequest { connection_id }.encode_to_vec()`
  let data := Protobuf.stringField 1 connectionId
  match deps.query ⟨"/ibc.core.connection.v1.Query/Connection", data⟩ with
  | .ok response => .ok response.connection.counterparty.connectionId
  | .error e => .error (.std e)

/-- `unwrap_or_default` on a string. -/
def unwrapOrDefault : Except ContractError String → String
  | .ok s => s
  | .error _ => ""

/-- `validate_ica_address`. -/
def validateIcaAddress (address : String) : Except ContractError Unit :=
  -- `len` counts bytes, `is_alphanumeric` asks Unicode
  if 128 < address.utf8ByteSize || !address.toList.all Unicode.isAlphanumeric then
    .error .invalidAddress
  else .ok ()

namespace IcaMetadata

/-- Creates a new IcaMetadata from an IbcChannel, when the relayer gave no version. -/
def fromChannel {σ : Type} [Items σ] (serde : SerdeJsonWasm) (deps : Deps) (storage : σ)
    (channel : IbcChannel) : IcaMetadata :=
  let fresh : IcaMetadata :=
    { version := icaVersion
      controllerConnectionId := channel.connectionId
      hostConnectionId := unwrapOrDefault (counterpartyConnectionId deps channel.connectionId)
      address := ""
      encoding := .proto3Json
      txType := "sdk_multi_msg" }
  -- a channel that is missing and one that does not read are the same here
  match channelStateItem.find storage with
  | .ok channelState =>
      match serde.fromStr channelState.channel.version with
      | some previousMetadata => previousMetadata
      | none => fresh
  | .error _ => fresh

/-- Validates the IcaMetadata. -/
def validate (m : IcaMetadata) (channel : IbcChannel) : Except ContractError Unit := do
  if m.version ≠ icaVersion then
    throw (.invalidVersion icaVersion m.version)
  if m.controllerConnectionId ≠ channel.connectionId then
    throw .invalidConnection
  if ¬ m.address.isEmpty then
    validateIcaAddress m.address
  if m.txType ≠ "sdk_multi_msg" then
    throw (.unsupportedTxType m.txType)

/-- Checks if the previous version of the IcaMetadata is equal to the current one. -/
def isPreviousVersionEqual (serde : SerdeJsonWasm) (m : IcaMetadata)
    (previousVersion : String) : Bool :=
  match serde.fromStr previousVersion with
  | some previous =>
      m.version = previous.version
        && m.controllerConnectionId = previous.controllerConnectionId
        && m.hostConnectionId = previous.hostConnectionId
        && m.encoding = previous.encoding
        && m.txType = previous.txType
  | none => false

end IcaMetadata

end IcaController
