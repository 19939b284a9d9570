/-
The entry points of the channel handshake (`ibc/handshake.rs`).

The contract is an ICA controller: it sees `OpenInit`, `OpenAck` and
`CloseConfirm`.  The other halves of the three messages abort.
-/
import IcaController.Model.Metadata

namespace IcaController

/-- A call of the contract: reads and writes a store, and may end in a fault. -/
abbrev Call (σ : Type) := Exec σ Fault

variable {σ : Type} [Items σ]

/-! ### `mod ibc_channel_open`

`OpenInit` looks at the stored channel and stores nothing; `OpenAck` stores its own channel
and looks at none.
-/

namespace IbcChannelOpen

/-- `serde_json_wasm::from_str`, with the error both handlers map its own to. -/
def deserialize (serde : SerdeJsonWasm) (version : String) : Except ContractError IcaMetadata :=
  match serde.fromStr version with
  | some metadata => .ok metadata
  | none =>
      .error (.unknownDataType "cannot unmarshal ICS-27 interchain accounts metadata")

/-- The part of `init` that checks if the channel already exists. -/
def checkPrevious (serde : SerdeJsonWasm) (metadata : IcaMetadata) :
    Option ChannelState → Except ContractError Unit
  | some channelState =>
      -- this contract can only store one active channel
      -- if the channel is already open, return an error
      if channelState.isOpen then .error .activeChannelAlreadySet
      else if !metadata.isPreviousVersionEqual serde channelState.channel.version then
        .error (.invalidVersion channelState.channel.version metadata.toString)
      else .ok ()
  | none => .ok ()

/-- Handles the `OpenInit` part of the IBC handshake. -/
def init (serde : SerdeJsonWasm) (deps : Deps) (channel : IbcChannel) :
    Call σ IbcChannelOpenResponse := do
  -- Validate the channel ordering
  if channel.order ≠ .ordered then
    throw (.err .invalidChannelOrdering)
  -- Validate the host port
  if channel.counterpartyEndpoint.portId ≠ hostPortId then
    throw (.err .invalidHostPort)
  -- if the version is empty, create new metadata
  let metadata ←
    if channel.version.isEmpty then
      pure (IcaMetadata.fromChannel serde deps (← get) channel)
    else
      liftExcept (orErr (deserialize serde channel.version))
  liftExcept (orErr (metadata.validate channel))
  liftExcept (orErr (checkPrevious serde metadata (← channelStateItem.mayLoad)))
  -- Channel state need not be saved here, as it is tracked by wasmd during the handshake
  return some ⟨metadata.toString⟩

/-- Handles the `OpenAck` part of the IBC handshake. -/
def onAcknowledgement (serde : SerdeJsonWasm) (channel : IbcChannel)
    (counterpartyVersion : String) : Call σ IbcBasicResponse := do
  if channel.endpoint.portId = hostPortId then
    throw (.err .invalidControllerPort)
  let metadata ← liftExcept (orErr (deserialize serde counterpartyVersion))
  liftExcept (orErr (metadata.validate channel))
  -- Check if the address is empty
  if metadata.address.isEmpty then
    throw (.err .invalidAddress)
  -- save the address to the contract state
  let _ ← stateItem.update fun contractState =>
    .ok (contractState.setIcaInfo metadata.address channel.endpoint.channelId metadata.encoding)
  -- Save the channel state
  channelStateItem.save (ChannelState.newOpenChannel channel)
  return {}

@[simp] theorem deserialize_eq_ok {serde : SerdeJsonWasm} {version : String} {m : IcaMetadata} :
    deserialize serde version = .ok m ↔ serde.fromStr version = some m := by
  unfold deserialize
  split <;> simp_all

theorem checkPrevious_eq_ok {serde : SerdeJsonWasm} {m : IcaMetadata}
    {stored : Option ChannelState} {u : Unit} :
    checkPrevious serde m stored = .ok u ↔ ∀ cs, stored = some cs →
      cs.isOpen = false ∧ m.isPreviousVersionEqual serde cs.channel.version = true := by
  cases stored with
  | none => simp [checkPrevious]
  | some cs =>
      cases hopen : cs.isOpen <;>
        cases hprev : m.isPreviousVersionEqual serde cs.channel.version <;>
          simp [checkPrevious, hopen, hprev]

end IbcChannelOpen

/-! ### `mod ibc_channel_close` -/

namespace IbcChannelClose

/-- Handles the `ChanCloseConfirm` for the IBC module. -/
def confirm (channel : IbcChannel) : Call σ IbcBasicResponse := do
  -- Validate that this is the stored channel
  let channelState ← channelStateItem.load
  if channelState.channel ≠ channel then
    throw (.err .invalidChannelInContractState)
  -- Update the channel state
  channelStateItem.save channelState.close
  return {}

end IbcChannelClose

/-! ### Entry points -/

/-- Handles the `OpenInit` and `OpenTry` parts of the IBC handshake. -/
def ibcChannelOpen (serde : SerdeJsonWasm) (deps : Deps) :
    IbcChannelOpenMsg → Call σ IbcChannelOpenResponse
  | .openInit channel => IbcChannelOpen.init serde deps channel
  | .openTry _ _ => throw (.abort .unreachable)

/-- Handles the `OpenAck` and `OpenConfirm` parts of the IBC handshake. -/
def ibcChannelConnect (serde : SerdeJsonWasm) : IbcChannelConnectMsg → Call σ IbcBasicResponse
  | .openAck channel counterpartyVersion =>
      IbcChannelOpen.onAcknowledgement serde channel counterpartyVersion
  | .openConfirm _ => throw (.abort .unreachable)

/-- Handles the `ChanCloseInit` and `ChanCloseConfirm` for the IBC module. -/
def ibcChannelClose : IbcChannelCloseMsg → Call σ IbcBasicResponse
  | .closeInit _ => throw (.abort .unimplemented)
  | .closeConfirm channel => IbcChannelClose.confirm channel

end IcaController
