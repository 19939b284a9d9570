/-
The entry points of the packet life cycle (`ibc/relay.rs`).
-/
import IcaController.Model.Handshake
import IcaController.Model.Packet

namespace IcaController

variable {σ : Type} [Items σ]

/-! ### `mod ibc_packet_ack` -/

namespace IbcPacketAck

/-- Handles the successful acknowledgement of an ica packet. -/
def success (packet : IbcPacket) (res : Binary) : Call σ IbcBasicResponse := do
  let _ ← callbackCounterItem.update CallbackCounter.incSuccess
  return ({} : IbcBasicResponse).addEvent (Events.success packet res)

/-- Handles the unsuccessful acknowledgement of an ica packet. -/
def error (packet : IbcPacket) (err : String) : Call σ IbcBasicResponse := do
  let _ ← callbackCounterItem.update CallbackCounter.incError
  return ({} : IbcBasicResponse).addEvent (Events.error packet err)

end IbcPacketAck

/-! ### Entry points -/

/-- Implements the IBC module's `OnAcknowledgementPacket` handler. -/
def ibcPacketAck (serde : SerdeJsonWasm) (ack : IbcPacketAckMsg) : Call σ IbcBasicResponse := do
  match ← liftExcept (orStdErr (serde.fromBinary ack.acknowledgement.data)) with
  | .result res => IbcPacketAck.success ack.originalPacket res
  | .error err => IbcPacketAck.error ack.originalPacket err

/-- Handles the `PacketTimeout` for the IBC module.  The message is not read. -/
def ibcPacketTimeout (_msg : IbcPacketTimeoutMsg) : Call σ IbcBasicResponse := do
  -- Increment the callback counter.
  let _ ← callbackCounterItem.update CallbackCounter.incTimeout
  -- Due to the semantics of ordered channels, the underlying channel end is closed.
  let _ ← channelStateItem.update fun channelState => .ok channelState.close
  return {}

/-- Handles the `PacketReceive` for the IBC module: a controller cannot receive packets. -/
def ibcPacketReceive (_msg : IbcPacketReceiveMsg) : Call σ IbcBasicResponse :=
  throw (.abort .unreachable)

end IcaController
