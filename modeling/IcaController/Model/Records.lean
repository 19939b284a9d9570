/-
The stored records and the user's messages as JSON (`types/state.rs`, `types/msg.rs`).

Both are written out from the derives: a record is its fields in order under their
names, an optional field is left out when it is none, a message is one member named
after its variant, and the enumerations carry the names their attributes give them.
The readers are the strict ones of the declared formats.
-/
import IcaController.Model.Contract
import IcaController.Model.Readers

namespace IcaController

/-- `to_vec` and `to_binary` of a value, from its JSON. -/
def jsonBytes (v : Json) : Binary := (String.ofList v.print).utf8

/-! ### Records -/

def IcaInfo.toJson (info : IcaInfo) : Json :=
  .obj [("ica_address", .str info.icaAddress), ("channel_id", .str info.channelId),
    ("encoding", .str info.encoding.rename)]

def ContractState.toJson (st : ContractState) : Json :=
  .obj ([("admin", .str st.admin)] ++
    -- `skip_serializing_if = "Option::is_none"`
    (match st.icaInfo with
    | some info => [("ica_info", info.toJson)]
    | none => []))

def IbcEndpoint.toJson (e : IbcEndpoint) : Json :=
  .obj [("port_id", .str e.portId), ("channel_id", .str e.channelId)]

/-- The serde names of the orders. -/
def IbcOrder.rename : IbcOrder → String
  | .unordered => "ORDER_UNORDERED"
  | .ordered => "ORDER_ORDERED"

def IbcChannel.toJson (c : IbcChannel) : Json :=
  .obj [("endpoint", c.endpoint.toJson), ("counterparty_endpoint", c.counterpartyEndpoint.toJson),
    ("order", .str c.order.rename), ("version", .str c.version),
    ("connection_id", .str c.connectionId)]

/-- The serde names of the statuses. -/
def ChannelStatus.rename : ChannelStatus → String
  | .uninitialized => "STATE_UNINITIALIZED_UNSPECIFIED"
  | .init => "STATE_INIT"
  | .tryOpen => "STATE_TRYOPEN"
  | .open => "STATE_OPEN"
  | .closed => "STATE_CLOSED"

def ChannelState.toJson (cs : ChannelState) : Json :=
  .obj [("channel", cs.channel.toJson), ("channel_status", .str cs.channelStatus.rename)]

def CallbackCounter.toJson (c : CallbackCounter) : Json :=
  .obj [("success", .num c.success.toNat), ("error", .num c.error.toNat),
    ("timeout", .num c.timeout.toNat)]

def ContractVersion.toJson (v : ContractVersion) : Json :=
  .obj [("contract", .str v.contract), ("version", .str v.version)]

/-! ### Messages -/

def InstantiateMsg.toJson (msg : InstantiateMsg) : Json :=
  .obj (match msg.admin with
    | some admin => [("admin", .str admin)]
    | none => [])

def ExecuteMsg.toJson : ExecuteMsg → Json
  | .sendCustomIcaMessages messages packetMemo timeoutSeconds =>
      .obj [("send_custom_ica_messages",
        .obj ([("messages", .str (String.ofList (Base64.encode messages)))] ++
          (match packetMemo with
          | some memo => [("packet_memo", .str memo)]
          | none => []) ++
          (match timeoutSeconds with
          | some seconds => [("timeout_seconds", .num seconds.toNat)]
          | none => [])))]
  | .icaBankSend amount denom toAddress =>
      .obj [("ica_bank_send", .obj [("amount", .str amount), ("denom", .str denom),
        ("to_address", .str toAddress)])]

def QueryMsg.toJson : QueryMsg → Json
  | .getChannel => .obj [("get_channel", .obj [])]
  | .getContractState => .obj [("get_contract_state", .obj [])]
  | .getCallbackCounter => .obj [("get_callback_counter", .obj [])]

/-! ### Readers -/

/-- A member read by its own reader. -/
def memberOf {α : Type} (read : Json → Option α) (name : String)
    (members : List (String × Json)) : Option α :=
  (Json.member? name members).bind read

/-- An optional member: absent and `null` both read as none. -/
def optionalOf {α : Type} (read : Json → Option α) (name : String)
    (members : List (String × Json)) : Option (Option α) :=
  match Json.member? name members with
  | none => some none
  | some .null => some none
  | some v => (read v).map some

def IcaInfo.ofJson : Json → Option IcaInfo
  | .obj members =>
      if declared ["ica_address", "channel_id", "encoding"] members then do
        return {
          icaAddress := ← stringMember "ica_address" members
          channelId := ← stringMember "channel_id" members
          encoding := ← TxEncoding.ofName (← stringMember "encoding" members) }
      else none
  | _ => none

def ContractState.ofJson : Json → Option ContractState
  | .obj members =>
      if declared ["admin", "ica_info"] members then do
        return ⟨← stringMember "admin" members, ← optionalOf IcaInfo.ofJson "ica_info" members⟩
      else none
  | _ => none

def IbcEndpoint.ofJson : Json → Option IbcEndpoint
  | .obj members =>
      if declared ["port_id", "channel_id"] members then do
        return ⟨← stringMember "port_id" members, ← stringMember "channel_id" members⟩
      else none
  | _ => none

def IbcOrder.ofName : String → Option IbcOrder
  | "ORDER_UNORDERED" => some .unordered
  | "ORDER_ORDERED" => some .ordered
  | _ => none

def IbcChannel.ofJson : Json → Option IbcChannel
  | .obj members =>
      if declared ["endpoint", "counterparty_endpoint", "order", "version", "connection_id"]
          members then do
        return {
          endpoint := ← memberOf IbcEndpoint.ofJson "endpoint" members
          counterpartyEndpoint := ← memberOf IbcEndpoint.ofJson "counterparty_endpoint" members
          order := ← IbcOrder.ofName (← stringMember "order" members)
          version := ← stringMember "version" members
          connectionId := ← stringMember "connection_id" members }
      else none
  | _ => none

def ChannelStatus.ofName : String → Option ChannelStatus
  | "STATE_UNINITIALIZED_UNSPECIFIED" => some .uninitialized
  | "STATE_INIT" => some .init
  | "STATE_TRYOPEN" => some .tryOpen
  | "STATE_OPEN" => some .open
  | "STATE_CLOSED" => some .closed
  | _ => none

def ChannelState.ofJson : Json → Option ChannelState
  | .obj members =>
      if declared ["channel", "channel_status"] members then do
        return {
          channel := ← memberOf IbcChannel.ofJson "channel" members
          channelStatus := ← ChannelStatus.ofName (← stringMember "channel_status" members) }
      else none
  | _ => none

def CallbackCounter.ofJson : Json → Option CallbackCounter
  | .obj members =>
      if declared ["success", "error", "timeout"] members then do
        return {
          success := UInt32.ofNat (← numberMember "success" UInt32.size members)
          error := UInt32.ofNat (← numberMember "error" UInt32.size members)
          timeout := UInt32.ofNat (← numberMember "timeout" UInt32.size members) }
      else none
  | _ => none

def ContractVersion.ofJson : Json → Option ContractVersion
  | .obj members =>
      if declared ["contract", "version"] members then do
        return ⟨← stringMember "contract" members, ← stringMember "version" members⟩
      else none
  | _ => none

def InstantiateMsg.ofJson : Json → Option InstantiateMsg
  | .obj members =>
      if declared ["admin"] members then do return ⟨← optionalMember "admin" members⟩ else none
  | _ => none

def secondsOfJson : Json → Option UInt64
  | .num n => if n < UInt64.size then some (UInt64.ofNat n) else none
  | _ => none

/-- A message of one of the variants, by the name of its only member. -/
def ExecuteMsg.ofJson : Json → Option ExecuteMsg
  | .obj [("send_custom_ica_messages", .obj members)] =>
      if declared ["messages", "packet_memo", "timeout_seconds"] members then do
        return .sendCustomIcaMessages
          (← Base64.decode (← stringMember "messages" members).toList)
          (← optionalMember "packet_memo" members)
          (← optionalOf secondsOfJson "timeout_seconds" members)
      else none
  | .obj [("ica_bank_send", .obj members)] =>
      if declared ["amount", "denom", "to_address"] members then do
        return .icaBankSend (← stringMember "amount" members) (← stringMember "denom" members)
          (← stringMember "to_address" members)
      else none
  | _ => none

def QueryMsg.ofJson : Json → Option QueryMsg
  | .obj [("get_channel", .obj [])] => some .getChannel
  | .obj [("get_contract_state", .obj [])] => some .getContractState
  | .obj [("get_callback_counter", .obj [])] => some .getCallbackCounter
  | _ => none

/-- Bytes read as a JSON text, and the text by a reader. -/
def readBytes {α : Type} (read : Json → Option α) (b : Binary) : Option α :=
  (jsonOfBinary b).bind read

end IcaController
