/-
Packets, the messages put into them, and the events of their acknowledgements
(`types/cosmos_msg.rs`, `ibc/types/packet.rs`, `ibc/types/events.rs`).
-/
import IcaController.Model.Serde

namespace IcaController

/-! ### Example messages -/

def Coin.toJson (c : Coin) : Json :=
  .obj [("denom", .str c.denom), ("amount", .str c.amount.repr)]

/-- `msg_transfer::Height`. -/
structure Height where
  revisionNumber : UInt64
  revisionHeight : UInt64
  deriving DecidableEq, Repr

def Height.toJson (h : Height) : Json :=
  .obj [("revision_number", .num h.revisionNumber.toNat),
    ("revision_height", .num h.revisionHeight.toNat)]

/-- `types::cosmos_msg::ExampleCosmosMessages`. -/
inductive ExampleCosmosMessages where
  | msgSend (fromAddress toAddress : String) (amount : List Coin)
  | msgDelegate (delegatorAddress validatorAddress : String) (amount : Coin)
  | msgVote (voter : String) (proposalId : UInt64) (option : UInt32)
  | msgSubmitProposalLegacy (content : ExampleCosmosMessages) (initialDeposit : List Coin)
      (proposer : String)
  | textProposal (title description : String)
  | msgDeposit (proposalId : UInt64) (depositor : String) (amount : List Coin)
  | msgTransfer (sourcePort sourceChannel : String) (token : Coin) (sender receiver : String)
      (timeoutHeight : Height) (timeoutTimestamp : UInt64) (memo : Option String)

namespace ExampleCosmosMessages

def coinsJson (cs : List Coin) : Json := .arr (cs.map Coin.toJson)

/-- The derived serialization: the tag first, then the fields in order. -/
def toJson : ExampleCosmosMessages → Json
  | msgSend fromAddress toAddress amount =>
      .obj [("@type", .str "/cosmos.bank.v1beta1.MsgSend"),
        ("from_address", .str fromAddress), ("to_address", .str toAddress),
        ("amount", coinsJson amount)]
  | msgDelegate delegatorAddress validatorAddress amount =>
      .obj [("@type", .str "/cosmos.staking.v1beta1.MsgDelegate"),
        ("delegator_address", .str delegatorAddress),
        ("validator_address", .str validatorAddress), ("amount", amount.toJson)]
  | msgVote voter proposalId option =>
      .obj [("@type", .str "/cosmos.gov.v1beta1.MsgVote"), ("voter", .str voter),
        ("proposal_id", .num proposalId.toNat), ("option", .num option.toNat)]
  | msgSubmitProposalLegacy content initialDeposit proposer =>
      .obj [("@type", .str "/cosmos.gov.v1beta1.MsgSubmitProposal"),
        ("content", content.toJson), ("initial_deposit", coinsJson initialDeposit),
        ("proposer", .str proposer)]
  | textProposal title description =>
      .obj [("@type", .str "/cosmos.gov.v1beta1.TextProposal"), ("title", .str title),
        ("description", .str description)]
  | msgDeposit proposalId depositor amount =>
      .obj [("@type", .str "/cosmos.gov.v1beta1.MsgDeposit"),
        ("proposal_id", .num proposalId.toNat), ("depositor", .str depositor),
        ("amount", coinsJson amount)]
  | msgTransfer sourcePort sourceChannel token sender receiver timeoutHeight timeoutTimestamp
      memo =>
      .obj ([("@type", .str "/ibc.applications.transfer.v1.MsgTransfer"),
        ("source_port", .str sourcePort), ("source_channel", .str sourceChannel),
        ("token", token.toJson), ("sender", .str sender), ("receiver", .str receiver),
        ("timeout_height", timeoutHeight.toJson),
        ("timeout_timestamp", .num timeoutTimestamp.toNat)] ++
        -- `skip_serializing_if = "Option::is_none"`
        (match memo with
        | some memo => [("memo", .str memo)]
        | none => []))

/-- `ExampleCosmosMessages::to_string`. -/
def toString (m : ExampleCosmosMessages) : String := String.ofList m.toJson.print

end ExampleCosmosMessages

/-! ### Protobuf messages -/

/-- `cosmos::base::v1beta1::Coin`. -/
structure ProtoCoin where
  denom : String
  amount : String
  deriving DecidableEq, Repr

def ProtoCoin.encode (c : ProtoCoin) : Binary :=
  Protobuf.stringField 1 c.denom ++ Protobuf.stringField 2 c.amount

/-- `cosmos::bank::v1beta1::MsgSend`. -/
structure MsgSend where
  fromAddress : String
  toAddress : String
  amount : List ProtoCoin
  deriving DecidableEq, Repr

def MsgSend.encode (m : MsgSend) : Binary :=
  Protobuf.stringField 1 m.fromAddress ++ Protobuf.stringField 2 m.toAddress ++
    Protobuf.repeatedField 3 (m.amount.map ProtoCoin.encode)

/-- `cosmos_sdk_proto::Any`. -/
structure ProtoAny where
  typeUrl : String
  value : Binary
  deriving DecidableEq, Repr

def ProtoAny.encode (a : ProtoAny) : Binary :=
  Protobuf.stringField 1 a.typeUrl ++ Protobuf.bytesField 2 a.value

/-- `MessageExt::to_any`.  Encoding into a growing vector does not fail. -/
def MsgSend.toAny (m : MsgSend) : ProtoAny := ⟨"/cosmos.bank.v1beta1.MsgSend", m.encode⟩

/-- `interchain_accounts::v1::CosmosTx`. -/
structure CosmosTx where
  messages : List ProtoAny
  deriving DecidableEq, Repr

def CosmosTx.encodeToVec (tx : CosmosTx) : Binary :=
  Protobuf.repeatedField 1 (tx.messages.map ProtoAny.encode)

/-! ### Packet data -/

/-- `DEFAULT_TIMEOUT_SECONDS`. -/
def defaultTimeoutSeconds : UInt64 := 600

/-- `ibc::types::packet::IcaPacketData`. -/
structure IcaPacketData where
  type : UInt32
  data : Binary
  memo : Option String
  deriving DecidableEq, Repr

namespace IcaPacketData

def new (data : Binary) (memo : Option String) : IcaPacketData := ⟨1, data, memo⟩

/-- Creates a new IcaPacketData from a list of JSON strings. -/
def fromJsonStrings (messages : List String) (memo : Option String) :
    Except ContractError IcaPacketData :=
  let combinedMessages := ", ".intercalate messages
  let jsonTxs := "\x7b\"messages\": [" ++ combinedMessages ++ "]\x7d"
  .ok (new jsonTxs.utf8 memo)

/-- Creates a new IcaPacketData from a list of `Any` messages. -/
def fromProtoAnys (messages : List ProtoAny) (memo : Option String) : IcaPacketData :=
  let cosmosTx : CosmosTx := ⟨messages⟩
  new cosmosTx.encodeToVec memo

def toJson (p : IcaPacketData) : Json :=
  .obj ([("type", .num p.type.toNat),
    ("data", .arr (p.data.map fun b => .num b.toNat))] ++
    -- `skip_serializing_if = "Option::is_none"`
    (match p.memo with
    | some memo => [("memo", .str memo)]
    | none => []))

/-- `to_binary` of the packet data. -/
def toBinary (p : IcaPacketData) : Binary := (String.ofList p.toJson.print).utf8

/-- Creates an IBC SendPacket message from the IcaPacketData. -/
def toIbcMsg (p : IcaPacketData) (env : Env) (channelId : String)
    (timeoutSeconds : Option UInt64) : Except Fault IbcMsg := do
  let timeoutTimestamp ←
    orOverflow (env.block.time.plusSeconds (timeoutSeconds.getD defaultTimeoutSeconds))
  return .sendPacket channelId p.toBinary (IbcTimeout.withTimestamp timeoutTimestamp)

end IcaPacketData

/-! ### Acknowledgement events -/

namespace Events

/-- `attributes::from_packet`: the attributes for uniquely identifying a packet. -/
def fromPacket (packet : IbcPacket) : List Attribute :=
  [⟨"packet_sequence", packet.sequence.toNat.repr⟩, ⟨"packet_src_port", packet.src.portId⟩,
    ⟨"packet_src_channel", packet.src.channelId⟩]

/-- `packet_ack::success`. -/
def success (packet : IbcPacket) (resp : Binary) : Event :=
  ((Event.new "acknowledge_packet").addAttributes (fromPacket packet)).addAttribute
    "packet_ack_base64" (String.ofList (Base64.encode resp))

/-- `packet_ack::error`. -/
def error (packet : IbcPacket) (err : String) : Event :=
  ((Event.new "acknowledge_packet").addAttributes (fromPacket packet)).addAttribute "error" err

end Events

end IcaController
