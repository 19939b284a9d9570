/-
How the other side reads what the contract sends.

These readers are not translated from the contract.  They are written from the
declared formats alone (member names, tags, field numbers, types) and are what the
printers are held against.  All of them are strict: an undeclared or a repeated
member, and an unknown field number, is refused, so that reading a text as a value
also says that nothing else is in it.
-/
import IcaController.Lib.Decimal
import IcaController.Model.Packet

namespace IcaController

/-! ### Members of an object -/

/-- Every member is declared, and none is repeated. -/
def declared (names : List String) (members : List (String × Json)) : Bool :=
  members.all (fun m => names.contains m.1) && decide (members.map Prod.fst).Nodup

def numberMember (name : String) (bound : Nat) (members : List (String × Json)) : Option Nat :=
  match Json.member? name members with
  | some (.num n) => if n < bound then some n else none
  | _ => none

def arrayMember (name : String) (members : List (String × Json)) : Option (List Json) :=
  match Json.member? name members with
  | some (.arr items) => some items
  | _ => none

/-- An optional string: absent and `null` both read as none. -/
def optionalMember (name : String) (members : List (String × Json)) : Option (Option String) :=
  match Json.member? name members with
  | none => some none
  | some .null => some none
  | some (.str s) => some (some s)
  | _ => none

/-! ### Packet data -/

def byteOfJson : Json → Option UInt8
  | .num n => if n < UInt8.size then some (UInt8.ofNat n) else none
  | _ => none

namespace IcaPacketData

def ofJson : Json → Option IcaPacketData
  | .obj members =>
      if declared ["type", "data", "memo"] members then do
        let type ← numberMember "type" UInt32.size members
        let data ← (← arrayMember "data" members).mapM byteOfJson
        return ⟨UInt32.ofNat type, data, ← optionalMember "memo" members⟩
      else none
  | _ => none

/-- The packet data some bytes stand for. -/
def ofBinary (data : Binary) : Option IcaPacketData := (jsonOfBinary data).bind ofJson

end IcaPacketData

/-! ### Messages in JSON -/

def Coin.ofJson : Json → Option Coin
  | .obj members =>
      if declared ["denom", "amount"] members then do
        let denom ← stringMember "denom" members
        let amount ← Decimal.read (← stringMember "amount" members).toList
        return ⟨denom, amount⟩
      else none
  | _ => none

def coinsMember (name : String) (members : List (String × Json)) : Option (List Coin) := do
  (← arrayMember name members).mapM Coin.ofJson

def Height.ofJson : Json → Option Height
  | .obj members =>
      if declared ["revision_number", "revision_height"] members then do
        let number ← numberMember "revision_number" UInt64.size members
        let height ← numberMember "revision_height" UInt64.size members
        return ⟨UInt64.ofNat number, UInt64.ofNat height⟩
      else none
  | _ => none

namespace ExampleCosmosMessages

/-- The messages without a message inside, by their tag. -/
def ofMembers (members : List (String × Json)) : String → Option ExampleCosmosMessages
  | "/cosmos.bank.v1beta1.MsgSend" =>
      if declared ["@type", "from_address", "to_address", "amount"] members then do
        return msgSend (← stringMember "from_address" members)
          (← stringMember "to_address" members) (← coinsMember "amount" members)
      else none
  | "/cosmos.staking.v1beta1.MsgDelegate" =>
      if declared ["@type", "delegator_address", "validator_address", "amount"] members then do
        return msgDelegate (← stringMember "delegator_address" members)
          (← stringMember "validator_address" members)
          (← Coin.ofJson (← Json.member? "amount" members))
      else none
  | "/cosmos.gov.v1beta1.MsgVote" =>
      if declared ["@type", "voter", "proposal_id", "option"] members then do
        return msgVote (← stringMember "voter" members)
          (UInt64.ofNat (← numberMember "proposal_id" UInt64.size members))
          (UInt32.ofNat (← numberMember "option" UInt32.size members))
      else none
  | "/cosmos.gov.v1beta1.TextProposal" =>
      if declared ["@type", "title", "description"] members then do
        return textProposal (← stringMember "title" members) (← stringMember "description" members)
      else none
  | "/cosmos.gov.v1beta1.MsgDeposit" =>
      if declared ["@type", "proposal_id", "depositor", "amount"] members then do
        return msgDeposit (UInt64.ofNat (← numberMember "proposal_id" UInt64.size members))
          (← stringMember "depositor" members) (← coinsMember "amount" members)
      else none
  | "/ibc.applications.transfer.v1.MsgTransfer" =>
      if declared ["@type", "source_port", "source_channel", "token", "sender", "receiver",
          "timeout_height", "timeout_timestamp", "memo"] members then do
        return msgTransfer (← stringMember "source_port" members)
          (← stringMember "source_channel" members)
          (← Coin.ofJson (← Json.member? "token" members)) (← stringMember "sender" members)
          (← stringMember "receiver" members)
          (← Height.ofJson (← Json.member? "timeout_height" members))
          (UInt64.ofNat (← numberMember "timeout_timestamp" UInt64.size members))
          (← optionalMember "memo" members)
      else none
  | _ => none

theorem sizeOf_member {name : String} {members : List (String × Json)} {v : Json}
    (h : Json.member? name members = some v) : sizeOf v < sizeOf members := by
  induction members with
  | nil => cases h
  | cons m members ih =>
      obtain ⟨k, w⟩ := m
      simp only [Json.member?] at h
      split at h
      · cases h
        simp
        omega
      · have := ih h
        simp
        omega

/-- A message, by its tag; a proposal's content is a message again. -/
def ofJson (j : Json) : Option ExampleCosmosMessages :=
  match j with
  | .obj members => do
      let tag ← stringMember "@type" members
      if tag = "/cosmos.gov.v1beta1.MsgSubmitProposal" then
        if declared ["@type", "content", "initial_deposit", "proposer"] members then
          match _h : Json.member? "content" members with
          | some content => do
              return msgSubmitProposalLegacy (← ofJson content)
                (← coinsMember "initial_deposit" members) (← stringMember "proposer" members)
          | none => none
        else none
      else ofMembers members tag
  | _ => none
termination_by sizeOf j
decreasing_by
  have := sizeOf_member ‹_›
  simp
  omega

end ExampleCosmosMessages

/-- The items of a transaction in JSON: an object whose only member is the list of them. -/
def jsonItems (data : Binary) : Option (List Json) :=
  match jsonOfBinary data with
  | some (.obj members) =>
      if declared ["messages"] members then arrayMember "messages" members else none
  | _ => none

/-! ### Messages in protobuf -/

/-- Every field of a message is declared. -/
def declaredFields (numbers : List Nat) (fields : List (Nat × Binary)) : Bool :=
  fields.all fun f => numbers.contains f.1

def ProtoCoin.decode (b : Binary) : Option ProtoCoin := do
  let fields ← Protobuf.readFields b
  if declaredFields [1, 2] fields then do
    return ⟨← Protobuf.stringOf 1 fields, ← Protobuf.stringOf 2 fields⟩
  else none

def MsgSend.decode (b : Binary) : Option MsgSend := do
  let fields ← Protobuf.readFields b
  if declaredFields [1, 2, 3] fields then do
    return ⟨← Protobuf.stringOf 1 fields, ← Protobuf.stringOf 2 fields,
      ← (Protobuf.allOf 3 fields).mapM ProtoCoin.decode⟩
  else none

def ProtoAny.decode (b : Binary) : Option ProtoAny := do
  let fields ← Protobuf.readFields b
  if declaredFields [1, 2] fields then do
    return ⟨← Protobuf.stringOf 1 fields, Protobuf.lastOf 2 fields⟩
  else none

def CosmosTx.decode (b : Binary) : Option CosmosTx := do
  let fields ← Protobuf.readFields b
  if declaredFields [1] fields then do
    return ⟨← (Protobuf.allOf 1 fields).mapM ProtoAny.decode⟩
  else none

/-- A `QueryConnectionRequest`, read as the connection id it asks for. -/
def connectionAsked (b : Binary) : Option String := do
  let fields ← Protobuf.readFields b
  if declaredFields [1] fields then Protobuf.stringOf 1 fields else none

/-! ### Bank sends in either encoding

The two encodings carry a bank send in different types.  Here both are read as the same
one, so that what is asked of a transaction can be asked once.
-/

/-- A bank send in an `Any`. -/
def MsgSend.ofAny (a : ProtoAny) : Option MsgSend :=
  if a.typeUrl = "/cosmos.bank.v1beta1.MsgSend" then MsgSend.decode a.value else none

/-- A bank send in JSON, its amounts in decimal. -/
def MsgSend.ofMessage : ExampleCosmosMessages → Option MsgSend
  | .msgSend fromAddress toAddress amount =>
      some ⟨fromAddress, toAddress, amount.map fun c => ⟨c.denom, c.amount.repr⟩⟩
  | _ => none

/-- The messages of a transaction that consists of bank sends. -/
def readSends : TxEncoding → Binary → Option (List MsgSend)
  | .protobuf, data => do (← CosmosTx.decode data).messages.mapM MsgSend.ofAny
  | .proto3Json, data => do
      (← jsonItems data).mapM fun item => do MsgSend.ofMessage (← ExampleCosmosMessages.ofJson item)

/-! ### Acknowledgements -/

/-- An acknowledgement as the host writes it. -/
def AcknowledgementData.toJson : AcknowledgementData → Json
  | .result data => .obj [("result", .str (String.ofList (Base64.encode data)))]
  | .error message => .obj [("error", .str message)]

def AcknowledgementData.toBinary (ack : AcknowledgementData) : Binary :=
  (String.ofList ack.toJson.print).utf8

end IcaController
