/-
The entry points a user or an instantiator reaches (`contract.rs`).
-/
import IcaController.Model.Handshake
import IcaController.Model.Packet

namespace IcaController

variable {σ : Type} [Items σ]

/-- `CONTRACT_NAME`. -/
def contractName : String := "cudos-wasm-ica-ibc-poc"

/-- `CONTRACT_VERSION`. -/
def contractVersion : String := "1.0.0"

/-- Instantiates the contract. -/
def instantiate (deps : Deps) (info : MessageInfo) (msg : InstantiateMsg) : Call σ Response := do
  contractInfoItem.save ⟨contractName, contractVersion⟩
  let admin ←
    match msg.admin with
    | some admin => liftExcept (orStdErr (deps.addrValidate admin))
    | none => pure info.sender
  -- Save the admin. Ica address is determined during handshake.
  stateItem.save (ContractState.new admin)
  -- Initialize the callback counter.
  callbackCounterItem.save CallbackCounter.default
  return {}

/-! ### `mod execute`

Both check the sender and end in a `sendPacket` on the account's channel.  The custom one
brings the packet's data along; the bank send has it made, in the encoding of the account.
-/

namespace Execute

/-- `str::parse::<u128>`: an optional plus sign, then decimal digits, in range. -/
def parseU128 (s : String) : Option Nat :=
  let digits :=
    match s.toList with
    | '+' :: rest => rest
    | cs => cs
  if digits = [] || !digits.all Char.isDigit then none
  else
    -- `u128::MAX` is the largest value below the square of the 64-bit range
    let value := Nat.ofDigitChars 10 digits 0
    if value < UInt64.size * UInt64.size then some value else none

/-- Sends custom messages to the ICA host. -/
def sendCustomIcaMessages (env : Env) (info : MessageInfo) (messages : Binary)
    (packetMemo : Option String) (timeoutSeconds : Option UInt64) : Call σ Response := do
  let contractState ← stateItem.load
  liftExcept (orErr (contractState.verifyAdmin info.sender))
  let icaInfo ← liftExcept (orErr contractState.getIcaInfo)
  let icaPacket := IcaPacketData.new messages packetMemo
  let sendPacketMsg ← liftExcept (icaPacket.toIbcMsg env icaInfo.channelId timeoutSeconds)
  return ({} : Response).addMessage sendPacketMsg

/-- The packet of `ica_bank_send`, in the encoding negotiated for the account. -/
def bankSendPacket (icaInfo : IcaInfo) (amount denom toAddress : String) :
    Except ContractError IcaPacketData :=
  match icaInfo.encoding with
  | .protobuf =>
      let predefinedProtoMessage : MsgSend :=
        { fromAddress := icaInfo.icaAddress, toAddress, amount := [⟨denom, amount⟩] }
      .ok (IcaPacketData.fromProtoAnys [predefinedProtoMessage.toAny] none)
  | .proto3Json =>
      match parseU128 amount with
      | none => .error (.unknownDataType amount)
      | some amountU128 =>
          let predefinedJsonMessage :=
            ExampleCosmosMessages.msgSend icaInfo.icaAddress toAddress (coins amountU128 denom)
          IcaPacketData.fromJsonStrings [predefinedJsonMessage.toString] none

/-- Sends a predefined action to the ICA host. -/
def icaBankSend (env : Env) (info : MessageInfo) (amount denom toAddress : String) :
    Call σ Response := do
  let contractState ← stateItem.load
  liftExcept (orErr (contractState.verifyAdmin info.sender))
  let icaInfo ← liftExcept (orErr contractState.getIcaInfo)
  let icaPacket ← liftExcept (orErr (bankSendPacket icaInfo amount denom toAddress))
  let sendPacketMsg ← liftExcept (icaPacket.toIbcMsg env icaInfo.channelId none)
  return ({} : Response).addMessage sendPacketMsg

end Execute

/-- Handles the execution of the contract. -/
def execute (env : Env) (info : MessageInfo) : ExecuteMsg → Call σ Response
  | .sendCustomIcaMessages messages packetMemo timeoutSeconds =>
      Execute.sendCustomIcaMessages env info messages packetMemo timeoutSeconds
  | .icaBankSend amount denom toAddress => Execute.icaBankSend env info amount denom toAddress

/-! ### `mod query` -/

/-- The record a query returns, before `to_binary`. -/
inductive QueryResponse where
  | state (st : ContractState)
  | channel (cs : ChannelState)
  | callbackCounter (c : CallbackCounter)
  deriving DecidableEq, Repr

/-- Handles the query of the contract. -/
def query : QueryMsg → Call σ QueryResponse
  | .getContractState => return .state (← stateItem.load)
  | .getChannel => return .channel (← channelStateItem.load)
  | .getCallbackCounter => return .callbackCounter (← callbackCounterItem.load)

end IcaController
