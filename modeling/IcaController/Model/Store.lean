/-
The contract over the bytes its chain stores for it and passes to it (`types/state.rs`,
`types/msg.rs`).

Here the storage items are what they are in the source: a key, and a record printed as
JSON under it.  A load looks the key up and reads the bytes, so it can also fail on bytes
that are no record.  The entry points are the same ones, over this store.  A query answers
with `to_binary` of its record, and a user's message is read from JSON first.
-/
import IcaController.Lib.KeyValue
import IcaController.Model.Chain
import IcaController.Model.Records

namespace IcaController

/-- `cosmwasm_std::from_slice`, at the types stored. -/
structure StoreSerde where
  contractVersion : Binary → Except StdError ContractVersion
  contractState : Binary → Except StdError ContractState
  channelState : Binary → Except StdError ChannelState
  callbackCounter : Binary → Except StdError CallbackCounter

/-- `from_slice` inverts `to_vec` on every record. -/
structure StoreSerde.InvertsToVec (store : StoreSerde) : Prop where
  contractVersion : ∀ v : ContractVersion, store.contractVersion (jsonBytes v.toJson) = .ok v
  contractState : ∀ st : ContractState, store.contractState (jsonBytes st.toJson) = .ok st
  channelState : ∀ cs : ChannelState, store.channelState (jsonBytes cs.toJson) = .ok cs
  callbackCounter : ∀ c : CallbackCounter, store.callbackCounter (jsonBytes c.toJson) = .ok c

namespace Stored

variable (store : StoreSerde) (serde : SerdeJsonWasm)

/-! ### Items

The keys and codecs of the four records.  Here a read can fail in a way it cannot over
records: the bytes may not decode.
-/

/-- `cw2`'s item. -/
def contractInfoItem : CodedItem Fault ContractVersion where
  key := "contract_info"
  typeName := ContractVersion.typeName
  encode v := jsonBytes v.toJson
  decode b := orStdErr (store.contractVersion b)

/-- `STATE`. -/
def stateItem : CodedItem Fault ContractState where
  key := "state"
  typeName := ContractState.typeName
  encode st := jsonBytes st.toJson
  decode b := orStdErr (store.contractState b)

/-- `CHANNEL_STATE`. -/
def channelStateItem : CodedItem Fault ChannelState where
  key := "ica_channel"
  typeName := ChannelState.typeName
  encode cs := jsonBytes cs.toJson
  decode b := orStdErr (store.channelState b)

/-- `CALLBACK_COUNTER`. -/
def callbackCounterItem : CodedItem Fault CallbackCounter where
  key := "callback_counter"
  typeName := CallbackCounter.typeName
  encode c := jsonBytes c.toJson
  decode b := orStdErr (store.callbackCounter b)

/-- The items over bytes. -/
abbrev items : Items KeyValue where
  contractInfoItem := (contractInfoItem store).toItem
  stateItem := (stateItem store).toItem
  channelStateItem := (channelStateItem store).toItem
  callbackCounterItem := (callbackCounterItem store).toItem

/-! ### The machine -/

/-- What an entry point returns. -/
inductive Answer where
  | response (r : Response)
  | channelOpen (r : IbcChannelOpenResponse)
  | basic (r : IbcBasicResponse)
  | query (b : Binary)
  deriving DecidableEq

end Stored

/-- The answer as the contract over bytes gives it: `to_binary` of a query's record. -/
def Answer.stored : Answer → Stored.Answer
  | .response r => .response r
  | .channelOpen r => .channelOpen r
  | .basic r => .basic r
  | .query (.state st) => .query (jsonBytes st.toJson)
  | .query (.channel cs) => .query (jsonBytes cs.toJson)
  | .query (.callbackCounter c) => .query (jsonBytes c.toJson)

namespace Stored

variable (store : StoreSerde) (serde : SerdeJsonWasm)

/-- Dispatch to the entry points, over bytes. -/
def serve (i : Invocation) : Call KeyValue Answer :=
  letI := items store
  IcaController.Answer.stored <$> IcaController.serve serde i

/-- The contract on its chain, over bytes. -/
def contract : Machine KeyValue Invocation (Except Fault Answer) :=
  Machine.ofExec (serve store serde)

/-- `instantiate` over bytes. -/
def instantiate (deps : Deps) (info : MessageInfo) (msg : InstantiateMsg) :
    Call KeyValue Response :=
  letI := items store
  IcaController.instantiate deps info msg

/-- `instantiate` succeeds on an empty store and leaves `kv`. -/
def Instantiates (deps : Deps) (info : MessageInfo) (msg : InstantiateMsg) (kv : KeyValue) : Prop :=
  ∃ r, Exec.Returns (instantiate store deps info msg) KeyValue.empty r kv

end Stored

/-! ### Messages as bytes

The exported entry points are handed a message as JSON and read it before the contract
sees it.  A message that does not read is an error like any other of `StdError`.  The
messages of the IBC module are taken as read.
-/

/-- `cosmwasm_std::from_slice`, at the messages users send. -/
structure MsgSerde where
  instantiateMsg : Binary → Except StdError InstantiateMsg
  executeMsg : Binary → Except StdError ExecuteMsg
  queryMsg : Binary → Except StdError QueryMsg

/-- `from_slice` inverts the printing of every message. -/
structure MsgSerde.InvertsToVec (msgs : MsgSerde) : Prop where
  instantiateMsg : ∀ msg : InstantiateMsg, msgs.instantiateMsg (jsonBytes msg.toJson) = .ok msg
  executeMsg : ∀ msg : ExecuteMsg, msgs.executeMsg (jsonBytes msg.toJson) = .ok msg
  queryMsg : ∀ msg : QueryMsg, msgs.queryMsg (jsonBytes msg.toJson) = .ok msg

/-- The exported entry points, with what they are handed. -/
inductive RawEntryPoint where
  | execute (info : MessageInfo) (msg : Binary)
  | query (msg : Binary)
  | ibcModule (entry : EntryPoint)

/-- One call from the chain, with its message as it comes. -/
structure RawInvocation where
  deps : Deps
  env : Env
  entry : RawEntryPoint

/-- Read the message of an exported entry point. -/
def RawEntryPoint.parse (msgs : MsgSerde) : RawEntryPoint → Except StdError EntryPoint
  | .execute info msg => do return .execute info (← msgs.executeMsg msg)
  | .query msg => do return .query (← msgs.queryMsg msg)
  | .ibcModule entry => .ok entry

/-- The entry point as it is handed a message printed as JSON. -/
def EntryPoint.raw : EntryPoint → RawEntryPoint
  | .execute info msg => .execute info (jsonBytes msg.toJson)
  | .query msg => .query (jsonBytes msg.toJson)
  | entry => .ibcModule entry

def Invocation.raw (i : Invocation) : RawInvocation := ⟨i.deps, i.env, i.entry.raw⟩

namespace Exported

variable (msgs : MsgSerde) (store : StoreSerde) (serde : SerdeJsonWasm)

/-- Read the message, then serve it. -/
def serve (i : RawInvocation) : Call KeyValue Stored.Answer := do
  let entry ← liftExcept (orStdErr (i.entry.parse msgs))
  Stored.serve store serde ⟨i.deps, i.env, entry⟩

/-- The contract on its chain, over bytes and called with bytes. -/
def contract : Machine KeyValue RawInvocation (Except Fault Stored.Answer) :=
  Machine.ofExec (serve msgs store serde)

def instantiate (deps : Deps) (info : MessageInfo) (msg : Binary) : Call KeyValue Response := do
  let msg ← liftExcept (orStdErr (msgs.instantiateMsg msg))
  Stored.instantiate store deps info msg

/-- `instantiate` succeeds on an empty store and leaves `kv`. -/
def Instantiates (deps : Deps) (info : MessageInfo) (msg : Binary) (kv : KeyValue) : Prop :=
  ∃ r, Exec.Returns (instantiate msgs store deps info msg) KeyValue.empty r kv

end Exported

/-! ### A reader of the records and messages -/

/-- A reader of the declared format, as a deserializer. -/
def orParseErr {α : Type} (targetType : String) : Option α → Except StdError α
  | some a => .ok a
  | none => .error (.parseErr targetType "Invalid type")

/-- The deserializers of the records, as readers of the declared formats. -/
def storeReader : StoreSerde where
  contractVersion b := orParseErr "ContractVersion" (readBytes ContractVersion.ofJson b)
  contractState b := orParseErr "ContractState" (readBytes ContractState.ofJson b)
  channelState b := orParseErr "ChannelState" (readBytes ChannelState.ofJson b)
  callbackCounter b := orParseErr "CallbackCounter" (readBytes CallbackCounter.ofJson b)

/-- The deserializers of the messages, as readers of the declared formats. -/
def msgReader : MsgSerde where
  instantiateMsg b := orParseErr "InstantiateMsg" (readBytes InstantiateMsg.ofJson b)
  executeMsg b := orParseErr "ExecuteMsg" (readBytes ExecuteMsg.ofJson b)
  queryMsg b := orParseErr "QueryMsg" (readBytes QueryMsg.ofJson b)

end IcaController
