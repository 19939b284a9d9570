/-
The contract's own types: its errors, its messages and its stored state
(`types/error.rs`, `types/msg.rs`, `types/state.rs`).

The entry points are written over the storage items, for any store that has them.  Here
the store is a record with one optional cell for each item, where a saved value loads as
itself.  What `cw_storage_plus` does between the items and the raw bytes under their
keys is in `Model/Store`.
-/
import IcaController.Model.CosmWasm

namespace IcaController

/-! ### Errors -/

/-- `types::ContractError`, the variants the contract raises. -/
inductive ContractError where
  | std (e : StdError)
  | unauthorized
  | invalidChannelOrdering
  | invalidHostPort
  | invalidControllerPort
  | invalidVersion (expected actual : String)
  | invalidAddress
  | unsupportedTxType (txType : String)
  | invalidConnection
  | unknownDataType (what : String)
  | activeChannelAlreadySet
  | invalidChannelInContractState
  | icaInfoNotSet
  deriving DecidableEq, Repr

/-- Why a call aborted: the crate is built with `panic = 'abort'`. -/
inductive Abort where
  | overflow
  | unreachable
  | unimplemented
  deriving DecidableEq, Repr

/-- How a call ends when it does not return `Ok`. -/
inductive Fault where
  | err (e : ContractError)
  | abort (why : Abort)
  deriving DecidableEq, Repr

/-- `Item::load` of `cw_storage_plus` names the type it found nothing of. -/
instance : NotFound Fault := ⟨fun typeName => .err (.std (.notFound typeName))⟩

/-- The `?` operator on a `Result` whose error is a `ContractError`. -/
def orErr {α : Type} : Except ContractError α → Except Fault α
  | .ok a => .ok a
  | .error e => .error (.err e)

/-- The `?` operator on a `StdResult`. -/
def orStdErr {α : Type} : Except StdError α → Except Fault α
  | .ok a => .ok a
  | .error e => .error (.err (.std e))

/-- Arithmetic under `overflow-checks`. -/
def orOverflow {α : Type} : Option α → Except Fault α
  | some a => .ok a
  | none => .error (.abort .overflow)

@[simp] theorem orErr_eq_ok {α : Type} {r : Except ContractError α} {a : α} :
    orErr r = .ok a ↔ r = .ok a := by
  cases r <;> simp [orErr]

@[simp] theorem orStdErr_eq_ok {α : Type} {r : Except StdError α} {a : α} :
    orStdErr r = .ok a ↔ r = .ok a := by
  cases r <;> simp [orStdErr]

@[simp] theorem orOverflow_eq_ok {α : Type} {o : Option α} {a : α} :
    orOverflow o = .ok a ↔ o = some a := by
  cases o <;> simp [orOverflow]

/-! ### Messages -/

structure InstantiateMsg where
  admin : Option String
  deriving DecidableEq, Repr

inductive ExecuteMsg where
  | sendCustomIcaMessages (messages : Binary) (packetMemo : Option String)
      (timeoutSeconds : Option UInt64)
  | icaBankSend (amount denom toAddress : String)
  deriving DecidableEq, Repr

inductive QueryMsg where
  | getChannel
  | getContractState
  | getCallbackCounter
  deriving DecidableEq, Repr

/-! ### State -/

/-- `ibc::types::metadata::TxEncoding`. -/
inductive TxEncoding where
  | protobuf
  | proto3Json
  deriving DecidableEq, Repr

structure IcaInfo where
  icaAddress : String
  channelId : String
  encoding : TxEncoding
  deriving DecidableEq, Repr

structure ContractState where
  admin : Addr
  icaInfo : Option IcaInfo
  deriving DecidableEq, Repr

namespace ContractState

def new (admin : Addr) : ContractState := ⟨admin, none⟩

/-- Checks if the address is the admin. -/
def verifyAdmin (st : ContractState) (sender : Addr) : Except ContractError Unit :=
  if st.admin = sender then .ok () else .error .unauthorized

def getIcaInfo (st : ContractState) : Except ContractError IcaInfo :=
  match st.icaInfo with
  | some info => .ok info
  | none => .error .icaInfoNotSet

def setIcaInfo (st : ContractState) (icaAddress channelId : String) (encoding : TxEncoding) :
    ContractState :=
  { st with icaInfo := some ⟨icaAddress, channelId, encoding⟩ }

@[simp] theorem verifyAdmin_eq_ok {st : ContractState} {sender : Addr} {u : Unit} :
    st.verifyAdmin sender = .ok u ↔ st.admin = sender := by
  unfold verifyAdmin
  split <;> simp_all

@[simp] theorem getIcaInfo_eq_ok {st : ContractState} {info : IcaInfo} :
    st.getIcaInfo = .ok info ↔ st.icaInfo = some info := by
  unfold getIcaInfo
  split <;> simp_all

end ContractState

structure CallbackCounter where
  success : UInt32
  error : UInt32
  timeout : UInt32
  deriving DecidableEq, Repr

namespace CallbackCounter

/-- `CallbackCounter::default`. -/
def default : CallbackCounter := ⟨0, 0, 0⟩

/-- `CallbackCounter::success`: increments the success counter. -/
def incSuccess (c : CallbackCounter) : Except Fault CallbackCounter := do
  return { c with success := ← orOverflow (checkedAddU32 c.success 1) }

/-- `CallbackCounter::error`: increments the error counter. -/
def incError (c : CallbackCounter) : Except Fault CallbackCounter := do
  return { c with error := ← orOverflow (checkedAddU32 c.error 1) }

/-- `CallbackCounter::timeout`: increments the timeout counter. -/
def incTimeout (c : CallbackCounter) : Except Fault CallbackCounter := do
  return { c with timeout := ← orOverflow (checkedAddU32 c.timeout 1) }

end CallbackCounter

inductive ChannelStatus where
  | uninitialized
  | init
  | tryOpen
  | open
  | closed
  deriving DecidableEq, Repr

structure ChannelState where
  channel : IbcChannel
  channelStatus : ChannelStatus
  deriving DecidableEq, Repr

namespace ChannelState

def newOpenChannel (channel : IbcChannel) : ChannelState := ⟨channel, .open⟩

def isOpen (cs : ChannelState) : Bool := cs.channelStatus = .open

def close (cs : ChannelState) : ChannelState := { cs with channelStatus := .closed }

@[simp] theorem isOpen_newOpenChannel (channel : IbcChannel) :
    (newOpenChannel channel).isOpen = true := rfl

@[simp] theorem channel_newOpenChannel (channel : IbcChannel) :
    (newOpenChannel channel).channel = channel := rfl

@[simp] theorem isOpen_close (cs : ChannelState) : cs.close.isOpen = false := rfl

@[simp] theorem channel_close (cs : ChannelState) : cs.close.channel = cs.channel := rfl

@[simp] theorem channelStatus_close (cs : ChannelState) :
    cs.close.channelStatus = .closed := rfl

end ChannelState

/-- `cw2::ContractVersion`. -/
structure ContractVersion where
  contract : String
  version : String
  deriving DecidableEq, Repr

/-! ### Storage items

The type names are what `type_name` gives for the records, in the crate they are
declared in.
-/

def ContractVersion.typeName : String := "cw2::ContractVersion"

def ContractState.typeName : String :=
  "cudos_wasm_ica_ibc_poc::types::state::contract::ContractState"

def ChannelState.typeName : String :=
  "cudos_wasm_ica_ibc_poc::types::state::channel::ChannelState"

def CallbackCounter.typeName : String :=
  "cudos_wasm_ica_ibc_poc::types::state::contract::CallbackCounter"

/-- A store with the contract's items. -/
class Items (σ : Type) where
  /-- `cw2`'s item. -/
  contractInfoItem : Item σ Fault ContractVersion
  /-- `STATE`. -/
  stateItem : Item σ Fault ContractState
  /-- `CHANNEL_STATE`. -/
  channelStateItem : Item σ Fault ChannelState
  /-- `CALLBACK_COUNTER`. -/
  callbackCounterItem : Item σ Fault CallbackCounter

export Items (contractInfoItem stateItem channelStateItem callbackCounterItem)

/-- The contract's storage, one cell for each item. -/
structure Storage where
  contractInfo : Option ContractVersion
  state : Option ContractState
  channelState : Option ChannelState
  callbackCounter : Option CallbackCounter
  deriving DecidableEq, Repr

def Storage.empty : Storage := ⟨none, none, none, none⟩

instance : Items Storage where
  contractInfoItem :=
    { typeName := ContractVersion.typeName
      read := fun s => .ok s.contractInfo
      write := fun v s => { s with contractInfo := some v } }
  stateItem :=
    { typeName := ContractState.typeName
      read := fun s => .ok s.state
      write := fun v s => { s with state := some v } }
  channelStateItem :=
    { typeName := ChannelState.typeName
      read := fun s => .ok s.channelState
      write := fun v s => { s with channelState := some v } }
  callbackCounterItem :=
    { typeName := CallbackCounter.typeName
      read := fun s => .ok s.callbackCounter
      write := fun v s => { s with callbackCounter := some v } }

@[simp] theorem contractInfoItem_write (v : ContractVersion) (s : Storage) :
    contractInfoItem.write v s = { s with contractInfo := some v } := rfl

@[simp] theorem stateItem_read (s : Storage) : stateItem.read s = .ok s.state := rfl

@[simp] theorem stateItem_write (st : ContractState) (s : Storage) :
    stateItem.write st s = { s with state := some st } := rfl

@[simp] theorem stateItem_typeName :
    (stateItem : Item Storage Fault ContractState).typeName = ContractState.typeName := rfl

@[simp] theorem channelStateItem_read (s : Storage) :
    channelStateItem.read s = .ok s.channelState := rfl

@[simp] theorem channelStateItem_write (cs : ChannelState) (s : Storage) :
    channelStateItem.write cs s = { s with channelState := some cs } := rfl

@[simp] theorem channelStateItem_typeName :
    (channelStateItem : Item Storage Fault ChannelState).typeName = ChannelState.typeName := rfl

theorem channelStateItem_find (s : Storage) : channelStateItem.find s =
    match s.channelState with
    | some cs => .ok cs
    | none => .error (NotFound.notFound ChannelState.typeName) := by
  unfold Item.find
  rw [channelStateItem_read]
  cases s.channelState <;> rfl

@[simp] theorem callbackCounterItem_read (s : Storage) :
    callbackCounterItem.read s = .ok s.callbackCounter := rfl

@[simp] theorem callbackCounterItem_write (c : CallbackCounter) (s : Storage) :
    callbackCounterItem.write c s = { s with callbackCounter := some c } := rfl

@[simp] theorem callbackCounterItem_typeName :
    (callbackCounterItem : Item Storage Fault CallbackCounter).typeName =
      CallbackCounter.typeName := rfl

end IcaController
