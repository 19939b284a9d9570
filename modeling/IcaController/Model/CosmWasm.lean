/-
The part of cosmwasm-std 1.2.4 the contract is written against.

Only what the contract reads or returns is here.  Machine integers are Lean's
fixed-width ones, and arithmetic on them is checked: the crate is built with
`overflow-checks`, so an addition or a multiplication that does not fit aborts the
call instead of wrapping.
-/
import IcaController.Lib.Exec
import IcaController.Lib.Protobuf

namespace IcaController

/-- `cosmwasm_std::Addr`. -/
abbrev Addr := String

/-- `cosmwasm_std::Binary`. -/
abbrev Binary := Bytes

/-- `cosmwasm_std::StdError`, the variants the contract can meet. -/
inductive StdError where
  | genericErr (msg : String)
  | notFound (kind : String)
  | parseErr (targetType msg : String)
  deriving DecidableEq, Repr

/-! ### Checked arithmetic

The contract is built with overflow checks, so an operation that does not fit aborts the
call; it never wraps.
-/

def checkedAddU32 (a b : UInt32) : Option UInt32 :=
  if a.toNat + b.toNat < UInt32.size then some (a + b) else none

def checkedAddU64 (a b : UInt64) : Option UInt64 :=
  if a.toNat + b.toNat < UInt64.size then some (a + b) else none

def checkedMulU64 (a b : UInt64) : Option UInt64 :=
  if a.toNat * b.toNat < UInt64.size then some (a * b) else none

/-! ### Time and environment -/

/-- `cosmwasm_std::Timestamp`: nanoseconds since the epoch. -/
structure Timestamp where
  nanos : UInt64
  deriving DecidableEq, Repr

/-- `Timestamp::plus_nanos`. -/
def Timestamp.plusNanos (t : Timestamp) (addition : UInt64) : Option Timestamp := do
  return ⟨← checkedAddU64 t.nanos addition⟩

/-- `Timestamp::plus_seconds`. -/
def Timestamp.plusSeconds (t : Timestamp) (addition : UInt64) : Option Timestamp := do
  t.plusNanos (← checkedMulU64 addition 1000000000)

structure BlockInfo where
  time : Timestamp
  deriving DecidableEq, Repr

structure Env where
  block : BlockInfo
  deriving DecidableEq, Repr

structure MessageInfo where
  sender : Addr
  deriving DecidableEq, Repr

/-! ### Channels and packets -/

structure IbcEndpoint where
  portId : String
  channelId : String
  deriving DecidableEq, Repr

inductive IbcOrder where
  | unordered
  | ordered
  deriving DecidableEq, Repr

structure IbcChannel where
  endpoint : IbcEndpoint
  counterpartyEndpoint : IbcEndpoint
  order : IbcOrder
  version : String
  connectionId : String
  deriving DecidableEq, Repr

structure IbcTimeoutBlock where
  revision : UInt64
  height : UInt64
  deriving DecidableEq, Repr

structure IbcTimeout where
  block : Option IbcTimeoutBlock
  timestamp : Option Timestamp
  deriving DecidableEq, Repr

/-- `IbcTimeout::with_timestamp`. -/
def IbcTimeout.withTimestamp (timestamp : Timestamp) : IbcTimeout := ⟨none, some timestamp⟩

structure IbcPacket where
  data : Binary
  src : IbcEndpoint
  dest : IbcEndpoint
  sequence : UInt64
  timeout : IbcTimeout
  deriving DecidableEq, Repr

/-- `cosmwasm_std::IbcMsg`, the variant the contract sends. -/
inductive IbcMsg where
  | sendPacket (channelId : String) (data : Binary) (timeout : IbcTimeout)
  deriving DecidableEq, Repr

/-! ### The messages of the IBC entry points

A controller has no use for `OpenTry`, `OpenConfirm` and `CloseInit` and aborts on them, but
it is handed them all the same.
-/

inductive IbcChannelOpenMsg where
  | openInit (channel : IbcChannel)
  | openTry (channel : IbcChannel) (counterpartyVersion : String)
  deriving DecidableEq, Repr

inductive IbcChannelConnectMsg where
  | openAck (channel : IbcChannel) (counterpartyVersion : String)
  | openConfirm (channel : IbcChannel)
  deriving DecidableEq, Repr

inductive IbcChannelCloseMsg where
  | closeInit (channel : IbcChannel)
  | closeConfirm (channel : IbcChannel)
  deriving DecidableEq, Repr

structure IbcAcknowledgement where
  data : Binary
  deriving DecidableEq, Repr

structure IbcPacketAckMsg where
  acknowledgement : IbcAcknowledgement
  originalPacket : IbcPacket
  deriving DecidableEq, Repr

structure IbcPacketTimeoutMsg where
  packet : IbcPacket
  deriving DecidableEq, Repr

structure IbcPacketReceiveMsg where
  packet : IbcPacket
  deriving DecidableEq, Repr

/-! ### Responses -/

structure Attribute where
  key : String
  value : String
  deriving DecidableEq, Repr

/-- `cosmwasm_std::Event`. -/
structure Event where
  ty : String
  attributes : List Attribute
  deriving DecidableEq, Repr

def Event.new (ty : String) : Event := ⟨ty, []⟩

def Event.addAttributes (e : Event) (attrs : List Attribute) : Event :=
  { e with attributes := e.attributes ++ attrs }

def Event.addAttribute (e : Event) (key value : String) : Event :=
  { e with attributes := e.attributes ++ [⟨key, value⟩] }

/-- `cosmwasm_std::Response`. -/
structure Response where
  messages : List IbcMsg := []
  attributes : List Attribute := []
  events : List Event := []
  data : Option Binary := none
  deriving DecidableEq, Repr

def Response.addMessage (r : Response) (m : IbcMsg) : Response :=
  { r with messages := r.messages ++ [m] }

/-- `cosmwasm_std::IbcBasicResponse`. -/
structure IbcBasicResponse where
  messages : List IbcMsg := []
  attributes : List Attribute := []
  events : List Event := []
  deriving DecidableEq, Repr

def IbcBasicResponse.addEvent (r : IbcBasicResponse) (e : Event) : IbcBasicResponse :=
  { r with events := r.events ++ [e] }

structure Ibc3ChannelOpenResponse where
  version : String
  deriving DecidableEq, Repr

/-- `cosmwasm_std::IbcChannelOpenResponse`. -/
abbrev IbcChannelOpenResponse := Option Ibc3ChannelOpenResponse

structure Coin where
  denom : String
  amount : Nat
  deriving DecidableEq, Repr

/-- `cosmwasm_std::coins`: a list of one coin. -/
def coins (amount : Nat) (denom : String) : List Coin := [⟨denom, amount⟩]

end IcaController
