/-
The contract as its chain drives it: one machine over all entry points.

The chain calls entry points one at a time and drops what a failing call wrote.
A run starts from a successful `instantiate` on empty storage; the environment
rules below are the assumptions about `ibc-core` that results may name.
-/
import IcaController.Lib.Machine
import IcaController.Lib.Slot
import IcaController.Model.Contract
import IcaController.Model.Relay

namespace IcaController

/-- The entry points a running contract has, with their messages. -/
inductive EntryPoint where
  | execute (info : MessageInfo) (msg : ExecuteMsg)
  | query (msg : QueryMsg)
  | ibcChannelOpen (msg : IbcChannelOpenMsg)
  | ibcChannelConnect (msg : IbcChannelConnectMsg)
  | ibcChannelClose (msg : IbcChannelCloseMsg)
  | ibcPacketAck (msg : IbcPacketAckMsg)
  | ibcPacketTimeout (msg : IbcPacketTimeoutMsg)
  | ibcPacketReceive (msg : IbcPacketReceiveMsg)

/-- One call from the chain. -/
structure Invocation where
  deps : Deps
  env : Env
  entry : EntryPoint

/-- What an entry point returns. -/
inductive Answer where
  | response (r : Response)
  | channelOpen (r : IbcChannelOpenResponse)
  | basic (r : IbcBasicResponse)
  | query (r : QueryResponse)
  deriving DecidableEq

/-- The messages an answer asks the chain to dispatch. -/
def Answer.messages : Answer → List IbcMsg
  | .response r => r.messages
  | .basic r => r.messages
  | .channelOpen _ => []
  | .query _ => []

/-- Dispatch to the entry points. -/
def serve {σ : Type} [Items σ] (serde : SerdeJsonWasm) (i : Invocation) : Call σ Answer :=
  match i.entry with
  | .execute info msg => .response <$> execute i.env info msg
  | .query msg => .query <$> query msg
  | .ibcChannelOpen msg => .channelOpen <$> ibcChannelOpen serde i.deps msg
  | .ibcChannelConnect msg => .basic <$> ibcChannelConnect serde msg
  | .ibcChannelClose msg => .basic <$> ibcChannelClose msg
  | .ibcPacketAck msg => .basic <$> ibcPacketAck serde msg
  | .ibcPacketTimeout msg => .basic <$> ibcPacketTimeout msg
  | .ibcPacketReceive msg => .basic <$> ibcPacketReceive msg

/-- The contract on its chain. -/
def contract (serde : SerdeJsonWasm) : Machine Storage Invocation (Except Fault Answer) :=
  Machine.ofExec (serve serde)

/-- One call of a run of the contract. -/
abbrev ContractTurn := Turn Storage Invocation (Except Fault Answer)

/-- `instantiate` succeeds on empty storage and leaves `s₀`. -/
def Instantiates (deps : Deps) (info : MessageInfo) (msg : InstantiateMsg) (s₀ : Storage) : Prop :=
  ∃ r, Exec.Returns (instantiate deps info msg) Storage.empty r s₀

/-- The runs of an instantiated contract in an environment. -/
def ContractRuns (serde : SerdeJsonWasm) (allowed : List ContractTurn → Invocation → Prop)
    (past : List ContractTurn) (s : Storage) : Prop :=
  ∃ deps info msg s₀, Instantiates deps info msg s₀ ∧ (contract serde).Runs allowed s₀ past s

/-! ### What a turn did

Each function reads one kind of accepted call off a turn.  A turn that was turned down
is none of them, whatever it asked for.
-/

namespace ContractTurn

/-- An accepted `OpenInit`: its channel and the version the contract returned. -/
def openInit? (t : ContractTurn) : Option (IbcChannel × String) :=
  match t.call.entry, t.answer with
  | .ibcChannelOpen (.openInit channel), .ok (.channelOpen (some r)) => some (channel, r.version)
  | _, _ => none

/-- An accepted `OpenAck`: its channel and the counterparty's version. -/
def openAck? (t : ContractTurn) : Option (IbcChannel × String) :=
  match t.call.entry, t.answer with
  | .ibcChannelConnect (.openAck channel counterpartyVersion), .ok _ =>
      some (channel, counterpartyVersion)
  | _, _ => none

/-- An accepted `CloseConfirm`: its channel. -/
def closeConfirm? (t : ContractTurn) : Option IbcChannel :=
  match t.call.entry, t.answer with
  | .ibcChannelClose (.closeConfirm channel), .ok _ => some channel
  | _, _ => none

/-- An accepted timeout: its packet. -/
def timedOut? (t : ContractTurn) : Option IbcPacket :=
  match t.call.entry, t.answer with
  | .ibcPacketTimeout msg, .ok _ => some msg.packet
  | _, _ => none

/-- The messages an accepted turn dispatched. -/
def sent (t : ContractTurn) : List IbcMsg :=
  match t.answer with
  | .ok answer => answer.messages
  | .error _ => []

/--
What the turn says of the channels alive: an `OpenAck` opens its channel, a
`CloseConfirm` ends its own, and a timeout ends the one its packet was sent on.
-/
def peerEvent? (t : ContractTurn) : Option (PeerEvent String) :=
  match t.answer, t.call.entry with
  | .error _, _ => none
  | .ok _, .ibcChannelConnect (.openAck channel _) => some (.opened channel.endpoint.channelId)
  | .ok _, .ibcChannelClose (.closeConfirm channel) => some (.ended channel.endpoint.channelId)
  | .ok _, .ibcPacketTimeout msg => some (.ended msg.packet.src.channelId)
  | .ok _, _ => none

end ContractTurn

/-- The openings and endings of a past, newest first. -/
def history (past : List ContractTurn) : List (PeerEvent String) :=
  past.filterMap ContractTurn.peerEvent?

/-! ### Assumptions about ibc-core

A rule looks at the past and at the call that wants to come.  Nothing is in force unless
a result names it; what holds under `anyCall` holds of every environment.
-/

/-- The channel of an `OpenAck` is the one an `OpenInit` was for. -/
structure SameHandshake (opened acked : IbcChannel) : Prop where
  endpoint : acked.endpoint = opened.endpoint
  counterpartyPort : acked.counterpartyEndpoint.portId = opened.counterpartyEndpoint.portId
  order : acked.order = opened.order
  connectionId : acked.connectionId = opened.connectionId

/-- Calls that may come at a point of a run. -/
abbrev Rule := List ContractTurn → Invocation → Prop

/-- Any call at any time. -/
abbrev anyCall : Rule := Machine.Anything

/-- An `OpenAck` comes after an accepted `OpenInit` of its channel. -/
def ackAfterInit : Rule := fun past i =>
  ∀ channel cv, i.entry = .ibcChannelConnect (.openAck channel cv) →
    ∃ t ∈ past, ∃ opened v, t.openInit? = some (opened, v) ∧ SameHandshake opened channel

/-- No `OpenAck` comes for a channel id whose `OpenAck` was accepted. -/
def ackOnce : Rule := fun past i =>
  ∀ channel cv, i.entry = .ibcChannelConnect (.openAck channel cv) →
    .opened channel.endpoint.channelId ∉ history past

/-- At most one `OpenAck` comes for a channel, after its accepted `OpenInit`. -/
def ackPerInit : Rule := fun past i => ackAfterInit past i ∧ ackOnce past i

/--
An `OpenAck` comes after an accepted `OpenInit` of its channel, and the channel
carries the version that `OpenInit` returned.
-/
def ackCarriesVersion : Rule := fun past i =>
  ∀ channel cv, i.entry = .ibcChannelConnect (.openAck channel cv) →
    ∃ t ∈ past, ∃ opened, t.openInit? = some (opened, channel.version) ∧
      SameHandshake opened channel

/-- A timeout is of a packet the contract sent, reported with its source channel. -/
def timeoutOfSent : Rule := fun past i =>
  ∀ msg, i.entry = .ibcPacketTimeout msg →
    ∃ t ∈ past, .sendPacket msg.packet.src.channelId msg.packet.data msg.packet.timeout ∈ t.sent

/-- An acknowledgement is of a packet the contract sent, reported with its source channel. -/
def ackOfSent : Rule := fun past i =>
  ∀ msg, i.entry = .ibcPacketAck msg →
    ∃ t ∈ past, .sendPacket msg.originalPacket.src.channelId msg.originalPacket.data
      msg.originalPacket.timeout ∈ t.sent

/-- Only what was sent comes back. -/
def callbacksOfSent : Rule := fun past i => ackOfSent past i ∧ timeoutOfSent past i

/-- All of the rules, for runs that should look like those of a real chain. -/
def ibcCore : Rule := fun past i =>
  ackCarriesVersion past i ∧ ackOnce past i ∧ timeoutOfSent past i

end IcaController
