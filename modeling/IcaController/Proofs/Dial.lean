/-
Handshakes that go through, and what follows them.

The two halves of a handshake are checked by different handlers from different
texts.  This file says which proposals `OpenInit` accepts and which answers
`OpenAck` accepts, so that a run of a real chain can be extended by either half,
and then by the sends, timeouts and closings of the channel it opened.
-/
import IcaController.Proofs.Runs

namespace IcaController

variable {serde : SerdeJsonWasm} {past : List ContractTurn} {s : Storage} {st : ContractState}
  {deps : Deps} {channel : IbcChannel} {m r : IcaMetadata}

/-! ### The two halves -/

/-- The text of metadata is never the empty version. -/
theorem toString_isEmpty (m : IcaMetadata) : m.toString.isEmpty = false := by
  have hprint : ∃ rest, m.toJson.print = '\x7b' :: rest := ⟨_, rfl⟩
  obtain ⟨rest, hrest⟩ := hprint
  simp [IcaMetadata.toString, hrest]

/-- The metadata may be proposed in a state: nothing is stored open, and the terms do not change. -/
def Follows (serde : SerdeJsonWasm) (s : Storage) (m : IcaMetadata) : Prop :=
  ∀ cs, s.channelState = some cs → cs.isOpen = false ∧
    ∃ previous, serde.fromStr cs.channel.version = some previous ∧ SameTerms m previous

/-- Anything may be proposed while nothing is stored. -/
theorem Follows.of_none (h : s.channelState = none) : Follows serde s m := by
  intro cs hcs
  rw [h] at hcs
  cases hcs

/-- The terms of a closed channel may be proposed again. -/
theorem Follows.of_closed {cs : ChannelState} (hcs : s.channelState = some cs)
    (hclosed : cs.isOpen = false) (hdec : serde.fromStr cs.channel.version = some m) :
    Follows serde s m := by
  intro stored hstored
  rw [hcs, Option.some.injEq] at hstored
  subst hstored
  exact ⟨hclosed, m, hdec, .refl m⟩

/-- A channel whose version spells out metadata that is valid for it. -/
structure Negotiable (channel : IbcChannel) (m : IcaMetadata) : Prop where
  ordered : channel.order = .ordered
  hostPort : channel.counterpartyEndpoint.portId = hostPortId
  controllerPort : channel.endpoint.portId ≠ hostPortId
  version : channel.version = m.toString
  valid : ValidFor m channel.connectionId

/-- `OpenInit` accepts what may be proposed. -/
theorem Negotiable.initAccepts (h : Negotiable channel m) (hinv : serde.InvertsToString)
    (hfollows : Follows serde s m) : InitAccepts serde deps s channel m where
  ordered := h.ordered
  hostPort := h.hostPort
  proposed := by
    rw [proposal, h.version, toString_isEmpty, if_neg Bool.false_ne_true]
    exact hinv m
  valid := validate_eq_ok.mpr h.valid
  previous := by
    intro cs hcs
    obtain ⟨hclosed, previous, hdec, hsame⟩ := hfollows cs hcs
    exact ⟨hclosed, isPreviousVersionEqual_iff.mpr ⟨previous, hdec, hsame⟩⟩

/-- `OpenAck` accepts an answer that is valid and names an account. -/
theorem AckAccepts.of_text (hinv : serde.InvertsToString)
    (hport : channel.endpoint.portId ≠ hostPortId) (hvalid : ValidFor r channel.connectionId)
    (hnamed : r.address ≠ "") (hst : s.state = some st) :
    AckAccepts serde s channel r.toString r st :=
  ⟨hport, hinv r, validate_eq_ok.mpr hvalid, hnamed, hst⟩

/-! ### Runs of a real chain

The rules of `ibcCore` speak of `OpenAck`s and timeouts alone; every other call may come
at any point of a run.
-/

/-- A channel as `OpenInit` sees it: the counterparty has not named its end yet. -/
def IbcChannel.offered (channel : IbcChannel) : IbcChannel :=
  { channel with counterpartyEndpoint := { channel.counterpartyEndpoint with channelId := "" } }

theorem Negotiable.offered (h : Negotiable channel m) : Negotiable channel.offered m :=
  ⟨h.ordered, h.hostPort, h.controllerPort, h.version, h.valid⟩

theorem ackPerInit_of_ibcCore {i : Invocation} (h : ibcCore past i) : ackPerInit past i := by
  refine ⟨?_, h.2.1⟩
  intro channel cv hentry
  obtain ⟨t, ht, opened, hi, hsame⟩ := h.1 channel cv hentry
  exact ⟨t, ht, opened, _, hi, hsame⟩

/-- The rules constrain `OpenAck`s and timeouts only. -/
theorem ibcCore_of_entry {i : Invocation}
    (hack : ∀ channel cv, i.entry ≠ .ibcChannelConnect (.openAck channel cv))
    (htimeout : ∀ msg, i.entry ≠ .ibcPacketTimeout msg) : ibcCore past i :=
  ⟨fun channel cv h => absurd h (hack channel cv), fun channel cv h => absurd h (hack channel cv),
    fun msg h => absurd h (htimeout msg)⟩

/-- A run of a real chain goes on with an `OpenInit`. -/
theorem ContractRuns.offer (h : ContractRuns serde ibcCore past s) (deps : Deps) (env : Env)
    (hinv : serde.InvertsToString) (hchan : Negotiable channel m) (hfollows : Follows serde s m) :
    ContractRuns serde ibcCore
      (⟨s, ⟨deps, env, .ibcChannelOpen (.openInit channel.offered)⟩,
        .ok (.channelOpen (some ⟨m.toString⟩)), s⟩ :: past) s :=
  h.accept (ibcCore_of_entry (by simp) (by simp))
    (.openInit (hchan.offered.initAccepts hinv hfollows))

/-- A run of a real chain goes on with an `OpenAck` of a channel offered before. -/
theorem ContractRuns.answer (h : ContractRuns serde ibcCore past s) (deps : Deps) (env : Env)
    (hinv : serde.InvertsToString) (hchan : Negotiable channel m)
    (hvalid : ValidFor r channel.connectionId) (hnamed : r.address ≠ "") (hst : s.state = some st)
    (hoffered : ∃ t ∈ past, t.openInit? = some (channel.offered, m.toString))
    (honce : .opened channel.endpoint.channelId ∉ history past) :
    ContractRuns serde ibcCore
      (⟨s, ⟨deps, env, .ibcChannelConnect (.openAck channel r.toString)⟩, .ok (.basic {}),
        s.opened st channel r⟩ :: past) (s.opened st channel r) := by
  refine h.accept ⟨?_, ?_, ?_⟩
    (.openAck (AckAccepts.of_text hinv hchan.controllerPort hvalid hnamed hst))
  · intro _ _ hentry
    cases hentry
    obtain ⟨t, ht, hi⟩ := hoffered
    exact ⟨t, ht, channel.offered, by rw [hi, hchan.version], ⟨rfl, rfl, rfl, rfl⟩⟩
  · intro _ _ hentry
    cases hentry
    exact honce
  · intro _ hentry
    cases hentry

/-- A run of a real chain goes on with a whole handshake, answered as it was offered. -/
theorem ContractRuns.dial (h : ContractRuns serde ibcCore past s) (deps : Deps) (env : Env)
    (hinv : serde.InvertsToString) (hchan : Negotiable channel m) (hfollows : Follows serde s m)
    (hnamed : m.address ≠ "") (hst : s.state = some st)
    (honce : .opened channel.endpoint.channelId ∉ history past) :
    ContractRuns serde ibcCore
      (⟨s, ⟨deps, env, .ibcChannelConnect (.openAck channel m.toString)⟩, .ok (.basic {}),
          s.opened st channel m⟩ ::
        ⟨s, ⟨deps, env, .ibcChannelOpen (.openInit channel.offered)⟩,
          .ok (.channelOpen (some ⟨m.toString⟩)), s⟩ :: past)
      (s.opened st channel m) :=
  (h.offer deps env hinv hchan hfollows).answer deps env hinv hchan hchan.valid hnamed hst
    ⟨_, List.mem_cons_self, rfl⟩ honce

/-- A run of a real chain goes on with a `CloseConfirm` of the stored channel. -/
theorem ContractRuns.hangUp {cs : ChannelState} (h : ContractRuns serde ibcCore past s)
    (deps : Deps) (env : Env) (hcs : s.channelState = some cs) :
    ContractRuns serde ibcCore
      (⟨s, ⟨deps, env, .ibcChannelClose (.closeConfirm cs.channel)⟩, .ok (.basic {}),
        s.shut cs⟩ :: past) (s.shut cs) :=
  h.accept (ibcCore_of_entry (by simp) (by simp)) (.closeConfirm hcs)

/-- The admin of a contract with an account can send what can be built. -/
theorem effect_send {ica : IcaInfo} {msg : ExecuteMsg} {p : IbcMsg} (deps : Deps) (env : Env)
    (hst : s.state = some st) (hica : st.icaInfo = some ica) (hp : msg.request env ica = .ok p) :
    Effect serde s ⟨deps, env, .execute ⟨st.admin⟩ msg⟩ (.response { messages := [p] }) s :=
  .execute ⟨hst, rfl, hica, request_eq_ok.mp hp⟩

/-- A run of a real chain goes on with a packet of the admin. -/
theorem ContractRuns.send {ica : IcaInfo} {msg : ExecuteMsg} {p : IbcMsg}
    (h : ContractRuns serde ibcCore past s) (deps : Deps) (env : Env) (hst : s.state = some st)
    (hica : st.icaInfo = some ica) (hp : msg.request env ica = .ok p) :
    ContractRuns serde ibcCore
      (⟨s, ⟨deps, env, .execute ⟨st.admin⟩ msg⟩, .ok (.response { messages := [p] }), s⟩ :: past)
      s :=
  h.accept (ibcCore_of_entry (by simp) (by simp)) (effect_send deps env hst hica hp)

/-- The message a packet was sent with. -/
def IbcPacket.message (p : IbcPacket) : IbcMsg := .sendPacket p.src.channelId p.data p.timeout

/-- A run of a real chain goes on with the timeout of a packet sent before. -/
theorem ContractRuns.expire {cs : ChannelState} {c c' : CallbackCounter}
    (h : ContractRuns serde ibcCore past s) (deps : Deps) (env : Env) (packet : IbcPacket)
    (hsent : ∃ t ∈ past, packet.message ∈ t.sent)
    (hcs : s.channelState = some cs) (hc : s.callbackCounter = some c)
    (hinc : c.incTimeout = .ok c') :
    ContractRuns serde ibcCore
      (⟨s, ⟨deps, env, .ibcPacketTimeout ⟨packet⟩⟩, .ok (.basic {}),
        { s.shut cs with callbackCounter := some c' }⟩ :: past)
      { s.shut cs with callbackCounter := some c' } := by
  refine h.accept ⟨?_, ?_, ?_⟩ (.timeout hc hinc hcs)
  · intro _ _ hentry
    cases hentry
  · intro _ _ hentry
    cases hentry
  · intro _ hentry
    cases hentry
    exact hsent

/-! ### A sample connection -/

/-- A host whose connection query fails. -/
def sampleDeps : Deps := ⟨fun input => .ok input, fun _ => .error (.genericErr "no querier")⟩

def sampleEnv : Env := ⟨⟨⟨0⟩⟩⟩

def sampleMetadata : IcaMetadata where
  version := icaVersion
  controllerConnectionId := "connection-0"
  hostConnectionId := "connection-1"
  address := "cosmos1account"
  encoding := .proto3Json
  txType := "sdk_multi_msg"

/-- The sample metadata as a first `OpenInit` proposes it: the host has not named the account. -/
def blankMetadata : IcaMetadata := { sampleMetadata with address := "" }

/-- The sample metadata in another encoding and for another host connection. -/
def driftedMetadata : IcaMetadata :=
  { sampleMetadata with encoding := .protobuf, hostConnectionId := "connection-9" }

def sampleChannel (id : String) (m : IcaMetadata) : IbcChannel where
  endpoint := ⟨"wasm.controller", id⟩
  counterpartyEndpoint := ⟨hostPortId, "channel-7"⟩
  order := .ordered
  version := m.toString
  connectionId := "connection-0"

theorem sampleChannel_version (id : String) (m : IcaMetadata) :
    (sampleChannel id m).version = m.toString := rfl

theorem sampleMetadata_valid : ValidFor sampleMetadata "connection-0" :=
  ⟨rfl, rfl, fun _ => .of_isAlphanum (by simp [sampleMetadata]) (by decide), rfl⟩

theorem blankMetadata_valid : ValidFor blankMetadata "connection-0" :=
  ⟨rfl, rfl, fun hne => absurd rfl hne, rfl⟩

theorem driftedMetadata_valid : ValidFor driftedMetadata "connection-0" :=
  sampleMetadata_valid.recode .protobuf "connection-9"

theorem sampleChannel_negotiable (id : String) (h : ValidFor m "connection-0") :
    Negotiable (sampleChannel id m) m := by
  have hport : "wasm.controller" ≠ hostPortId := by decide
  exact ⟨rfl, rfl, hport, rfl, h⟩

/-- An admin's contract whose first channel is open. -/
def sampleOpened : Storage :=
  (Storage.fresh "admin").opened (ContractState.new "admin")
    (sampleChannel "channel-0" sampleMetadata) sampleMetadata

/-- The handshake that opened it, newest turn first. -/
def samplePast : List ContractTurn :=
  [⟨Storage.fresh "admin", ⟨sampleDeps, sampleEnv, .ibcChannelConnect (.openAck
      (sampleChannel "channel-0" sampleMetadata) sampleMetadata.toString)⟩,
      .ok (.basic {}), sampleOpened⟩,
    ⟨Storage.fresh "admin", ⟨sampleDeps, sampleEnv, .ibcChannelOpen (.openInit
      (sampleChannel "channel-0" sampleMetadata).offered)⟩,
      .ok (.channelOpen (some ⟨sampleMetadata.toString⟩)), Storage.fresh "admin"⟩]

theorem sampleOpened_runs : ContractRuns jsonReader ibcCore samplePast sampleOpened :=
  (ContractRuns.fresh "admin").dial sampleDeps sampleEnv jsonReader_invertsToString
    (sampleChannel_negotiable "channel-0" sampleMetadata_valid) (.of_none rfl) (by decide) rfl
    List.not_mem_nil

/-- The account of the sample contract. -/
def sampleAccount : IcaInfo := ⟨"cosmos1account", "channel-0", .proto3Json⟩

def sampleState : ContractState := ⟨"admin", some sampleAccount⟩

theorem sampleOpened_state : sampleOpened.state = some sampleState := rfl

/-- What the sample admin sends: an empty transaction with the default timeout. -/
def sampleMsg : ExecuteMsg := .sendCustomIcaMessages [] none none

/-- Its packet on the sample channel, good for ten minutes, as the chain reports it. -/
def samplePacket : IbcPacket where
  data := (IcaPacketData.new [] none).toBinary
  src := ⟨"wasm.controller", "channel-0"⟩
  dest := ⟨hostPortId, "channel-7"⟩
  sequence := 1
  timeout := IbcTimeout.withTimestamp ⟨600000000000⟩

theorem sampleMsg_request : sampleMsg.request sampleEnv sampleAccount = .ok samplePacket.message :=
  rfl

/-- The `OpenInit` of the sample channel. -/
def sampleOfferCall : Invocation :=
  ⟨sampleDeps, sampleEnv, .ibcChannelOpen
    (.openInit (sampleChannel "channel-0" sampleMetadata).offered)⟩

/-- Its `OpenAck`, answering what was offered. -/
def sampleAnswerCall : Invocation :=
  ⟨sampleDeps, sampleEnv, .ibcChannelConnect
    (.openAck (sampleChannel "channel-0" sampleMetadata) sampleMetadata.toString)⟩

/-- The admin sends on it. -/
def sampleSendCall : Invocation := ⟨sampleDeps, sampleEnv, .execute ⟨"admin"⟩ sampleMsg⟩

/-- What was sent times out. -/
def sampleTimeoutCall : Invocation := ⟨sampleDeps, sampleEnv, .ibcPacketTimeout ⟨samplePacket⟩⟩

theorem sampleOffer_effect : Effect jsonReader (Storage.fresh "admin") sampleOfferCall
    (.channelOpen (some ⟨sampleMetadata.toString⟩)) (Storage.fresh "admin") :=
  .openInit ((sampleChannel_negotiable "channel-0" sampleMetadata_valid).offered.initAccepts
    jsonReader_invertsToString (.of_none rfl))

theorem sampleAnswer_effect :
    Effect jsonReader (Storage.fresh "admin") sampleAnswerCall (.basic {}) sampleOpened :=
  .openAck (.of_text jsonReader_invertsToString
    (sampleChannel_negotiable "channel-0" sampleMetadata_valid).controllerPort
    sampleMetadata_valid (by decide) rfl)

theorem sampleSend_effect : Effect jsonReader sampleOpened sampleSendCall
    (.response { messages := [samplePacket.message] }) sampleOpened :=
  effect_send sampleDeps sampleEnv sampleOpened_state rfl sampleMsg_request

theorem sampleHandshake_final : (contract jsonReader).final (Storage.fresh "admin")
    [sampleOfferCall, sampleAnswerCall] = sampleOpened := by
  rw [Machine.final, Machine.final, Machine.final, sampleOffer_effect.turn,
    sampleAnswer_effect.turn]

end IcaController
