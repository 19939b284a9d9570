/-
What each entry point needs and does, one lemma a handler.

A handler is a `do` block over storage; its lemma says exactly when it returns,
with what, and what storage it leaves.  Everything above this file reasons from
these lemmas, gathered into the relation `Effect`, and never unfolds a handler.
-/
import IcaController.Model.Chain

namespace IcaController

open Exec

variable {serde : SerdeJsonWasm} {deps : Deps} {env : Env} {s s' : Storage}
  {channel : IbcChannel}

/-! ### The handshake

What an accepted handler needed is a structure with one field a check, so that a proof
can name the check it rests on.
-/

/-- The metadata an `OpenInit` negotiates from: the given version, or the fallback. -/
def proposal (serde : SerdeJsonWasm) (deps : Deps) (s : Storage) (channel : IbcChannel) :
    Option IcaMetadata :=
  if channel.version.isEmpty then some (IcaMetadata.fromChannel serde deps s channel)
  else serde.fromStr channel.version

/-- `OpenInit` accepts `channel` in `s`, negotiating the metadata `m`. -/
structure InitAccepts (serde : SerdeJsonWasm) (deps : Deps) (s : Storage) (channel : IbcChannel)
    (m : IcaMetadata) : Prop where
  ordered : channel.order = .ordered
  hostPort : channel.counterpartyEndpoint.portId = hostPortId
  proposed : proposal serde deps s channel = some m
  valid : m.validate channel = .ok ()
  previous : ∀ cs, s.channelState = some cs →
    cs.isOpen = false ∧ m.isPreviousVersionEqual serde cs.channel.version = true

theorem returns_init {r : IbcChannelOpenResponse} :
    Returns (IbcChannelOpen.init serde deps channel) s r s' ↔
      ∃ m, InitAccepts serde deps s channel m ∧ r = some ⟨m.toString⟩ ∧ s' = s := by
  constructor
  · intro h
    by_cases hver : channel.version.isEmpty = true
    · obtain ⟨hord, hport, hvalid, ⟨hcheck, rfl⟩, rfl⟩ :
          channel.order = .ordered ∧ channel.counterpartyEndpoint.portId = hostPortId ∧
            (IcaMetadata.fromChannel serde deps s channel).validate channel = .ok () ∧
            (IbcChannelOpen.checkPrevious serde (IcaMetadata.fromChannel serde deps s channel)
              s.channelState = .ok () ∧ s = s') ∧
            some ⟨(IcaMetadata.fromChannel serde deps s channel).toString⟩ = r := by
        simpa [IbcChannelOpen.init, hver] using h
      exact ⟨_, ⟨hord, hport, by simp [proposal, hver], hvalid,
        IbcChannelOpen.checkPrevious_eq_ok.mp hcheck⟩, rfl, rfl⟩
    · obtain ⟨hord, hport, m, hdec, hvalid, ⟨hcheck, rfl⟩, rfl⟩ :
          channel.order = .ordered ∧ channel.counterpartyEndpoint.portId = hostPortId ∧
            ∃ m, serde.fromStr channel.version = some m ∧ m.validate channel = .ok () ∧
            (IbcChannelOpen.checkPrevious serde m s.channelState = .ok () ∧ s = s') ∧
            some ⟨m.toString⟩ = r := by
        simpa [IbcChannelOpen.init, hver] using h
      exact ⟨m, ⟨hord, hport, by simp [proposal, hver, hdec], hvalid,
        IbcChannelOpen.checkPrevious_eq_ok.mp hcheck⟩, rfl, rfl⟩
  · intro h
    obtain ⟨m, ⟨hord, hport, hprop, hvalid, hprev⟩, rfl, rfl⟩ := h
    have hcheck : IbcChannelOpen.checkPrevious serde m s'.channelState = .ok () :=
      IbcChannelOpen.checkPrevious_eq_ok.mpr hprev
    unfold proposal at hprop
    split at hprop
    · rename_i hver
      cases hprop
      simp [IbcChannelOpen.init, hord, hport, hver, hvalid, hcheck]
    · rename_i hver
      simp [IbcChannelOpen.init, hord, hport, hver, hprop, hvalid, hcheck]

/-- `OpenAck` accepts `channel` in a state whose record is `st`, with the host's metadata `m`. -/
structure AckAccepts (serde : SerdeJsonWasm) (s : Storage) (channel : IbcChannel) (cv : String)
    (m : IcaMetadata) (st : ContractState) : Prop where
  controllerPort : channel.endpoint.portId ≠ hostPortId
  decoded : serde.fromStr cv = some m
  valid : m.validate channel = .ok ()
  address : m.address ≠ ""
  state : s.state = some st

/-- Storage after an accepted `OpenAck`. -/
def Storage.opened (s : Storage) (st : ContractState) (channel : IbcChannel) (m : IcaMetadata) :
    Storage :=
  { s with
    state := some (st.setIcaInfo m.address channel.endpoint.channelId m.encoding)
    channelState := some (ChannelState.newOpenChannel channel) }

theorem returns_onAcknowledgement {cv : String} {r : IbcBasicResponse} :
    Returns (IbcChannelOpen.onAcknowledgement serde channel cv) s r s' ↔
      ∃ m st, AckAccepts serde s channel cv m st ∧ r = {} ∧ s' = s.opened st channel m := by
  constructor
  · intro h
    obtain ⟨hport, m, hdec, hvalid, haddr, st, hst, rfl, rfl⟩ :
        channel.endpoint.portId ≠ hostPortId ∧ ∃ m, serde.fromStr cv = some m ∧
          m.validate channel = .ok () ∧ m.address ≠ "" ∧ ∃ st, s.state = some st ∧
          s.opened st channel m = s' ∧ {} = r := by
      simpa [IbcChannelOpen.onAcknowledgement, Storage.opened] using h
    exact ⟨m, st, ⟨hport, hdec, hvalid, haddr, hst⟩, rfl, rfl⟩
  · intro h
    obtain ⟨m, st, ⟨hport, hdec, hvalid, haddr, hst⟩, rfl, rfl⟩ := h
    simp [IbcChannelOpen.onAcknowledgement, hport, hdec, hvalid, haddr, hst, Storage.opened]

/-- Storage after the stored channel was marked closed. -/
def Storage.shut (s : Storage) (cs : ChannelState) : Storage :=
  { s with channelState := some cs.close }

theorem returns_confirm {r : IbcBasicResponse} :
    Returns (IbcChannelClose.confirm channel) s r s' ↔
      ∃ cs, s.channelState = some cs ∧ cs.channel = channel ∧ r = {} ∧ s' = s.shut cs := by
  constructor
  · intro h
    obtain ⟨cs, hcs, hch, rfl, rfl⟩ :
        ∃ cs, s.channelState = some cs ∧ cs.channel = channel ∧ s.shut cs = s' ∧ {} = r := by
      simpa [IbcChannelClose.confirm, Storage.shut] using h
    exact ⟨cs, hcs, hch, rfl, rfl⟩
  · intro h
    obtain ⟨cs, hcs, hch, rfl, rfl⟩ := h
    simp [IbcChannelClose.confirm, hcs, hch, Storage.shut]

/-! ### Packets -/

/-- The counter an acknowledgement is recorded in. -/
def CallbackCounter.record (c : CallbackCounter) :
    AcknowledgementData → Except Fault CallbackCounter
  | .result _ => c.incSuccess
  | .error _ => c.incError

/-- The event an acknowledgement is reported with. -/
def Events.ofAck (packet : IbcPacket) : AcknowledgementData → Event
  | .result res => Events.success packet res
  | .error err => Events.error packet err

/-- Both outcomes of an acknowledgement count it and report it. -/
theorem returns_counted (f : CallbackCounter → Except Fault CallbackCounter) (event : Event)
    {r : IbcBasicResponse} :
    Returns (callbackCounterItem.update f >>= fun _ =>
        pure (({} : IbcBasicResponse).addEvent event)) s r s' ↔
      ∃ c c', s.callbackCounter = some c ∧ f c = .ok c' ∧ r = { events := [event] } ∧
        s' = { s with callbackCounter := some c' } := by
  constructor
  · intro h
    obtain ⟨⟨c', c, hc, hf, rfl⟩, rfl⟩ :
        (∃ c' c, s.callbackCounter = some c ∧ f c = .ok c' ∧
          { s with callbackCounter := some c' } = s') ∧ { events := [event] } = r := by
      simpa [IbcBasicResponse.addEvent] using h
    exact ⟨c, c', hc, hf, rfl, rfl⟩
  · intro h
    obtain ⟨c, c', hc, hf, rfl, rfl⟩ := h
    simp [IbcBasicResponse.addEvent, hc, hf]

theorem returns_ibcPacketAck {msg : IbcPacketAckMsg} {r : IbcBasicResponse} :
    Returns (ibcPacketAck serde msg) s r s' ↔
      ∃ ack c c', serde.fromBinary msg.acknowledgement.data = .ok ack ∧
        s.callbackCounter = some c ∧ c.record ack = .ok c' ∧
        r = { events := [Events.ofAck msg.originalPacket ack] } ∧
        s' = { s with callbackCounter := some c' } := by
  unfold ibcPacketAck
  cases hdec : serde.fromBinary msg.acknowledgement.data with
  | error e => simp [orStdErr, liftExcept]
  | ok ack =>
      cases ack with
      | result res =>
          have hcounted := @returns_counted s s' CallbackCounter.incSuccess
            (Events.success msg.originalPacket res) r
          simpa [orStdErr, liftExcept, IbcPacketAck.success, CallbackCounter.record,
            Events.ofAck] using hcounted
      | error err =>
          have hcounted := @returns_counted s s' CallbackCounter.incError
            (Events.error msg.originalPacket err) r
          simpa [orStdErr, liftExcept, IbcPacketAck.error, CallbackCounter.record,
            Events.ofAck] using hcounted

theorem returns_ibcPacketTimeout {msg : IbcPacketTimeoutMsg} {r : IbcBasicResponse} :
    Returns (ibcPacketTimeout msg) s r s' ↔
      ∃ c c' cs, s.callbackCounter = some c ∧ c.incTimeout = .ok c' ∧
        s.channelState = some cs ∧ r = {} ∧
        s' = { s.shut cs with callbackCounter := some c' } := by
  constructor
  · intro h
    obtain ⟨c', ⟨c, hc, hinc⟩, ⟨cs, hcs, rfl⟩, rfl⟩ :
        ∃ c', (∃ c, s.callbackCounter = some c ∧ c.incTimeout = .ok c') ∧
          (∃ cs, s.channelState = some cs ∧
            { s.shut cs with callbackCounter := some c' } = s') ∧ {} = r := by
      simpa [ibcPacketTimeout, Storage.shut] using h
    exact ⟨c, c', cs, hc, hinc, hcs, rfl, rfl⟩
  · intro h
    obtain ⟨c, c', cs, hc, hinc, hcs, rfl, rfl⟩ := h
    simp [ibcPacketTimeout, hc, hinc, hcs, Storage.shut]

/-! ### Users -/

/-- The packet an execute message asks for, given the account it is sent from. -/
def ExecuteMsg.packet (ica : IcaInfo) : ExecuteMsg → Except ContractError IcaPacketData
  | .sendCustomIcaMessages messages packetMemo _ => .ok (IcaPacketData.new messages packetMemo)
  | .icaBankSend amount denom toAddress => Execute.bankSendPacket ica amount denom toAddress

/-- The timeout an execute message asks for. -/
def ExecuteMsg.timeoutSeconds : ExecuteMsg → Option UInt64
  | .sendCustomIcaMessages _ _ timeoutSeconds => timeoutSeconds
  | .icaBankSend _ _ _ => none

/-- The message a call of the admin asks the chain to send, or why it fails. -/
def ExecuteMsg.request (env : Env) (ica : IcaInfo) (msg : ExecuteMsg) : Except Fault IbcMsg := do
  let packet ← orErr (msg.packet ica)
  packet.toIbcMsg env ica.channelId msg.timeoutSeconds

theorem request_eq_ok {ica : IcaInfo} {msg : ExecuteMsg} {m : IbcMsg} :
    msg.request env ica = .ok m ↔
      ∃ p, msg.packet ica = .ok p ∧ p.toIbcMsg env ica.channelId msg.timeoutSeconds = .ok m := by
  simp [ExecuteMsg.request, Except.bind_eq_ok]

/-- `execute` accepts `msg` from the sender in `s` and sends `m`. -/
structure ExecuteAccepts (s : Storage) (env : Env) (info : MessageInfo) (msg : ExecuteMsg)
    (st : ContractState) (ica : IcaInfo) (m : IbcMsg) : Prop where
  state : s.state = some st
  admin : st.admin = info.sender
  account : st.icaInfo = some ica
  packet : ∃ p, msg.packet ica = .ok p ∧ p.toIbcMsg env ica.channelId msg.timeoutSeconds = .ok m

theorem returns_execute {info : MessageInfo} {msg : ExecuteMsg} {r : Response} :
    Returns (execute env info msg) s r s' ↔
      ∃ st ica m, ExecuteAccepts s env info msg st ica m ∧ r = { messages := [m] } ∧ s' = s := by
  constructor
  · intro h
    cases msg with
    | sendCustomIcaMessages messages packetMemo timeoutSeconds =>
        obtain ⟨st, hst, hadmin, ica, hica, m, ⟨hm, rfl⟩, rfl⟩ :
            ∃ st, s.state = some st ∧ st.admin = info.sender ∧ ∃ ica, st.icaInfo = some ica ∧
              ∃ m, ((IcaPacketData.new messages packetMemo).toIbcMsg env ica.channelId
                timeoutSeconds = .ok m ∧ s = s') ∧ { messages := [m] } = r := by
          simpa [execute, Execute.sendCustomIcaMessages, Response.addMessage] using h
        exact ⟨st, ica, m, ⟨hst, hadmin, hica, _, rfl, hm⟩, rfl, rfl⟩
    | icaBankSend amount denom toAddress =>
        obtain ⟨st, hst, hadmin, ica, hica, p, hp, m, ⟨hm, rfl⟩, rfl⟩ :
            ∃ st, s.state = some st ∧ st.admin = info.sender ∧ ∃ ica, st.icaInfo = some ica ∧
              ∃ p, Execute.bankSendPacket ica amount denom toAddress = .ok p ∧
              ∃ m, (p.toIbcMsg env ica.channelId none = .ok m ∧ s = s') ∧
                { messages := [m] } = r := by
          simpa [execute, Execute.icaBankSend, Response.addMessage] using h
        exact ⟨st, ica, m, ⟨hst, hadmin, hica, p, hp, hm⟩, rfl, rfl⟩
  · intro h
    obtain ⟨st, ica, m, ⟨hst, hadmin, hica, p, hp, hm⟩, rfl, rfl⟩ := h
    cases msg with
    | sendCustomIcaMessages messages packetMemo timeoutSeconds =>
        simp only [ExecuteMsg.packet, Except.ok.injEq] at hp
        simp only [ExecuteMsg.timeoutSeconds, ← hp] at hm
        simp [execute, Execute.sendCustomIcaMessages, Response.addMessage, hst, hadmin, hica, hm]
    | icaBankSend amount denom toAddress =>
        simp only [ExecuteMsg.packet] at hp
        simp only [ExecuteMsg.timeoutSeconds] at hm
        simp [execute, Execute.icaBankSend, Response.addMessage, hst, hadmin, hica, hp, hm]

/-- A sent message names the channel it was built for. -/
theorem toIbcMsg_channel {p : IcaPacketData} {id : String} {t : Option UInt64} {m : IbcMsg}
    (h : p.toIbcMsg env id t = .ok m) : ∃ timeout, m = .sendPacket id p.toBinary timeout := by
  simp only [IcaPacketData.toIbcMsg, Except.bind_eq_ok, pure, Except.pure, Except.ok.injEq] at h
  obtain ⟨time, -, hm⟩ := h
  exact ⟨_, hm.symm⟩

/-- A query reads storage and leaves it. -/
theorem returns_query {msg : QueryMsg} {r : QueryResponse} (h : Returns (query msg) s r s') :
    s' = s := by
  cases msg with
  | getContractState =>
      obtain ⟨st, ⟨-, rfl⟩, -⟩ :
          ∃ st, (s.state = some st ∧ s = s') ∧ QueryResponse.state st = r := by
        simpa [query] using h
      rfl
  | getChannel =>
      obtain ⟨cs, ⟨-, rfl⟩, -⟩ :
          ∃ cs, (s.channelState = some cs ∧ s = s') ∧ QueryResponse.channel cs = r := by
        simpa [query] using h
      rfl
  | getCallbackCounter =>
      obtain ⟨c, ⟨-, rfl⟩, -⟩ :
          ∃ c, (s.callbackCounter = some c ∧ s = s') ∧ QueryResponse.callbackCounter c = r := by
        simpa [query] using h
      rfl

/-! ### Instantiation -/

/-- The admin an instantiation sets. -/
def InstantiateMsg.adminFor (deps : Deps) (info : MessageInfo) (msg : InstantiateMsg) :
    Except StdError Addr :=
  match msg.admin with
  | some admin => deps.addrValidate admin
  | none => .ok info.sender

/-- A fresh contract: an admin, no account, no channel, and counters at zero. -/
def Storage.fresh (admin : Addr) : Storage where
  contractInfo := some ⟨contractName, contractVersion⟩
  state := some (ContractState.new admin)
  channelState := none
  callbackCounter := some CallbackCounter.default

theorem instantiates_iff {info : MessageInfo} {msg : InstantiateMsg} {s₀ : Storage} :
    Instantiates deps info msg s₀ ↔
      ∃ admin, msg.adminFor deps info = .ok admin ∧ s₀ = Storage.fresh admin := by
  unfold Instantiates
  constructor
  · intro h
    obtain ⟨r, h⟩ := h
    cases hmsg : msg.admin with
    | none =>
        obtain ⟨hs, -⟩ : Storage.fresh info.sender = s₀ ∧ {} = r := by
          simpa [instantiate, hmsg, Storage.fresh, Storage.empty] using h
        exact ⟨info.sender, by simp [InstantiateMsg.adminFor, hmsg], hs.symm⟩
    | some a =>
        obtain ⟨admin, hadmin, hs, -⟩ :
            ∃ admin, deps.addrValidate a = .ok admin ∧ Storage.fresh admin = s₀ ∧ {} = r := by
          simpa [instantiate, hmsg, Storage.fresh, Storage.empty] using h
        exact ⟨admin, by simp [InstantiateMsg.adminFor, hmsg, hadmin], hs.symm⟩
  · intro h
    obtain ⟨admin, hadmin, rfl⟩ := h
    refine ⟨{}, ?_⟩
    unfold InstantiateMsg.adminFor at hadmin
    cases hmsg : msg.admin with
    | none =>
        have hsender : info.sender = admin := by simpa [hmsg] using hadmin
        simp [instantiate, hmsg, hsender, Storage.fresh, Storage.empty]
    | some a =>
        have hvalid : deps.addrValidate a = .ok admin := by simpa [hmsg] using hadmin
        simp [instantiate, hmsg, hvalid, Storage.fresh, Storage.empty]

/-! ### All entry points at once -/

/--
What an accepted call did: one rule an entry point, with what it needed of the
storage it was called in, what it answered, and the storage it left.
-/
inductive Effect (serde : SerdeJsonWasm) (s : Storage) : Invocation → Answer → Storage → Prop
  | execute {deps : Deps} {env : Env} {info : MessageInfo} {msg : ExecuteMsg}
      {st : ContractState} {ica : IcaInfo} {m : IbcMsg}
      (h : ExecuteAccepts s env info msg st ica m) :
      Effect serde s ⟨deps, env, .execute info msg⟩ (.response { messages := [m] }) s
  | query {deps : Deps} {env : Env} {msg : QueryMsg} {r : QueryResponse}
      (h : Returns (query msg) s r s) : Effect serde s ⟨deps, env, .query msg⟩ (.query r) s
  | openInit {deps : Deps} {env : Env} {channel : IbcChannel} {m : IcaMetadata}
      (h : InitAccepts serde deps s channel m) :
      Effect serde s ⟨deps, env, .ibcChannelOpen (.openInit channel)⟩
        (.channelOpen (some ⟨m.toString⟩)) s
  | openAck {deps : Deps} {env : Env} {channel : IbcChannel} {cv : String} {m : IcaMetadata}
      {st : ContractState} (h : AckAccepts serde s channel cv m st) :
      Effect serde s ⟨deps, env, .ibcChannelConnect (.openAck channel cv)⟩ (.basic {})
        (s.opened st channel m)
  | closeConfirm {deps : Deps} {env : Env} {cs : ChannelState} (h : s.channelState = some cs) :
      Effect serde s ⟨deps, env, .ibcChannelClose (.closeConfirm cs.channel)⟩ (.basic {})
        (s.shut cs)
  | ack {deps : Deps} {env : Env} {msg : IbcPacketAckMsg} {ack : AcknowledgementData}
      {c c' : CallbackCounter} (hdec : serde.fromBinary msg.acknowledgement.data = .ok ack)
      (hc : s.callbackCounter = some c) (hinc : c.record ack = .ok c') :
      Effect serde s ⟨deps, env, .ibcPacketAck msg⟩
        (.basic { events := [Events.ofAck msg.originalPacket ack] })
        { s with callbackCounter := some c' }
  | timeout {deps : Deps} {env : Env} {msg : IbcPacketTimeoutMsg} {cs : ChannelState}
      {c c' : CallbackCounter} (hc : s.callbackCounter = some c) (hinc : c.incTimeout = .ok c')
      (hcs : s.channelState = some cs) :
      Effect serde s ⟨deps, env, .ibcPacketTimeout msg⟩ (.basic {})
        { s.shut cs with callbackCounter := some c' }

/-- A call that returns did what the rule of its entry point says. -/
theorem effect_of_returns {i : Invocation} {a : Answer} (h : Returns (serve serde i) s a s') :
    Effect serde s i a s' := by
  obtain ⟨deps, env, entry⟩ := i
  cases entry with
  | execute info msg =>
      obtain ⟨r, hr, rfl⟩ := returns_map.mp h
      obtain ⟨st, ica, m, hacc, rfl, rfl⟩ := returns_execute.mp hr
      exact .execute hacc
  | query msg =>
      obtain ⟨r, hr, rfl⟩ := returns_map.mp h
      obtain rfl := returns_query hr
      exact .query hr
  | ibcChannelOpen msg =>
      obtain ⟨r, hr, rfl⟩ := returns_map.mp h
      cases msg with
      | openInit channel =>
          obtain ⟨m, hacc, rfl, rfl⟩ := returns_init.mp hr
          exact .openInit hacc
      | openTry channel cv => exact absurd hr not_returns_throw
  | ibcChannelConnect msg =>
      obtain ⟨r, hr, rfl⟩ := returns_map.mp h
      cases msg with
      | openAck channel cv =>
          obtain ⟨m, st, hacc, rfl, rfl⟩ := returns_onAcknowledgement.mp hr
          exact .openAck hacc
      | openConfirm channel => exact absurd hr not_returns_throw
  | ibcChannelClose msg =>
      obtain ⟨r, hr, rfl⟩ := returns_map.mp h
      cases msg with
      | closeInit channel => exact absurd hr not_returns_throw
      | closeConfirm channel =>
          obtain ⟨cs, hcs, rfl, rfl, rfl⟩ := returns_confirm.mp hr
          exact .closeConfirm hcs
  | ibcPacketAck msg =>
      obtain ⟨r, hr, rfl⟩ := returns_map.mp h
      obtain ⟨ack, c, c', hdec, hc, hinc, rfl, rfl⟩ := returns_ibcPacketAck.mp hr
      exact .ack hdec hc hinc
  | ibcPacketTimeout msg =>
      obtain ⟨r, hr, rfl⟩ := returns_map.mp h
      obtain ⟨c, c', cs, hc, hinc, hcs, rfl, rfl⟩ := returns_ibcPacketTimeout.mp hr
      exact .timeout hc hinc hcs
  | ibcPacketReceive msg =>
      obtain ⟨r, hr, rfl⟩ := returns_map.mp h
      exact absurd hr not_returns_throw

/-- A call that meets the rule of its entry point returns. -/
theorem Effect.returns {i : Invocation} {a : Answer} (h : Effect serde s i a s') :
    Returns (serve serde i) s a s' := by
  cases h with
  | execute h => exact returns_map.mpr ⟨_, returns_execute.mpr ⟨_, _, _, h, rfl, rfl⟩, rfl⟩
  | query h => exact returns_map.mpr ⟨_, h, rfl⟩
  | openInit h => exact returns_map.mpr ⟨_, returns_init.mpr ⟨_, h, rfl, rfl⟩, rfl⟩
  | openAck h =>
      exact returns_map.mpr ⟨_, returns_onAcknowledgement.mpr ⟨_, _, h, rfl, rfl⟩, rfl⟩
  | closeConfirm h =>
      exact returns_map.mpr ⟨_, returns_confirm.mpr ⟨_, h, rfl, rfl, rfl⟩, rfl⟩
  | ack hdec hc hinc =>
      exact returns_map.mpr
        ⟨_, returns_ibcPacketAck.mpr ⟨_, _, _, hdec, hc, hinc, rfl, rfl⟩, rfl⟩
  | timeout hc hinc hcs =>
      exact returns_map.mpr
        ⟨_, returns_ibcPacketTimeout.mpr ⟨_, _, _, hc, hinc, hcs, rfl, rfl⟩, rfl⟩

/-! ### What an accepted call of each callback did -/

theorem Effect.of_openInit {a : Answer}
    (h : Effect serde s ⟨deps, env, .ibcChannelOpen (.openInit channel)⟩ a s') :
    ∃ m, InitAccepts serde deps s channel m ∧ a = .channelOpen (some ⟨m.toString⟩) ∧ s' = s := by
  cases h with
  | openInit hacc => exact ⟨_, hacc, rfl, rfl⟩

theorem Effect.of_openAck {a : Answer} {cv : String}
    (h : Effect serde s ⟨deps, env, .ibcChannelConnect (.openAck channel cv)⟩ a s') :
    ∃ m st, AckAccepts serde s channel cv m st ∧ s' = s.opened st channel m := by
  cases h with
  | openAck hacc => exact ⟨_, _, hacc, rfl⟩

theorem Effect.of_closeConfirm {a : Answer}
    (h : Effect serde s ⟨deps, env, .ibcChannelClose (.closeConfirm channel)⟩ a s') :
    ∃ cs, s.channelState = some cs ∧ cs.channel = channel ∧ s' = s.shut cs := by
  cases h with
  | closeConfirm hcs => exact ⟨_, hcs, rfl, rfl⟩

theorem Effect.of_timeout {a : Answer} {msg : IbcPacketTimeoutMsg}
    (h : Effect serde s ⟨deps, env, .ibcPacketTimeout msg⟩ a s') :
    ∃ cs, s.channelState = some cs ∧ s'.channelState = some cs.close := by
  cases h with
  | timeout _ _ hcs => exact ⟨_, hcs, rfl⟩

end IcaController
