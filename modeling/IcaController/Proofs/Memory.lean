/-
What the contract remembers of its past.

Storage is a function of the admin and of the accepted calls: the latest `OpenAck`
gives the account and the channel, the latest event of any channel says whether it is
up, and the callbacks give the counters.  Of the rest of the past nothing is left.  So
which calls are accepted next, and what an `execute` answers, can be said from the
past alone.
-/
import IcaController.Proofs.Callbacks
import IcaController.Proofs.Packets
import IcaController.Proofs.Sends

namespace IcaController

open Exec

variable {serde : SerdeJsonWasm} {allowed : Rule} {past : List ContractTurn}
  {s s' s₀ : Storage} {i : Invocation} {a : Answer} {deps : Deps} {info : MessageInfo}
  {msg : InstantiateMsg} {admin : Addr}

/-! ### The past, as far as it matters -/

/-- The channel of the latest accepted `OpenAck`, with the metadata the host answered. -/
def linked (serde : SerdeJsonWasm) (past : List ContractTurn) : Option (IbcChannel × IcaMetadata) :=
  (past.findSome? ContractTurn.openAck?).bind fun ack => (serde.fromStr ack.2).map (ack.1, ·)

/-- Of the accepted `OpenAck`s, `CloseConfirm`s and timeouts the latest is an `OpenAck`. -/
def up (past : List ContractTurn) : Bool :=
  match (history past).head? with
  | some (.opened _) => true
  | _ => false

/-- The account that an `OpenAck` of the channel opens. -/
def accountOf (link : IbcChannel × IcaMetadata) : IcaInfo :=
  ⟨link.2.address, link.1.endpoint.channelId, link.2.encoding⟩

/-- Storage as the past tells it. -/
def recalled (serde : SerdeJsonWasm) (admin : Addr) (past : List ContractTurn) : Storage where
  contractInfo := some ⟨contractName, contractVersion⟩
  state := some ⟨admin, (linked serde past).map accountOf⟩
  channelState := (linked serde past).map fun link =>
    ⟨link.1, if up past then .open else .closed⟩
  callbackCounter := some
    ⟨.ofNat ((outcomes serde past).count .success), .ofNat ((outcomes serde past).count .error),
      .ofNat ((outcomes serde past).count .timeout)⟩

theorem up_iff : up past = true ↔ ∃ id, (history past).head? = some (.opened id) := by
  unfold up
  split
  · rename_i id hhead
    simp [hhead]
  · rename_i hhead
    simpa using hhead

/-- What a tally says is all there is to the counters. -/
theorem Tallies.eq {outs : List Outcome} {c : CallbackCounter} (h : Tallies outs c) :
    c = ⟨.ofNat (outs.count .success), .ofNat (outs.count .error),
      .ofNat (outs.count .timeout)⟩ := by
  rw [← h .success, ← h .error, ← h .timeout]
  simp [CallbackCounter.of]

theorem Effect.contractInfo (h : Effect serde s i a s') : s'.contractInfo = s.contractInfo := by
  cases h <;> rfl

/-- The stored channel is up exactly if it is stored open. -/
theorem ContractRuns.up_eq {cs : ChannelState} (h : ContractRuns serde allowed past s)
    (hcs : s.channelState = some cs) : up past = cs.isOpen := by
  rw [Bool.eq_iff_iff, up_iff]
  simp only [← Slot.after_eq_live, ← h.slot_eq, slot_eq_live, hcs, Option.some.injEq]
  constructor
  · intro hlive
    obtain ⟨_, _, rfl, hopen, -⟩ := hlive
    exact hopen
  · intro hopen
    exact ⟨_, cs, rfl, hopen, rfl⟩

theorem ContractRuns.contractInfo_eq (h : ContractRuns serde allowed past s) :
    s.contractInfo = some ⟨contractName, contractVersion⟩ :=
  h.induction (fun _ s => s.contractInfo = some ⟨contractName, contractVersion⟩) (fun _ => rfl)
    (fun _ _ hinv he => he.contractInfo.trans hinv) fun hinv => hinv

/-- The account and channel records are the ones the past tells. -/
theorem ContractRuns.records_eq {st : ContractState} (h : ContractRuns serde allowed past s)
    (hst : s.state = some st) :
    st.icaInfo = (linked serde past).map accountOf ∧
      s.channelState = (linked serde past).map fun link =>
        ⟨link.1, if up past then .open else .closed⟩ := by
  cases h.written with
  | unset hpast hunset hcs =>
      have hlinked : linked serde past = none := by rw [linked, hpast, Option.bind_none]
      rw [hst, Option.some.injEq] at hunset
      rw [hlinked, hunset, hcs]
      exact ⟨rfl, rfl⟩
  | @set _ channel cv m _ _ status hpast hacc hset hcs hstatus =>
      have hlinked : linked serde past = some (channel, m) := by
        rw [linked, hpast, Option.bind_some, hacc.decoded, Option.map_some]
      have hup : up past = ChannelState.isOpen ⟨channel, status⟩ := h.up_eq hcs
      rw [hst, Option.some.injEq] at hset
      rw [hlinked, hset, hcs, hup]
      refine ⟨rfl, ?_⟩
      rcases hstatus with rfl | rfl
      · rfl
      · rfl

/-- Storage of a run is what the past tells of the admin in it. -/
theorem ContractRuns.eq_recalled (h : ContractRuns serde allowed past s)
    (hadmin : AdminIs admin s) : s = recalled serde admin past := by
  obtain ⟨⟨_, ica⟩, hst, rfl⟩ := hadmin
  obtain ⟨rfl, hchannel⟩ := h.records_eq hst
  obtain ⟨c, hc, htally⟩ := h.tallies
  have hinfo := h.contractInfo_eq
  obtain ⟨contractInfo, state, channelState, callbackCounter⟩ := s
  simp only at hinfo hst hc hchannel
  rw [recalled, hinfo, hc, hst, hchannel, ← htally.eq]

/-- The admin of a run is the one its instantiation set. -/
theorem exists_adminIs (hinst : Instantiates deps info msg s₀)
    (hrun : (contract serde).Runs allowed s₀ past s) :
    ∃ admin, msg.adminFor deps info = .ok admin ∧ AdminIs admin s := by
  obtain ⟨admin, hadmin, rfl⟩ := instantiates_iff.mp hinst
  exact ⟨admin, hadmin, hrun.invariant (AdminIs admin) ⟨_, rfl, rfl⟩
    fun _ _ _ _ hinv hret => (effect_of_returns hret).adminIs hinv⟩

/--
**Storage is what the past tells**: after every run of an instantiated contract, each
record is the one the admin and the accepted calls determine.
-/
theorem storage_recalled (hinst : Instantiates deps info msg s₀)
    (hrun : (contract serde).Runs allowed s₀ past s) :
    ∃ admin, msg.adminFor deps info = .ok admin ∧ s = recalled serde admin past := by
  obtain ⟨admin, hadmin, hkept⟩ := exists_adminIs hinst hrun
  exact ⟨admin, hadmin, ContractRuns.eq_recalled ⟨deps, info, msg, s₀, hinst, hrun⟩ hkept⟩

theorem storage_recalled_sample : ∃ admin, sampleOpened = recalled jsonReader admin samplePast := by
  obtain ⟨_, _, _, _, hinst, hrun⟩ := sampleOpened_runs
  obtain ⟨admin, -, hrecalled⟩ := storage_recalled hinst hrun
  exact ⟨admin, hrecalled⟩

/-! ### What comes next

`Accepts` is said without storage.  It is compared with `Effect`, which is all the
storage had to say.
-/

/-- The calls that the contract of the admin, with that past, accepts. -/
def Accepts (serde : SerdeJsonWasm) (admin : Addr) (past : List ContractTurn) (i : Invocation) :
    Prop :=
  match i.entry with
  | .execute info msg =>
      info.sender = admin ∧
        ∃ link m, linked serde past = some link ∧ msg.request i.env (accountOf link) = .ok m
  | .query .getChannel => ∃ link, linked serde past = some link
  | .query _ => True
  | .ibcChannelOpen (.openInit channel) =>
      channel.order = .ordered ∧ channel.counterpartyEndpoint.portId = hostPortId ∧
        ∃ m, proposal serde i.deps (recalled serde admin past) channel = some m ∧
          m.validate channel = .ok () ∧ ∀ link, linked serde past = some link →
            up past = false ∧ m.isPreviousVersionEqual serde link.1.version = true
  | .ibcChannelOpen (.openTry _ _) => False
  | .ibcChannelConnect (.openAck channel counterpartyVersion) =>
      channel.endpoint.portId ≠ hostPortId ∧ ∃ m, serde.fromStr counterpartyVersion = some m ∧
        m.validate channel = .ok () ∧ m.address ≠ ""
  | .ibcChannelConnect (.openConfirm _) => False
  | .ibcChannelClose (.closeInit _) => False
  | .ibcChannelClose (.closeConfirm channel) => ∃ m, linked serde past = some (channel, m)
  | .ibcPacketAck msg => ∃ ack, serde.fromBinary msg.acknowledgement.data = .ok ack ∧
      (outcomes serde past).count ack.outcome + 1 < UInt32.size
  | .ibcPacketTimeout _ => (∃ link, linked serde past = some link) ∧
      (outcomes serde past).count .timeout + 1 < UInt32.size
  | .ibcPacketReceive _ => False

/-- A turn is accepted exactly if its call has an effect. -/
theorem accepted_iff_effect :
    (∃ a, ((contract serde).turn s i).answer = .ok a) ↔ ∃ a s', Effect serde s i a s' := by
  constructor
  · intro h
    obtain ⟨a, ha⟩ := h
    exact ⟨a, _, effect_of_returns (Machine.returns_of_turn ha)⟩
  · intro h
    obtain ⟨a, s', he⟩ := h
    exact ⟨a, by rw [contract, Machine.turn_of_returns he.returns]⟩

section Entries

variable {env : Env} {msg : ExecuteMsg} {channel : IbcChannel} {st : ContractState}

theorem exists_effect_execute {info : MessageInfo} (hst : s.state = some st) :
    (∃ a s', Effect serde s ⟨deps, env, .execute info msg⟩ a s') ↔
      info.sender = st.admin ∧ ∃ ica m, st.icaInfo = some ica ∧ msg.request env ica = .ok m := by
  constructor
  · intro h
    obtain ⟨_, _, he⟩ := h
    cases he with
    | execute hacc =>
        have hsame := hacc.state
        rw [hst, Option.some.injEq] at hsame
        subst hsame
        exact ⟨hacc.admin.symm, _, _, hacc.account, request_eq_ok.mpr hacc.packet⟩
  · intro h
    obtain ⟨hsender, ica, m, hica, hreq⟩ := h
    exact ⟨_, _, .execute ⟨hst, hsender.symm, hica, request_eq_ok.mp hreq⟩⟩

theorem exists_effect_query {q : QueryMsg} :
    (∃ a s', Effect serde s ⟨deps, env, .query q⟩ a s') ↔ ∃ r, Returns (query q) s r s := by
  constructor
  · intro h
    obtain ⟨_, _, he⟩ := h
    cases he with
    | query hret => exact ⟨_, hret⟩
  · intro h
    obtain ⟨r, hret⟩ := h
    exact ⟨_, _, .query hret⟩

theorem exists_effect_openInit :
    (∃ a s', Effect serde s ⟨deps, env, .ibcChannelOpen (.openInit channel)⟩ a s') ↔
      ∃ m, InitAccepts serde deps s channel m := by
  constructor
  · intro h
    obtain ⟨_, _, he⟩ := h
    obtain ⟨m, hacc, -⟩ := he.of_openInit
    exact ⟨m, hacc⟩
  · intro h
    obtain ⟨m, hacc⟩ := h
    exact ⟨_, _, .openInit hacc⟩

theorem exists_effect_openAck {cv : String} (hst : s.state = some st) :
    (∃ a s', Effect serde s ⟨deps, env, .ibcChannelConnect (.openAck channel cv)⟩ a s') ↔
      channel.endpoint.portId ≠ hostPortId ∧ ∃ m, serde.fromStr cv = some m ∧
        m.validate channel = .ok () ∧ m.address ≠ "" := by
  constructor
  · intro h
    obtain ⟨_, _, he⟩ := h
    obtain ⟨m, _, hacc, -⟩ := he.of_openAck
    exact ⟨hacc.controllerPort, m, hacc.decoded, hacc.valid, hacc.address⟩
  · intro h
    obtain ⟨hport, m, hdec, hvalid, haddress⟩ := h
    exact ⟨_, _, .openAck ⟨hport, hdec, hvalid, haddress, hst⟩⟩

theorem exists_effect_closeConfirm :
    (∃ a s', Effect serde s ⟨deps, env, .ibcChannelClose (.closeConfirm channel)⟩ a s') ↔
      ∃ cs, s.channelState = some cs ∧ cs.channel = channel := by
  constructor
  · intro h
    obtain ⟨_, _, he⟩ := h
    obtain ⟨cs, hcs, hchannel, -⟩ := he.of_closeConfirm
    exact ⟨cs, hcs, hchannel⟩
  · intro h
    obtain ⟨cs, hcs, rfl⟩ := h
    exact ⟨_, _, .closeConfirm hcs⟩

theorem exists_effect_ack {c : CallbackCounter} {msg : IbcPacketAckMsg}
    (hc : s.callbackCounter = some c) :
    (∃ a s', Effect serde s ⟨deps, env, .ibcPacketAck msg⟩ a s') ↔
      ∃ ack, serde.fromBinary msg.acknowledgement.data = .ok ack ∧
        (c.of ack.outcome).toNat + 1 < UInt32.size := by
  simp only [← exists_inc_iff, ← record_eq]
  constructor
  · intro h
    obtain ⟨_, _, he⟩ := h
    cases he with
    | ack hdec hcell hinc =>
        rw [hc, Option.some.injEq] at hcell
        subst hcell
        exact ⟨_, hdec, _, hinc⟩
  · intro h
    obtain ⟨ack, hdec, c', hinc⟩ := h
    exact ⟨_, _, .ack hdec hc hinc⟩

theorem exists_effect_timeout {c : CallbackCounter} {msg : IbcPacketTimeoutMsg}
    (hc : s.callbackCounter = some c) :
    (∃ a s', Effect serde s ⟨deps, env, .ibcPacketTimeout msg⟩ a s') ↔
      (∃ cs, s.channelState = some cs) ∧ (c.of .timeout).toNat + 1 < UInt32.size := by
  rw [← exists_inc_iff]
  constructor
  · intro h
    obtain ⟨_, _, he⟩ := h
    cases he with
    | timeout hcell hinc hcs =>
        rw [hc, Option.some.injEq] at hcell
        subst hcell
        exact ⟨⟨_, hcs⟩, _, hinc⟩
  · intro h
    obtain ⟨⟨cs, hcs⟩, c', hinc⟩ := h
    exact ⟨_, _, .timeout hc hinc hcs⟩

end Entries

/-- The channel record of a contract with that past. -/
theorem recalled_channelState {cs : ChannelState} :
    (recalled serde admin past).channelState = some cs ↔
      ∃ link, linked serde past = some link ∧
        (⟨link.1, if up past then .open else .closed⟩ : ChannelState) = cs :=
  Option.map_eq_some_iff

theorem isOpen_recalled (link : IbcChannel × IcaMetadata) :
    (⟨link.1, if up past then .open else .closed⟩ : ChannelState).isOpen = up past := by
  cases up past <;> rfl

/-- `OpenInit` checks a new channel against the one the past tells of. -/
theorem initAccepts_recalled {channel : IbcChannel} {m : IcaMetadata} :
    InitAccepts serde deps (recalled serde admin past) channel m ↔
      channel.order = .ordered ∧ channel.counterpartyEndpoint.portId = hostPortId ∧
        proposal serde deps (recalled serde admin past) channel = some m ∧
        m.validate channel = .ok () ∧ ∀ link, linked serde past = some link →
          up past = false ∧ m.isPreviousVersionEqual serde link.1.version = true := by
  have hprevious : (∀ cs, (recalled serde admin past).channelState = some cs →
      cs.isOpen = false ∧ m.isPreviousVersionEqual serde cs.channel.version = true) ↔
      ∀ link, linked serde past = some link →
        up past = false ∧ m.isPreviousVersionEqual serde link.1.version = true := by
    constructor
    · intro h link hlink
      rw [← isOpen_recalled link]
      exact h _ (recalled_channelState.mpr ⟨link, hlink, rfl⟩)
    · intro h cs hcs
      obtain ⟨link, hlink, rfl⟩ := recalled_channelState.mp hcs
      rw [isOpen_recalled]
      exact h link hlink
  constructor
  · intro h
    exact ⟨h.ordered, h.hostPort, h.proposed, h.valid, hprevious.mp h.previous⟩
  · intro h
    obtain ⟨hordered, hport, hproposed, hvalid, hprev⟩ := h
    exact ⟨hordered, hport, hproposed, hvalid, hprevious.mpr hprev⟩

/-- A call is accepted in storage as the past tells it exactly if the past accepts it. -/
theorem exists_effect_iff {c : CallbackCounter}
    (hc : (recalled serde admin past).callbackCounter = some c)
    (htally : Tallies (outcomes serde past) c) :
    (∃ a s', Effect serde (recalled serde admin past) i a s') ↔ Accepts serde admin past i := by
  have hst : (recalled serde admin past).state =
      some ⟨admin, (linked serde past).map accountOf⟩ := rfl
  have hnever {i} (h : ∀ a s', ¬ Effect serde (recalled serde admin past) i a s') :
      (∃ a s', Effect serde (recalled serde admin past) i a s') ↔ False := by
    simpa using h
  obtain ⟨deps, env, entry⟩ := i
  cases entry with
  | execute info msg =>
      rw [exists_effect_execute hst]
      simp [Accepts]
  | query msg =>
      rw [exists_effect_query]
      cases msg with
      | getChannel => simp [Accepts, query, recalled_channelState]
      | getContractState => simp [Accepts, query, hst]
      | getCallbackCounter => simp [Accepts, query, hc]
  | ibcChannelOpen msg =>
      cases msg with
      | openInit channel =>
          rw [exists_effect_openInit]
          simp only [Accepts, initAccepts_recalled, exists_and_left]
      | openTry channel cv =>
          refine hnever ?_
          intro a s' h
          cases h
  | ibcChannelConnect msg =>
      cases msg with
      | openAck channel cv => exact exists_effect_openAck hst
      | openConfirm channel =>
          refine hnever ?_
          intro a s' h
          cases h
  | ibcChannelClose msg =>
      cases msg with
      | closeInit channel =>
          refine hnever ?_
          intro a s' h
          cases h
      | closeConfirm channel =>
          rw [exists_effect_closeConfirm]
          simp [Accepts, recalled_channelState]
  | ibcPacketAck msg =>
      rw [exists_effect_ack hc]
      simp only [Accepts, htally _]
  | ibcPacketTimeout msg =>
      rw [exists_effect_timeout hc]
      simp [Accepts, recalled_channelState, htally _]
  | ibcPacketReceive msg =>
      refine hnever ?_
      intro a s' h
      cases h

/--
**What is accepted next is decided by the past**: in every run of an instantiated
contract, a call is accepted exactly if the admin and the accepted calls before it
say so.  A channel that was confirmed can be confirmed closed again and again, and an
`OpenAck` is accepted whatever came before.
-/
theorem accepted_iff_recalled (hinst : Instantiates deps info msg s₀)
    (hrun : (contract serde).Runs allowed s₀ past s) :
    ∃ admin, msg.adminFor deps info = .ok admin ∧ ∀ i,
      (∃ a, ((contract serde).turn s i).answer = .ok a) ↔ Accepts serde admin past i := by
  have h : ContractRuns serde allowed past s := ⟨deps, info, msg, s₀, hinst, hrun⟩
  obtain ⟨admin, hadmin, hkept⟩ := exists_adminIs hinst hrun
  obtain ⟨c, hc, htally⟩ := h.tallies
  obtain rfl := h.eq_recalled hkept
  exact ⟨admin, hadmin, fun i => accepted_iff_effect.trans (exists_effect_iff hc htally)⟩

theorem linked_samplePast : linked jsonReader samplePast =
    some (sampleChannel "channel-0" sampleMetadata, sampleMetadata) := by
  have hlatest : samplePast.findSome? ContractTurn.openAck? =
      some (sampleChannel "channel-0" sampleMetadata, sampleMetadata.toString) := rfl
  rw [linked, hlatest, Option.bind_some, jsonReader_invertsToString, Option.map_some]

/-- The open channel may be confirmed closed. -/
theorem accepted_iff_recalled_sample :
    ∃ a, ((contract jsonReader).turn sampleOpened ⟨sampleDeps, sampleEnv,
      .ibcChannelClose (.closeConfirm (sampleChannel "channel-0" sampleMetadata))⟩).answer =
        .ok a := by
  obtain ⟨_, _, _, _, hinst, hrun⟩ := sampleOpened_runs
  obtain ⟨admin, -, haccepted⟩ := accepted_iff_recalled hinst hrun
  exact (haccepted _).mpr ⟨_, linked_samplePast⟩

/-! ### What an execute answers -/

section Execute

variable {env : Env} {st : ContractState} {e : Fault}

theorem fails_of_stranger {msg : ExecuteMsg} (hst : s.state = some st)
    (hsender : info.sender ≠ st.admin) : Fails (execute env info msg) s (.err .unauthorized) s := by
  have hverify : orErr (st.verifyAdmin info.sender) = .error (.err .unauthorized) := by
    rw [ContractState.verifyAdmin, if_neg (Ne.symm hsender), orErr]
  cases msg with
  | sendCustomIcaMessages messages packetMemo timeoutSeconds =>
      simp [execute, Execute.sendCustomIcaMessages, hst, hverify]
  | icaBankSend amount denom toAddress => simp [execute, Execute.icaBankSend, hst, hverify]

theorem fails_of_no_account {msg : ExecuteMsg} (hst : s.state = some ⟨admin, none⟩) :
    Fails (execute env ⟨admin⟩ msg) s (.err .icaInfoNotSet) s := by
  have hverify : orErr (ContractState.verifyAdmin ⟨admin, none⟩ admin) = .ok () := by simp
  have haccount : orErr (ContractState.getIcaInfo ⟨admin, none⟩) =
      .error (.err .icaInfoNotSet) := rfl
  cases msg with
  | sendCustomIcaMessages messages packetMemo timeoutSeconds =>
      simp [execute, Execute.sendCustomIcaMessages, hst, hverify, haccount]
  | icaBankSend amount denom toAddress =>
      simp [execute, Execute.icaBankSend, hst, hverify, haccount]

theorem answer_of_fails_execute {msg : ExecuteMsg} (h : Fails (execute env info msg) s e s') :
    ((contract serde).turn s ⟨deps, env, .execute info msg⟩).answer = .error e := by
  have hserve : Fails (serve serde ⟨deps, env, .execute info msg⟩) s e s' := fails_map.mpr h
  rw [contract, Machine.turn_of_fails hserve]

theorem answer_of_returns_execute {msg : ExecuteMsg} {r : Response}
    (h : Returns (execute env info msg) s r s') :
    ((contract serde).turn s ⟨deps, env, .execute info msg⟩).answer = .ok (.response r) := by
  have hserve : Returns (serve serde ⟨deps, env, .execute info msg⟩) s (.response r) s' :=
    returns_map.mpr ⟨r, h, rfl⟩
  rw [contract, Machine.turn_of_returns hserve]

/-- The answer to the admin, who has an account. -/
theorem answer_execute_admin {msg : ExecuteMsg} {ica : IcaInfo}
    (hst : s.state = some ⟨admin, some ica⟩) :
    ((contract serde).turn s ⟨deps, env, .execute ⟨admin⟩ msg⟩).answer =
      (msg.request env ica).map fun m => .response { messages := [m] } := by
  cases hreq : msg.request env ica with
  | error e =>
      have hfails : Fails (execute env ⟨admin⟩ msg) s e s :=
        (fails_admin env msg hst rfl).mpr ⟨hreq, rfl⟩
      exact answer_of_fails_execute hfails
  | ok m =>
      have hret : Returns (execute env ⟨admin⟩ msg) s { messages := [m] } s :=
        (returns_admin hst rfl).mpr ⟨m, hreq, rfl, rfl⟩
      exact answer_of_returns_execute hret

end Execute

/-- What an `execute` answers with that admin and that past. -/
def executeAnswer (serde : SerdeJsonWasm) (admin : Addr) (past : List ContractTurn) (env : Env)
    (info : MessageInfo) (msg : ExecuteMsg) : Except Fault Answer :=
  if info.sender = admin then
    match linked serde past with
    | some link =>
        (msg.request env (accountOf link)).map fun m => .response { messages := [m] }
    | none => .error (.err .icaInfoNotSet)
  else .error (.err .unauthorized)

theorem answer_execute (deps : Deps) (env : Env) (info : MessageInfo) (msg : ExecuteMsg)
    (hst : s.state = some ⟨admin, (linked serde past).map accountOf⟩) :
    ((contract serde).turn s ⟨deps, env, .execute info msg⟩).answer =
      executeAnswer serde admin past env info msg := by
  unfold executeAnswer
  by_cases hsender : info.sender = admin
  · obtain ⟨sender⟩ := info
    obtain rfl : sender = admin := hsender
    rw [if_pos rfl]
    cases hlink : linked serde past with
    | none =>
        rw [hlink] at hst
        exact answer_of_fails_execute (fails_of_no_account hst)
    | some link =>
        rw [hlink] at hst
        exact answer_execute_admin hst
  · rw [if_neg hsender]
    exact answer_of_fails_execute (fails_of_stranger hst hsender)

/--
**What an `execute` answers is decided by the past**, its errors included: the sender
is checked before the account, the account before the message, and the packet is
built from the answer to the latest accepted `OpenAck`.
-/
theorem execute_answer_recalled (hinst : Instantiates deps info msg s₀)
    (hrun : (contract serde).Runs allowed s₀ past s) :
    ∃ admin, msg.adminFor deps info = .ok admin ∧ ∀ i info msg, i.entry = .execute info msg →
      ((contract serde).turn s i).answer = executeAnswer serde admin past i.env info msg := by
  have h : ContractRuns serde allowed past s := ⟨deps, info, msg, s₀, hinst, hrun⟩
  obtain ⟨_, hadmin, ⟨admin, ica⟩, hst, rfl⟩ := exists_adminIs hinst hrun
  obtain ⟨rfl, -⟩ := h.records_eq hst
  refine ⟨admin, hadmin, ?_⟩
  intro i info msg hentry
  obtain ⟨deps, env, entry⟩ := i
  obtain rfl : entry = .execute info msg := hentry
  exact answer_execute deps env info msg hst

/-- On the sample account the admin's packet goes out, and a stranger's does not. -/
theorem execute_answer_recalled_sample :
    ((contract jsonReader).turn sampleOpened sampleSendCall).answer =
        .ok (.response { messages := [samplePacket.message] }) ∧
      ((contract jsonReader).turn sampleOpened strangeCall).answer =
        .error (.err .unauthorized) := by
  obtain ⟨_, _, _, _, hinst, hrun⟩ := sampleOpened_runs
  obtain ⟨admin, hadmin, hanswer⟩ := execute_answer_recalled hinst hrun
  obtain ⟨_, hadmin', _, hst, hname⟩ := exists_adminIs hinst hrun
  rw [hadmin, Except.ok.injEq] at hadmin'
  cases hst
  obtain rfl : admin = "admin" := hadmin'.trans hname.symm
  constructor
  · rw [hanswer _ _ _ rfl, executeAnswer, if_pos rfl, linked_samplePast]
    exact congrArg (Except.map _) sampleMsg_request
  · rw [hanswer _ _ _ rfl, executeAnswer, if_neg (by decide)]

end IcaController
