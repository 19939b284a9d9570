/-
Failed calls leave no trace, on a host that rolls nothing back.

Every handler checks before it writes, and where it writes twice the second write
cannot fail any more.  Of a timeout that is true in a run only: it saves the counter
and then loads the channel, and were none stored, it would fail with the counter
already up.  But a packet that comes back was sent, a contract that sent had accepted
an `OpenAck`, and the channel that stored is still there.
-/
import IcaController.Proofs.Callbacks
import IcaController.Proofs.Sends

namespace IcaController

open Exec Item

variable {serde : SerdeJsonWasm} {allowed : Rule} {past older : List ContractTurn}
  {s s' s₀ : Storage} {t : ContractTurn} {i : Invocation} {m : IbcMsg} {deps : Deps} {env : Env}
  {channel : IbcChannel} {cs : ChannelState} {c : CallbackCounter} {e : Fault}

/-! ### Handlers that only read

They only read in every store.
-/

section Readers

variable {σ : Type} [Items σ]

theorem readsOnly_init : ReadsOnly (IbcChannelOpen.init serde deps channel : Call σ _) := by
  have hrest (metadata : IcaMetadata) : ReadsOnly (do
      liftExcept (orErr (metadata.validate channel))
      liftExcept (orErr (IbcChannelOpen.checkPrevious serde metadata
        (← channelStateItem.mayLoad)))
      return some ⟨metadata.toString⟩ : Call σ IbcChannelOpenResponse) :=
    readsOnly_bind readsOnly_liftExcept fun _ =>
      readsOnly_bind readsOnly_mayLoad fun _ =>
        readsOnly_bind readsOnly_liftExcept fun _ => readsOnly_pure
  unfold IbcChannelOpen.init
  refine .guard (.guard (readsOnly_ite ?_ ?_))
  · exact readsOnly_bind readsOnly_get fun _ => hrest _
  · exact readsOnly_bind readsOnly_liftExcept hrest

theorem readsOnly_execute {info : MessageInfo} {msg : ExecuteMsg} :
    ReadsOnly (execute env info msg : Call σ Response) := by
  cases msg with
  | sendCustomIcaMessages messages packetMemo timeoutSeconds =>
      refine readsOnly_bind readsOnly_load fun st => ?_
      refine readsOnly_bind readsOnly_liftExcept fun _ => ?_
      refine readsOnly_bind readsOnly_liftExcept fun ica => ?_
      exact readsOnly_bind readsOnly_liftExcept fun _ => readsOnly_pure
  | icaBankSend amount denom toAddress =>
      refine readsOnly_bind readsOnly_load fun st => ?_
      refine readsOnly_bind readsOnly_liftExcept fun _ => ?_
      refine readsOnly_bind readsOnly_liftExcept fun ica => ?_
      refine readsOnly_bind readsOnly_liftExcept fun p => ?_
      exact readsOnly_bind readsOnly_liftExcept fun _ => readsOnly_pure

theorem readsOnly_query {msg : QueryMsg} : ReadsOnly (query msg : Call σ QueryResponse) := by
  cases msg with
  | getChannel => exact readsOnly_bind readsOnly_load fun _ => readsOnly_pure
  | getContractState => exact readsOnly_bind readsOnly_load fun _ => readsOnly_pure
  | getCallbackCounter => exact readsOnly_bind readsOnly_load fun _ => readsOnly_pure

end Readers

/-! ### Handlers that check, then commit

A check in front writes nothing, and what comes after the first write cannot fail.
-/

theorem clean_onAcknowledgement {cv : String} :
    Clean (IbcChannelOpen.onAcknowledgement serde channel cv) s := by
  unfold IbcChannelOpen.onAcknowledgement
  refine .guard fun _ => ?_
  refine .check readsOnly_liftExcept fun metadata _ => ?_
  refine .check readsOnly_liftExcept fun _ _ => ?_
  refine .guard fun _ => ?_
  -- the state record is the last thing that can be missing
  refine clean_update.commit ?_
  intro _ _ _ e s'
  simp

theorem clean_confirm : Clean (IbcChannelClose.confirm channel) s := by
  unfold IbcChannelClose.confirm
  refine .check readsOnly_load fun cs _ => ?_
  refine .guard fun _ => ?_
  intro e s'
  simp

/-- Both outcomes of an acknowledgement write once. -/
theorem clean_counted (f : CallbackCounter → Except Fault CallbackCounter) (event : Event) :
    Clean (callbackCounterItem.update f >>= fun _ =>
      pure (({} : IbcBasicResponse).addEvent event)) s := by
  refine clean_update.commit ?_
  intro _ _ _ e s'
  exact not_fails_pure

theorem clean_ibcPacketAck {msg : IbcPacketAckMsg} : Clean (ibcPacketAck serde msg) s := by
  refine .check readsOnly_liftExcept fun ack _ => ?_
  cases ack with
  | result res => exact clean_counted CallbackCounter.incSuccess _
  | error err => exact clean_counted CallbackCounter.incError _

/-- With a channel stored, a timeout fails before the counter is saved or not at all. -/
theorem clean_ibcPacketTimeout {msg : IbcPacketTimeoutMsg} (hcs : s.channelState = some cs) :
    Clean (ibcPacketTimeout msg) s := by
  refine clean_update.commit ?_
  intro c s' hret e s''
  obtain ⟨_, _, _, rfl⟩ := returns_update.mp hret
  simp [hcs]

/-- Without one, it fails with the counter already up. -/
theorem early_timeout_leaves_trace (admin : Addr) (msg : IbcPacketTimeoutMsg) :
    Fails (ibcPacketTimeout msg) (Storage.fresh admin) (NotFound.notFound ChannelState.typeName)
      { Storage.fresh admin with callbackCounter := some ⟨0, 0, 1⟩ } := by
  refine fails_bind.mpr (Or.inr ⟨⟨0, 0, 1⟩, _, returns_update.mpr ⟨_, rfl, rfl, rfl⟩, ?_⟩)
  exact fails_bind.mpr (Or.inl (fails_update.mpr ⟨Or.inr (Or.inl ⟨rfl, rfl⟩), rfl⟩))

/-- **Every call fails cleanly**, a timeout while a channel is stored. -/
theorem clean_serve
    (hstored : ∀ msg, i.entry = .ibcPacketTimeout msg → ∃ cs, s.channelState = some cs) :
    Clean (serve serde i) s := by
  obtain ⟨deps, env, entry⟩ := i
  cases entry with
  | execute info msg => exact (readsOnly_map readsOnly_execute).clean s
  | query msg => exact (readsOnly_map readsOnly_query).clean s
  | ibcChannelOpen msg =>
      cases msg with
      | openInit channel => exact (readsOnly_map readsOnly_init).clean s
      | openTry channel cv => exact (clean_throw _ s).map
  | ibcChannelConnect msg =>
      cases msg with
      | openAck channel cv => exact clean_onAcknowledgement.map
      | openConfirm channel => exact (clean_throw _ s).map
  | ibcChannelClose msg =>
      cases msg with
      | closeInit channel => exact (clean_throw _ s).map
      | closeConfirm channel => exact clean_confirm.map
  | ibcPacketAck msg => exact clean_ibcPacketAck.map
  | ibcPacketTimeout msg =>
      obtain ⟨cs, hcs⟩ := hstored msg rfl
      exact (clean_ibcPacketTimeout hcs).map
  | ibcPacketReceive msg => exact (clean_throw _ s).map

/-! ### A packet that was sent -/

/-- A contract that sent has a channel stored, then and ever after. -/
theorem ContractRuns.stored_of_sent (h : ContractRuns serde allowed past s) (ht : t ∈ past)
    (hm : m ∈ t.sent) : ∃ cs, s.channelState = some cs := by
  obtain ⟨older, hsuffix⟩ := exists_suffix_of_mem ht
  cases hanswer : t.answer with
  | error e =>
      rw [ContractTurn.sent, hanswer] at hm
      cases hm
  | ok a =>
      rw [ContractTurn.sent, hanswer] at hm
      obtain ⟨info, msg, st, ica, -, hacc⟩ := (h.effect hsuffix hanswer).sends hm
      obtain ⟨_, _, _, _, hopened, -⟩ :=
        (h.of_suffix hsuffix).1.latest_of_account hacc.state hacc.account
      -- the `OpenAck` before it is also one of the whole run
      obtain ⟨t₀, older₀, hsuffix₀, ht₀⟩ := exists_latest hopened
      have hmem : t₀ ∈ past :=
        hsuffix.mem (List.mem_cons_of_mem t (hsuffix₀.mem List.mem_cons_self))
      obtain ⟨channel, cv, hlatest⟩ := exists_latest_of_mem hmem ht₀
      obtain ⟨status, hcs⟩ := h.stored_of_latest hlatest
      exact ⟨_, hcs⟩

/-- A timeout of a packet that was sent finds a channel. -/
theorem ContractRuns.stored_of_timeout (h : ContractRuns serde allowed past s)
    (hrule : callbacksOfSent past i) :
    ∀ msg, i.entry = .ibcPacketTimeout msg → ∃ cs, s.channelState = some cs := by
  intro msg hentry
  obtain ⟨t, ht, hm⟩ := hrule.2 msg hentry
  exact h.stored_of_sent ht hm

/-! ### Runs on a host that does not roll back

Under the rule for callbacks every failing call fails before it writes, so these runs are
the runs of the host that rolls back.
-/

/-- The runs of an instantiated contract whose failing calls keep what they wrote. -/
def UnsettledRuns (serde : SerdeJsonWasm) (allowed : Rule) (past : List ContractTurn)
    (s : Storage) : Prop :=
  ∃ deps info msg s₀, Instantiates deps info msg s₀ ∧
    (Machine.unsettled (serve serde)).Runs allowed s₀ past s

/-- **Rolling back makes no difference** where only what was sent comes back. -/
theorem unsettledRuns_iff :
    UnsettledRuns serde callbacksOfSent past s ↔ ContractRuns serde callbacksOfSent past s := by
  have hiff {deps info msg s₀} (hinst : Instantiates deps info msg s₀) :
      (Machine.unsettled (serve serde)).Runs callbacksOfSent s₀ past s ↔
        (contract serde).Runs callbacksOfSent s₀ past s := by
    refine Machine.runs_unsettled_iff ?_
    intro past s i hrun hrule
    have h : ContractRuns serde callbacksOfSent past s := ⟨deps, info, msg, s₀, hinst, hrun⟩
    exact clean_serve (h.stored_of_timeout hrule)
  constructor
  · intro h
    obtain ⟨deps, info, msg, s₀, hinst, hrun⟩ := h
    exact ⟨deps, info, msg, s₀, hinst, (hiff hinst).mp hrun⟩
  · intro h
    obtain ⟨deps, info, msg, s₀, hinst, hrun⟩ := h
    exact ⟨deps, info, msg, s₀, hinst, (hiff hinst).mpr hrun⟩

/-- A timeout with both records in place can only overflow. -/
theorem overflow_of_fails_timeout {msg : IbcPacketTimeoutMsg} (hc : s.callbackCounter = some c)
    (hcs : s.channelState = some cs) (h : Fails (ibcPacketTimeout msg) s e s') :
    e = .abort .overflow := by
  rcases fails_bind.mp h with hfirst | ⟨c', t, hret, hsecond⟩
  · exact inc_error (show c.inc .timeout = .error e from ((fails_updateCounter hc).mp hfirst).1)
  · obtain ⟨_, _, _, rfl⟩ := returns_update.mp hret
    simp [hcs] at hsecond

/--
**Failed calls leave no trace**, though nothing is rolled back: in every run where
only what was sent comes back, a call that answers with an error, or aborts, leaves
storage as it was; and a timeout never answers with an error.
-/
theorem failed_calls_leave_no_trace (h : UnsettledRuns serde callbacksOfSent past s) :
    (∀ t ∈ past, ∀ e, t.answer = .error e → t.after = t.before) ∧
    ∀ t ∈ past, ∀ msg e, t.call.entry = .ibcPacketTimeout msg → t.answer ≠ .error (.err e) := by
  have hsettled := unsettledRuns_iff.mp h
  have hturn {t older} (hsuffix : (t :: older) <:+ past) :
      t = (contract serde).turn t.before t.call := by
    obtain ⟨_, _, _, _, _, hrun⟩ := hsettled
    exact (hrun.of_suffix hsuffix).2.2
  constructor
  · intro t ht e hanswer
    obtain ⟨older, hsuffix⟩ := exists_suffix_of_mem ht
    rw [hturn hsuffix] at hanswer ⊢
    exact (Machine.fails_of_turn hanswer).2
  · intro t ht msg e hentry hanswer
    obtain ⟨older, hsuffix⟩ := exists_suffix_of_mem ht
    obtain ⟨hbefore, hrule⟩ := hsettled.of_suffix hsuffix
    obtain ⟨cs, hcs⟩ := hbefore.stored_of_timeout hrule msg hentry
    obtain ⟨c, hc, -⟩ := hbefore.tallies
    rw [hturn hsuffix] at hanswer
    obtain ⟨⟨s', hfails⟩, -⟩ := Machine.fails_of_turn hanswer
    rw [serve, hentry] at hfails
    cases overflow_of_fails_timeout hc hcs (fails_map.mp hfails)

/-! ### A call that fails -/

/-- A call that brings no packet back is allowed. -/
theorem callbacksOfSent_of_entry (hack : ∀ msg, i.entry ≠ .ibcPacketAck msg)
    (htimeout : ∀ msg, i.entry ≠ .ibcPacketTimeout msg) : callbacksOfSent past i :=
  ⟨fun msg h => absurd h (hack msg), fun msg h => absurd h (htimeout msg)⟩

theorem callbacksOfSent_ack {msg : IbcPacketAckMsg}
    (hsent : ∃ t ∈ past, .sendPacket msg.originalPacket.src.channelId msg.originalPacket.data
      msg.originalPacket.timeout ∈ t.sent) :
    callbacksOfSent past ⟨deps, env, .ibcPacketAck msg⟩ := by
  refine ⟨?_, ?_⟩
  · intro _ hentry
    cases hentry
    exact hsent
  · intro _ hentry
    cases hentry

/-- The sample channel is opened, and nothing else has happened. -/
theorem sampleOpened_runs_callbacks :
    ∃ past, ContractRuns jsonReader callbacksOfSent past sampleOpened := by
  have hoffer := (ContractRuns.fresh "admin").accept
    (callbacksOfSent_of_entry (by simp [sampleOfferCall]) (by simp [sampleOfferCall]))
    sampleOffer_effect
  exact ⟨_, hoffer.accept
    (callbacksOfSent_of_entry (by simp [sampleAnswerCall]) (by simp [sampleAnswerCall]))
    sampleAnswer_effect⟩

/-- An answer to the sample packet that is no acknowledgement. -/
def sampleNoise : IbcPacketAckMsg := ⟨⟨(String.ofList Json.null.print).utf8⟩, samplePacket⟩

/-- The sample packet is sent, and such an answer to it is turned down. -/
theorem failed_calls_leave_no_trace_sample :
    ∃ past s t, UnsettledRuns jsonReader callbacksOfSent (t :: past) s ∧
      t.call.entry = .ibcPacketAck sampleNoise ∧ (∃ e, t.answer = .error e) ∧
      t.after = t.before := by
  obtain ⟨_, hopened⟩ := sampleOpened_runs_callbacks
  have hsend := hopened.accept
    (callbacksOfSent_of_entry (by simp [sampleSendCall]) (by simp [sampleSendCall]))
    sampleSend_effect
  have hreject := hsend.reject (i := ⟨sampleDeps, sampleEnv, .ibcPacketAck sampleNoise⟩)
    (callbacksOfSent_ack ⟨_, List.mem_cons_self, List.mem_cons_self⟩)
    (fails_of_undecodable rfl (jsonReader_fromBinary_print rfl))
  have hrun := unsettledRuns_iff.mpr hreject
  exact ⟨_, _, _, hrun, rfl, ⟨_, rfl⟩,
    (failed_calls_leave_no_trace hrun).1 _ List.mem_cons_self _ rfl⟩

end IcaController
