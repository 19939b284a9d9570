/-
What the account record and the channel record hold, and why they agree.

Only `OpenAck` writes the two records, and it writes both.  So after any run they
are both unset, or both as the latest accepted `OpenAck` wrote them, except that
the channel may since have been marked closed.  What that `OpenAck` checked, and
what the `OpenInit` before it checked of the same channel, is then known of the
records in every reachable state.
-/
import IcaController.Proofs.Dial
import IcaController.Proofs.History

namespace IcaController

open Exec

variable {serde : SerdeJsonWasm} {allowed : Rule} {past older : List ContractTurn}
  {s s' : Storage} {t : ContractTurn} {channel : IbcChannel} {cv : String}

/-! ### The latest OpenAck -/

/--
The account and channel records after a past: both unset, or both as the latest
accepted `OpenAck` wrote them, but for the channel's status.
-/
inductive Written (serde : SerdeJsonWasm) (past : List ContractTurn) (s : Storage) : Prop
  | unset {admin : Addr} (hpast : past.findSome? ContractTurn.openAck? = none)
      (hst : s.state = some ⟨admin, none⟩) (hcs : s.channelState = none)
  | set {admin : Addr} {channel : IbcChannel} {cv : String} {m : IcaMetadata} {s₀ : Storage}
      {st₀ : ContractState} {status : ChannelStatus}
      (hpast : past.findSome? ContractTurn.openAck? = some (channel, cv))
      (hacc : AckAccepts serde s₀ channel cv m st₀)
      (hst : s.state = some ⟨admin, some ⟨m.address, channel.endpoint.channelId, m.encoding⟩⟩)
      (hcs : s.channelState = some ⟨channel, status⟩)
      (hstatus : status = .open ∨ status = .closed)

theorem findSome?_of_none (ht : t.openAck? = none) :
    (t :: past).findSome? ContractTurn.openAck? = past.findSome? ContractTurn.openAck? := by
  rw [List.findSome?_cons, ht]

theorem findSome?_of_some {ack : IbcChannel × String} (ht : t.openAck? = some ack) :
    (t :: past).findSome? ContractTurn.openAck? = some ack := by
  rw [List.findSome?_cons, ht]

/-- The latest accepted `OpenAck` is a turn of the past. -/
theorem exists_latest (h : past.findSome? ContractTurn.openAck? = some (channel, cv)) :
    ∃ t older, (t :: older) <:+ past ∧ t.openAck? = some (channel, cv) := by
  obtain ⟨t, hmem, ht⟩ := List.exists_of_findSome?_eq_some h
  obtain ⟨older, hsuffix⟩ := exists_suffix_of_mem hmem
  exact ⟨t, older, hsuffix, ht⟩

/-- An accepted `OpenAck` leaves a latest one. -/
theorem exists_latest_of_mem {ack : IbcChannel × String} (ht : t ∈ past)
    (hi : t.openAck? = some ack) :
    ∃ channel cv, past.findSome? ContractTurn.openAck? = some (channel, cv) := by
  cases hlatest : past.findSome? ContractTurn.openAck? with
  | none =>
      rw [List.findSome?_eq_none_iff.mp hlatest t ht] at hi
      cases hi
  | some ack => exact ⟨ack.1, ack.2, rfl⟩

/-- A turn that touches neither record. -/
theorem Written.kept (h : Written serde past s) (ht : t.openAck? = none)
    (hst' : s'.state = s.state) (hcs' : s'.channelState = s.channelState) :
    Written serde (t :: past) s' := by
  cases h with
  | unset hpast hst hcs =>
      exact .unset ((findSome?_of_none ht).trans hpast) (hst'.trans hst) (hcs'.trans hcs)
  | set hpast hacc hst hcs hstatus =>
      exact .set ((findSome?_of_none ht).trans hpast) hacc (hst'.trans hst) (hcs'.trans hcs) hstatus

/-- A turn that marks the stored channel closed. -/
theorem Written.shut {cs : ChannelState} (h : Written serde past s) (ht : t.openAck? = none)
    (hst' : s'.state = s.state) (hstored : s.channelState = some cs)
    (hcs' : s'.channelState = some cs.close) : Written serde (t :: past) s' := by
  cases h with
  | unset hpast hst hcs =>
      rw [hcs] at hstored
      cases hstored
  | set hpast hacc hst hcs hstatus =>
      rw [hcs, Option.some.injEq] at hstored
      subst hstored
      exact .set ((findSome?_of_none ht).trans hpast) hacc (hst'.trans hst) hcs' (Or.inr rfl)

/-- **The two records are written together**, by the latest accepted `OpenAck`. -/
theorem ContractRuns.written (h : ContractRuns serde allowed past s) : Written serde past s := by
  refine h.induction (Written serde) ?_ ?_ ?_
  · intro admin
    exact .unset (List.findSome?_nil) rfl rfl
  · intro past s i a s' _ _ hwritten he
    cases he with
    | execute _ => exact hwritten.kept rfl rfl rfl
    | query _ => exact hwritten.kept rfl rfl rfl
    | openInit _ => exact hwritten.kept rfl rfl rfl
    | openAck hacc => exact .set (findSome?_of_some rfl) hacc rfl rfl (Or.inl rfl)
    | closeConfirm hcs => exact hwritten.shut rfl rfl hcs rfl
    | ack _ _ _ => exact hwritten.kept rfl rfl rfl
    | timeout _ _ hcs => exact hwritten.shut rfl rfl hcs rfl
  · intro past s i e hwritten
    refine hwritten.kept ?_ rfl rfl
    simp [ContractTurn.openAck?]

/-- A contract has its state record. -/
theorem ContractRuns.exists_state (h : ContractRuns serde allowed past s) :
    ∃ st, s.state = some st := by
  cases h.written with
  | unset _ hst _ => exact ⟨_, hst⟩
  | set _ _ hst _ _ => exact ⟨_, hst⟩

/-- The stored channel is the one of the latest accepted `OpenAck`. -/
theorem ContractRuns.latest_of_stored {cs : ChannelState} (h : ContractRuns serde allowed past s)
    (hcs : s.channelState = some cs) :
    ∃ cv, past.findSome? ContractTurn.openAck? = some (cs.channel, cv) := by
  cases h.written with
  | unset _ _ hunset =>
      rw [hunset] at hcs
      cases hcs
  | set hpast _ _ hset _ =>
      rw [hset, Option.some.injEq] at hcs
      subst hcs
      exact ⟨_, hpast⟩

theorem ContractRuns.stored_of_latest (h : ContractRuns serde allowed past s)
    (hpast : past.findSome? ContractTurn.openAck? = some (channel, cv)) :
    ∃ status, s.channelState = some ⟨channel, status⟩ := by
  cases h.written with
  | unset hnone _ _ =>
      rw [hnone] at hpast
      cases hpast
  | set hsome _ _ hset _ =>
      rw [hsome] at hpast
      cases hpast
      exact ⟨_, hset⟩

/-- The account is the one of the latest accepted `OpenAck`, whose channel is stored. -/
theorem ContractRuns.latest_of_account {st : ContractState} {ica : IcaInfo}
    (h : ContractRuns serde allowed past s) (hst : s.state = some st)
    (hica : st.icaInfo = some ica) :
    ∃ channel cv m status, past.findSome? ContractTurn.openAck? = some (channel, cv) ∧
      s.channelState = some ⟨channel, status⟩ ∧ (status = .open ∨ status = .closed) ∧
      serde.fromStr cv = some m ∧ ica = ⟨m.address, channel.endpoint.channelId, m.encoding⟩ := by
  cases h.written with
  | unset _ hunset _ =>
      rw [hunset, Option.some.injEq] at hst
      subst hst
      cases hica
  | set hpast hacc hset hcs hstatus =>
      rw [hset, Option.some.injEq] at hst
      subst hst
      cases hica
      exact ⟨_, _, _, _, hpast, hcs, hstatus, hacc.decoded, rfl⟩

/-- A stored channel that is not open is closed. -/
theorem ContractRuns.closed_of_not_open {cs : ChannelState}
    (h : ContractRuns serde allowed past s) (hcs : s.channelState = some cs)
    (hshut : cs.isOpen ≠ true) : cs.close = cs := by
  cases h.written with
  | unset _ _ hunset =>
      rw [hunset] at hcs
      cases hcs
  | set _ _ _ hset hstatus =>
      rw [hset, Option.some.injEq] at hcs
      subst hcs
      rcases hstatus with rfl | rfl
      · exact absurd rfl hshut
      · rfl

/-! ### The OpenInit before it -/

/-- What an accepted `OpenInit` established of the channel whose `OpenAck` follows. -/
structure Proposed (serde : SerdeJsonWasm) (channel : IbcChannel) (m : IcaMetadata) : Prop where
  decoded : serde.fromStr channel.version = some m
  valid : m.validate channel = .ok ()
  ordered : channel.order = .ordered
  hostPort : channel.counterpartyEndpoint.portId = hostPortId

theorem ContractRuns.proposed (hinv : serde.InvertsToString)
    (h : ContractRuns serde ackCarriesVersion past s) (ht : (t :: older) <:+ past)
    (hi : t.openAck? = some (channel, cv)) : ∃ m, Proposed serde channel m := by
  obtain ⟨hentry, -⟩ := ContractTurn.openAck?_eq_some.mp hi
  obtain ⟨hrun, hrule⟩ := h.of_suffix ht
  obtain ⟨o, ho, opened, hopened, hsame⟩ := hrule channel cv hentry
  obtain ⟨_, hsuffix⟩ := exists_suffix_of_mem ho
  obtain ⟨m, hacc, hversion⟩ := hrun.openInit hsuffix hopened
  have hvalid : ValidFor m opened.connectionId := validate_eq_ok.mp hacc.valid
  rw [← hsame.connectionId] at hvalid
  exact ⟨m, by rw [hversion, hinv m], validate_eq_ok.mpr hvalid, hsame.order.trans hacc.ordered,
    hsame.counterpartyPort.trans hacc.hostPort⟩

/-! ### The records agree -/

/-- What an account record and a channel record that belong together say. -/
structure Agree (serde : SerdeJsonWasm) (ica : IcaInfo) (cs : ChannelState) : Prop where
  channelId : ica.channelId = cs.channel.endpoint.channelId
  address : ica.icaAddress ≠ ""
  ordered : cs.channel.order = .ordered
  hostPort : cs.channel.counterpartyEndpoint.portId = hostPortId
  controllerPort : cs.channel.endpoint.portId ≠ hostPortId
  status : cs.channelStatus = .open ∨ cs.channelStatus = .closed
  version : ∃ m, serde.fromStr cs.channel.version = some m ∧ m.validate cs.channel = .ok () ∧
    ValidFor m cs.channel.connectionId

/--
**The stored records agree** in every reachable state: the account is set exactly
when a channel is stored, and then the two belong together.
-/
theorem records_agree (hinv : serde.InvertsToString)
    (h : ContractRuns serde ackCarriesVersion past s) :
    ∃ st, s.state = some st ∧ (st.icaInfo.isSome ↔ s.channelState.isSome) ∧
      ∀ ica cs, st.icaInfo = some ica → s.channelState = some cs → Agree serde ica cs := by
  cases h.written with
  | unset _ hst hcs =>
      refine ⟨_, hst, by simp [hcs], ?_⟩
      intro ica cs hica
      cases hica
  | @set _ channel cv m _ _ status hpast hacc hst hcs hstatus =>
      refine ⟨_, hst, by simp [hcs], ?_⟩
      intro ica cs hica hstored
      cases hica
      rw [hcs, Option.some.injEq] at hstored
      subst hstored
      obtain ⟨t, older, hsuffix, ht⟩ := exists_latest hpast
      obtain ⟨p, hp⟩ := h.proposed hinv hsuffix ht
      exact ⟨rfl, hacc.address, hp.ordered, hp.hostPort, hacc.controllerPort, hstatus,
        p, hp.decoded, hp.valid, validate_eq_ok.mp hp.valid⟩

theorem records_agree_after_handshake :
    ∃ ica cs st, sampleOpened.state = some st ∧ st.icaInfo = some ica ∧
      sampleOpened.channelState = some cs ∧ Agree jsonReader ica cs := by
  obtain ⟨st, hst, -, hagree⟩ :=
    records_agree jsonReader_invertsToString (sampleOpened_runs.mono fun _ _ hrule => hrule.1)
  cases hst
  exact ⟨_, _, _, rfl, rfl, rfl, hagree _ _ rfl rfl⟩

/-! ### The two copies of the terms

The channel record keeps the proposal and the account record the answer.  They are
compared once, and not in every field.
-/

/--
**What `OpenAck` compares, and what it takes.**  The answer agrees with the proposal
on version, controller connection and transaction type; the encoding kept with the
account is the one the latest accepted answer names.
-/
theorem negotiated_terms_agree (hinv : serde.InvertsToString)
    (h : ContractRuns serde ackCarriesVersion past s) :
    (∀ t ∈ past, ∀ channel cv, t.openAck? = some (channel, cv) →
      ∃ m proposed, serde.fromStr cv = some m ∧ serde.fromStr channel.version = some proposed ∧
        m.version = proposed.version ∧
        m.controllerConnectionId = proposed.controllerConnectionId ∧
        m.txType = proposed.txType) ∧
    ∀ st ica, s.state = some st → st.icaInfo = some ica →
      ∃ channel cv m status, past.findSome? ContractTurn.openAck? = some (channel, cv) ∧
        s.channelState = some ⟨channel, status⟩ ∧ serde.fromStr cv = some m ∧
        ica.encoding = m.encoding := by
  constructor
  · intro t ht channel cv hi
    obtain ⟨older, hsuffix⟩ := exists_suffix_of_mem ht
    obtain ⟨m, _, hacc, -⟩ := h.openAck hsuffix hi
    obtain ⟨proposed, hprop⟩ := h.proposed hinv hsuffix hi
    have hm : ValidFor m channel.connectionId := validate_eq_ok.mp hacc.valid
    have hp : ValidFor proposed channel.connectionId := validate_eq_ok.mp hprop.valid
    exact ⟨m, proposed, hacc.decoded, hprop.decoded, hm.version.trans hp.version.symm,
      hm.controllerConnectionId.trans hp.controllerConnectionId.symm,
      hm.txType.trans hp.txType.symm⟩
  · intro st ica hst hica
    obtain ⟨channel, cv, m, status, hpast, hcs, -, hdec, rfl⟩ := h.latest_of_account hst hica
    exact ⟨channel, cv, m, status, hpast, hcs, hdec, rfl⟩

theorem negotiated_terms_agree_after_handshake :
    ∃ channel cv m status, samplePast.findSome? ContractTurn.openAck? = some (channel, cv) ∧
      sampleOpened.channelState = some ⟨channel, status⟩ ∧ jsonReader.fromStr cv = some m ∧
      sampleMetadata.encoding = m.encoding := by
  obtain ⟨-, haccount⟩ := negotiated_terms_agree jsonReader_invertsToString
    (sampleOpened_runs.mono fun _ _ hrule => hrule.1)
  exact haccount _ _ rfl rfl

/-- The counterparty's encoding and host connection are stored over the proposed ones. -/
theorem encodings_drift_apart :
    ∃ past s t channel, ContractRuns jsonReader ibcCore past s ∧ t ∈ past ∧
      t.openAck? = some (channel, driftedMetadata.toString) ∧
      jsonReader.fromStr driftedMetadata.toString = some driftedMetadata ∧
      jsonReader.fromStr channel.version = some sampleMetadata ∧
      driftedMetadata.encoding ≠ sampleMetadata.encoding ∧
      driftedMetadata.hostConnectionId ≠ sampleMetadata.hostConnectionId ∧
      s.channelState = some ⟨channel, .open⟩ ∧
      ∃ st ica, s.state = some st ∧ st.icaInfo = some ica ∧
        ica.encoding ≠ sampleMetadata.encoding := by
  have hchan := sampleChannel_negotiable "channel-0" sampleMetadata_valid
  have hoffer := (ContractRuns.fresh "admin").offer sampleDeps sampleEnv
    jsonReader_invertsToString hchan (.of_none rfl)
  have hanswer := hoffer.answer sampleDeps sampleEnv jsonReader_invertsToString hchan
    driftedMetadata_valid (by decide) rfl ⟨_, List.mem_cons_self, rfl⟩ List.not_mem_nil
  exact ⟨_, _, _, _, hanswer, List.mem_cons_self, rfl, jsonReader_invertsToString _,
    jsonReader_invertsToString _, by decide, by decide, rfl, _, _, rfl, rfl, by decide⟩

/-! ### The two halves of the handshake -/

/-- The answer of an honest host: the proposal, with the account's address filled in. -/
def IcaMetadata.answered (m : IcaMetadata) (address : String) : IcaMetadata :=
  { m with address := address }

/--
**The two halves fit**: whatever `OpenInit` proposed, `OpenAck` accepts the honest
host's answer to it in every reachable state, and stores the account and the channel
it was asked for.
-/
theorem honest_answer_accepted {deps deps' : Deps} {env env' : Env} {v : String} {later : Storage}
    (address : String) (hinv : serde.InvertsToString)
    (hport : channel.endpoint.portId ≠ hostPortId)
    (hinit : Returns (serve serde ⟨deps, env, .ibcChannelOpen (.openInit channel)⟩) s
      (.channelOpen (some ⟨v⟩)) s')
    (hnamed : address ≠ "") (hlen : address.length ≤ 128)
    (hchars : ∀ c ∈ address.toList, c.isAlphanum = true)
    (hlater : ContractRuns serde anyCall past later) :
    ∃ m st, serde.fromStr v = some m ∧ later.state = some st ∧
      Returns (serve serde ⟨deps', env', .ibcChannelConnect
          (.openAck { channel with version := v } (m.answered address).toString)⟩) later
        (.basic {})
        { later with
          state := some ⟨st.admin, some ⟨address, channel.endpoint.channelId, m.encoding⟩⟩
          channelState := some ⟨{ channel with version := v }, .open⟩ } := by
  obtain ⟨m, hproposed, hv, -⟩ := (effect_of_returns hinit).of_openInit
  cases hv
  obtain ⟨st, hst⟩ := hlater.exists_state
  have hvalid : ValidFor m channel.connectionId := validate_eq_ok.mp hproposed.valid
  have hanswer : ValidFor (m.answered address) channel.connectionId :=
    hvalid.withAddress (.of_isAlphanum hchars hlen)
  have hacc : AckAccepts serde later { channel with version := m.toString }
      (m.answered address).toString (m.answered address) st :=
    .of_text hinv hport hanswer hnamed hst
  exact ⟨m, st, hinv m, hst, Effect.returns (.openAck hacc)⟩

theorem honest_answer_accepted_sample :
    ∃ s', Returns (serve jsonReader ⟨sampleDeps, sampleEnv, .ibcChannelConnect
        (.openAck { sampleChannel "channel-0" sampleMetadata with
          version := sampleMetadata.toString } (sampleMetadata.answered "cosmos1new").toString)⟩)
      (Storage.fresh "admin") (.basic {}) s' := by
  have hinit : Effect jsonReader (Storage.fresh "admin") ⟨sampleDeps, sampleEnv,
      .ibcChannelOpen (.openInit (sampleChannel "channel-0" sampleMetadata))⟩
      (.channelOpen (some ⟨sampleMetadata.toString⟩)) (Storage.fresh "admin") :=
    .openInit ((sampleChannel_negotiable "channel-0" sampleMetadata_valid).initAccepts
      jsonReader_invertsToString (.of_none rfl))
  have hport : "wasm.controller" ≠ hostPortId := by decide
  obtain ⟨m, st, hdec, -, hret⟩ := honest_answer_accepted "cosmos1new"
    jsonReader_invertsToString hport hinit.returns (by decide) (by decide) (by simp)
    (.fresh "admin" : ContractRuns jsonReader anyCall [] _)
  rw [jsonReader_invertsToString, Option.some.injEq] at hdec
  subst hdec
  exact ⟨_, hret⟩

end IcaController
