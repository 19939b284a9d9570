/-
Handshakes that overlap, and timeouts that come late.

`OpenInit` checks that no channel is stored open and stores nothing; `OpenAck` stores
and does not check.  A timeout marks the stored channel closed without looking at
the packet's own.  So the stored channel mirrors the channels alive only in the
runs where no handshake overtakes another and no timeout comes late; this file
says exactly which those are.
-/
import IcaController.Proofs.Records

namespace IcaController

variable {serde : SerdeJsonWasm} {allowed : Rule} {past older : List ContractTurn} {s : Storage}

/-! ### Late timeouts

A timeout closes the stored channel whichever channel its packet was of.  It is late when
the packet's channel has been replaced by one that is open.
-/

/--
Every accepted timeout was of a packet of the stored channel, or came when that
channel was not open.
-/
def TimeoutsOfStored (past : List ContractTurn) : Prop :=
  ∀ t ∈ past, ∀ packet, t.timedOut? = some packet → ∀ cs, t.before.channelState = some cs →
    cs.isOpen = true → cs.channel.endpoint.channelId = packet.src.channelId

theorem timeoutsOfStored_nil : TimeoutsOfStored [] := fun _ h => absurd h List.not_mem_nil

/-- A turn that is no timeout is in time. -/
theorem TimeoutsOfStored.cons (h : TimeoutsOfStored past) (ht : t.timedOut? = none) :
    TimeoutsOfStored (t :: past) := by
  refine List.forall_mem_cons.mpr ⟨?_, h⟩
  intro packet hi
  rw [ht] at hi
  cases hi

/-- The contract attends to the right channel exactly when its timeouts are in time. -/
theorem attentive_iff (h : ContractRuns serde allowed past s) :
    Slot.Attentive (history past) ↔ TimeoutsOfStored past := by
  rw [Slot.Attentive, h.along_iff]
  constructor
  · intro hatt t ht packet hi cs hcs hopen
    exact hatt t ht _ (peerEvent?_of_timedOut? hi) _ _ (slot_eq_live.mpr ⟨cs, hcs, hopen, rfl⟩) rfl
  · intro htimely t ht e he a b hlive hended
    subst hended
    obtain ⟨cs, hcs, hopen, rfl⟩ := slot_eq_live.mp hlive
    rcases peerEvent?_cases he with ⟨channel, cv, hi, heq⟩ | ⟨channel, hi, heq⟩ | ⟨packet, hi, heq⟩
    · cases heq
    · obtain ⟨_, hsuffix⟩ := exists_suffix_of_mem ht
      obtain ⟨stored, hstored, hchannel⟩ := h.closeConfirm hsuffix hi
      rw [hcs, Option.some.injEq] at hstored
      cases heq
      rw [hstored, hchannel]
    · cases heq
      exact htimely t ht packet hi cs hcs hopen

/--
**The contract believes a channel closed only when it was**, and a timeout of another
channel's packet changes nothing, exactly when the timeouts are in time.
-/
theorem closed_when_ended_iff (h : ContractRuns serde anyCall past s) :
    ((∀ t older cs, (t :: older) <:+ past → t.after.channelState = some cs →
        cs.channelStatus = .closed →
          .ended cs.channel.endpoint.channelId ∈ Slot.recent (history (t :: older))) ∧
      ∀ t ∈ past, ∀ packet cs, t.timedOut? = some packet → t.before.channelState = some cs →
        cs.channel.endpoint.channelId ≠ packet.src.channelId →
          t.after.channelState = t.before.channelState) ↔ TimeoutsOfStored past := by
  constructor
  · intro hboth
    obtain ⟨-, hframe⟩ := hboth
    intro t ht packet hi cs hcs hopen
    by_contra hne
    obtain ⟨_, hsuffix⟩ := exists_suffix_of_mem ht
    obtain ⟨stored, hstored, hafter⟩ := h.timedOut hsuffix hi
    have hsame := hframe t ht packet cs hi hcs hne
    rw [hafter, hcs, Option.some.injEq] at hsame
    rw [← hsame] at hopen
    cases hopen
  · intro htimely
    have hatt := (attentive_iff h).mpr htimely
    constructor
    · intro t older cs hsuffix hcs hclosed
      have hdead : t.after.slot = .dead cs.channel.endpoint.channelId :=
        slot_eq_dead.mpr ⟨cs, hcs, by simp [ChannelState.isOpen, hclosed], rfl⟩
      rw [(h.upTo hsuffix).slot_eq] at hdead
      exact Slot.ended_mem_recent (hatt.of_suffix (hsuffix.filterMap _)) hdead
    · intro t ht packet cs hi hcs hne
      obtain ⟨_, hsuffix⟩ := exists_suffix_of_mem ht
      obtain ⟨stored, hstored, hafter⟩ := h.timedOut hsuffix hi
      have hshut : cs.isOpen ≠ true := fun hopen => hne (htimely t ht packet hi cs hcs hopen)
      have hclosed := (h.of_suffix hsuffix).1.closed_of_not_open hcs hshut
      rw [hcs, Option.some.injEq] at hstored
      subst hstored
      rw [hafter, hcs, hclosed]

/-- A timeout in time: the stored channel is closed, and its packet is the reason. -/
theorem closed_when_ended_iff_sample :
    ∃ past s cs, ContractRuns jsonReader anyCall past s ∧ s.channelState = some cs ∧
      cs.channelStatus = .closed ∧ cs.channel.endpoint.channelId = "channel-0" ∧
      .ended "channel-0" ∈ Slot.recent (history past) := by
  have hsend := sampleOpened_runs.send sampleDeps sampleEnv rfl rfl sampleMsg_request
  have hexpire := hsend.expire sampleDeps sampleEnv samplePacket
    ⟨_, List.mem_cons_self, List.mem_cons_self⟩ rfl rfl rfl
  refine ⟨_, _, _, hexpire.anyCall, rfl, rfl, rfl,
    ((closed_when_ended_iff hexpire.anyCall).mpr ?_).1 _ _ _ List.suffix_rfl rfl rfl⟩
  refine List.forall_mem_cons.mpr ⟨?_, ((timeoutsOfStored_nil.cons rfl).cons rfl).cons rfl⟩
  intro packet hi cs hcs _
  cases hi
  cases hcs
  rfl

/--
The first channel is confirmed closed with a packet in flight and a second one is
opened; then the packet's timeout marks the second channel closed.
-/
theorem late_timeout_closes_live_channel :
    ∃ past s t cs, ContractRuns jsonReader ibcCore (t :: past) s ∧
      t.timedOut? = some samplePacket ∧ t.before.channelState = some cs ∧
      cs.channel.endpoint.channelId = "channel-1" ∧ samplePacket.src.channelId = "channel-0" ∧
      cs.isOpen = true ∧ s.channelState = some cs.close ∧
      .ended "channel-1" ∉ Slot.recent (history (t :: past)) := by
  have hsend := sampleOpened_runs.send sampleDeps sampleEnv rfl rfl sampleMsg_request
  have hclose := hsend.hangUp sampleDeps sampleEnv rfl
  have hfresh : PeerEvent.opened "channel-1" ∉
      [PeerEvent.ended "channel-0", PeerEvent.opened "channel-0"] := by decide
  have hreopen := hclose.dial sampleDeps sampleEnv jsonReader_invertsToString
    (sampleChannel_negotiable "channel-1" sampleMetadata_valid)
    (.of_closed rfl rfl (jsonReader_invertsToString _)) (by decide) rfl hfresh
  have hexpire := hreopen.expire sampleDeps sampleEnv samplePacket
    ⟨_, .tail _ (.tail _ (.tail _ (.head _))), List.mem_cons_self⟩ rfl rfl rfl
  have hrecent : PeerEvent.ended "channel-1" ∉ [PeerEvent.ended "channel-0"] := by decide
  exact ⟨_, _, _, _, hexpire, rfl, rfl, rfl, rfl, rfl, rfl, hrecent⟩

/-! ### Overtaking handshakes

Two `OpenInit`s can both be accepted before either is answered.  The second `OpenAck` then
replaces a channel that is open.
-/

/-- An accepted `OpenAck` never replaces a channel stored open by another one. -/
def NeverReplaces (past : List ContractTurn) : Prop :=
  ∀ t ∈ past, ∀ channel cv, t.openAck? = some (channel, cv) →
    ∀ cs, t.before.channelState = some cs → cs.isOpen = true →
      cs.channel.endpoint.channelId = channel.endpoint.channelId

theorem neverReplaces_nil : NeverReplaces [] := fun _ h => absurd h List.not_mem_nil

/-- A turn that is no `OpenAck`, or finds no channel open, replaces none. -/
theorem NeverReplaces.cons (h : NeverReplaces past) (ht : t.openAck? = none ∨
      ∀ cs, t.before.channelState = some cs → cs.isOpen = false) : NeverReplaces (t :: past) := by
  refine List.forall_mem_cons.mpr ⟨?_, h⟩
  intro channel cv hi cs hcs hopen
  rcases ht with hnone | hclosed
  · rw [hnone] at hi
    cases hi
  · rw [hclosed cs hcs] at hopen
    cases hopen

/--
No handshake overtakes another: at every accepted `OpenAck`, of the `OpenAck`s,
`CloseConfirm`s and timeouts accepted since the channel's `OpenInit` the latest, if
there is any, is not an `OpenAck`.
-/
def HandshakesApart (past : List ContractTurn) : Prop :=
  ∀ t older channel cv, (t :: older) <:+ past → t.openAck? = some (channel, cv) →
    ∃ between o before opened v, older = between ++ o :: before ∧
      o.openInit? = some (opened, v) ∧ SameHandshake opened channel ∧
      ∀ id, (history between).head? ≠ some (.opened id)

theorem oneByOne_iff (h : ContractRuns serde allowed past s) :
    Slot.OneByOne (history past) ↔ NeverReplaces past := by
  rw [Slot.OneByOne, h.along_iff]
  constructor
  · intro hone t ht channel cv hi cs hcs hopen
    exact hone t ht _ (peerEvent?_of_openAck? hi) _ _ (slot_eq_live.mpr ⟨cs, hcs, hopen, rfl⟩) rfl
  · intro hnever t ht e he a b hlive hopened
    subst hopened
    obtain ⟨cs, hcs, hopen, rfl⟩ := slot_eq_live.mp hlive
    rcases peerEvent?_cases he with ⟨channel, cv, hi, heq⟩ | ⟨channel, hi, heq⟩ | ⟨packet, hi, heq⟩
    · cases heq
      exact hnever t ht channel cv hi cs hcs hopen
    · cases heq
    · cases heq

/-- An `OpenInit` is accepted only while nothing is stored open. -/
theorem not_live_of_openInit {o : ContractTurn} {before : List ContractTurn} {opened : IbcChannel}
    {v id : String} (h : ContractRuns serde allowed past s) (ho : (o :: before) <:+ past)
    (hi : o.openInit? = some (opened, v)) : (history (o :: before)).head? ≠ some (.opened id) := by
  intro hhead
  have hnone : o.peerEvent? = none := peerEvent?_of_openInit? hi
  rw [history_cons, hnone, Option.toList_none, List.nil_append, ← Slot.after_eq_live,
    ← (h.of_suffix ho).1.slot_eq] at hhead
  obtain ⟨cs, hcs, hopen, -⟩ := slot_eq_live.mp hhead
  obtain ⟨m, hacc, -⟩ := h.openInit ho hi
  rw [(hacc.previous cs hcs).1] at hopen
  cases hopen

theorem neverReplaces_iff (h : ContractRuns serde ackPerInit past s) :
    NeverReplaces past ↔ HandshakesApart past := by
  constructor
  · intro hnever t older channel cv hsuffix hi
    obtain ⟨hrun, hafter, honce⟩ := h.of_suffix hsuffix
    obtain ⟨hentry, -⟩ := ContractTurn.openAck?_eq_some.mp hi
    obtain ⟨o, ho, opened, v, hopened, hsame⟩ := hafter channel cv hentry
    obtain ⟨between, before, rfl⟩ := List.append_of_mem ho
    refine ⟨between, o, before, opened, v, rfl, hopened, hsame, ?_⟩
    intro id hhead
    have hmem : .opened id ∈ history (between ++ o :: before) := by
      rw [history_append]
      exact List.mem_append_left _ (List.mem_of_head? hhead)
    have hlive : t.before.slot = .live id := by
      rw [hrun.slot_eq, Slot.after_eq_live, history_append, List.head?_append, hhead]
      rfl
    obtain ⟨cs, hcs, hopen, rfl⟩ := slot_eq_live.mp hlive
    rw [hnever t (hsuffix.mem List.mem_cons_self) channel cv hi cs hcs hopen] at hmem
    exact honce channel cv hentry hmem
  · intro hapart t ht channel cv hi cs hcs hopen
    exfalso
    obtain ⟨older, hsuffix⟩ := exists_suffix_of_mem ht
    have hrun := (h.of_suffix hsuffix).1
    obtain ⟨between, o, before, opened, v, rfl, hopened, -, hquiet⟩ :=
      hapart t older channel cv hsuffix hi
    have hlive : t.before.slot = .live cs.channel.endpoint.channelId :=
      slot_eq_live.mpr ⟨cs, hcs, hopen, rfl⟩
    rw [hrun.slot_eq, Slot.after_eq_live, history_append, List.head?_append] at hlive
    cases hhead : (history between).head? with
    | none =>
        rw [hhead, Option.none_or] at hlive
        exact not_live_of_openInit hrun (List.suffix_append between (o :: before)) hopened hlive
    | some e =>
        rw [hhead, Option.some_or] at hlive
        exact hquiet _ (hhead.trans hlive)

/--
**One channel is alive at most**, at every moment, exactly when no handshake overtakes
another, timeouts being in time; and exactly then no channel stored open is replaced.
-/
theorem one_channel_alive_iff (h : ContractRuns serde ackPerInit past s)
    (htimely : TimeoutsOfStored past) :
    ((∀ older, older <:+ past → (Slot.alive (history older)).Subsingleton) ↔
        HandshakesApart past) ∧ (NeverReplaces past ↔ HandshakesApart past) := by
  refine ⟨?_, neverReplaces_iff h⟩
  rw [← neverReplaces_iff h, ← oneByOne_iff h]
  constructor
  · intro halive
    refine Slot.oneByOne_of_subsingleton ?_
    intro events hevents
    obtain ⟨older, hsuffix, rfl⟩ := List.suffix_filterMap_iff.mp hevents
    exact halive older hsuffix
  · intro hone older hsuffix
    have hle : history older <:+ history past := hsuffix.filterMap _
    exact Slot.alive_subsingleton (((attentive_iff h).mpr htimely).of_suffix hle)
      (hone.of_suffix hle)

/-- A first channel ends by the timeout of its packet, a second one is confirmed closed. -/
theorem one_channel_alive_iff_sample :
    ∃ past s, ContractRuns jsonReader ackPerInit past s ∧
      history past = [.ended "channel-1", .opened "channel-1", .ended "channel-0",
        .opened "channel-0"] ∧
      HandshakesApart past ∧
      ∀ older, older <:+ past → (Slot.alive (history older)).Subsingleton := by
  have hsend := sampleOpened_runs.send sampleDeps sampleEnv rfl rfl sampleMsg_request
  have hexpire := hsend.expire sampleDeps sampleEnv samplePacket
    ⟨_, List.mem_cons_self, List.mem_cons_self⟩ rfl rfl rfl
  have hfresh : PeerEvent.opened "channel-1" ∉
      [PeerEvent.ended "channel-0", PeerEvent.opened "channel-0"] := by decide
  have hreopen := hexpire.dial sampleDeps sampleEnv jsonReader_invertsToString
    (sampleChannel_negotiable "channel-1" sampleMetadata_valid)
    (.of_closed rfl rfl (jsonReader_invertsToString _)) (by decide) rfl hfresh
  have hrun := (hreopen.hangUp sampleDeps sampleEnv rfl).mono fun _ _ => ackPerInit_of_ibcCore
  obtain ⟨halive, hreplaces⟩ := one_channel_alive_iff hrun (by
    -- the timeout is the fourth turn back
    refine TimeoutsOfStored.cons (TimeoutsOfStored.cons (TimeoutsOfStored.cons
      (List.forall_mem_cons.mpr ⟨?_, ((timeoutsOfStored_nil.cons rfl).cons rfl).cons rfl⟩)
      rfl) rfl) rfl
    intro packet hi cs hcs _
    cases hi
    cases hcs
    rfl)
  have hapart := hreplaces.mp (by
    refine NeverReplaces.cons (NeverReplaces.cons (NeverReplaces.cons (NeverReplaces.cons
      (NeverReplaces.cons (NeverReplaces.cons (NeverReplaces.cons neverReplaces_nil
        (Or.inl rfl)) (Or.inr ?_)) (Or.inl rfl)) (Or.inl rfl)) (Or.inl rfl)) (Or.inr ?_))
      (Or.inl rfl)
    · intro cs hcs
      cases hcs
    · intro cs hcs
      cases hcs
      rfl)
  exact ⟨_, _, hrun, rfl, hapart, halive.mpr hapart⟩

/-- Two handshakes begun while nothing is stored both complete, and both channels are alive. -/
theorem two_channels_alive :
    ∃ past s t channel cv cs, ContractRuns jsonReader ibcCore (t :: past) s ∧
      "channel-0" ∈ Slot.alive (history (t :: past)) ∧
      "channel-1" ∈ Slot.alive (history (t :: past)) ∧
      t.openAck? = some (channel, cv) ∧ t.before.channelState = some cs ∧ cs.isOpen = true ∧
      cs.channel.endpoint.channelId ≠ channel.endpoint.channelId := by
  have hzero := sampleChannel_negotiable "channel-0" sampleMetadata_valid
  have hone := sampleChannel_negotiable "channel-1" sampleMetadata_valid
  have hoffer := (ContractRuns.fresh "admin").offer sampleDeps sampleEnv
    jsonReader_invertsToString hzero (.of_none rfl)
  have hoffers := hoffer.offer sampleDeps sampleEnv jsonReader_invertsToString hone
    (.of_none rfl)
  have hanswer := hoffers.answer sampleDeps sampleEnv jsonReader_invertsToString hzero
    sampleMetadata_valid (by decide) rfl ⟨_, .tail _ (.head _), rfl⟩ List.not_mem_nil
  have hfresh : PeerEvent.opened "channel-1" ∉ [PeerEvent.opened "channel-0"] := by decide
  have hanswers := hanswer.answer sampleDeps sampleEnv jsonReader_invertsToString hone
    sampleMetadata_valid (by decide) rfl ⟨_, .tail _ (.head _), rfl⟩ hfresh
  have hdistinct : "channel-0" ≠ "channel-1" := by decide
  exact ⟨_, _, _, _, _, _, hanswers, Or.inr (Or.inl rfl), Or.inl rfl, rfl, rfl, rfl, hdistinct⟩

end IcaController
