/-
No packet is counted twice, and none is lost.

A packet leaves with an accepted `execute` and comes back once, acknowledged or
timed out.  The counters say how many came back, so with the packets still out they
add up to the packets sent.  A callback that is turned down would leave its packet
out for good; none is, while fewer packets were sent than a counter can count.
-/
import IcaController.Lib.Flight
import IcaController.Proofs.Independence
import IcaController.Proofs.Rollback

namespace IcaController

open Exec Machine

variable {serde : SerdeJsonWasm} {allowed : Rule} {past older : List ContractTurn}
  {s s' : Storage} {t : ContractTurn} {i : Invocation} {a : Answer} {c : CallbackCounter}
  {m : IbcMsg} {o : Outcome}

/-! ### Packets out and back

A packet is known by its message: channel, data and timeout.  As the same message can be
sent many times, packets out and back are counted as multisets.
-/

/-- The message whose packet is back, if the entry point is a callback. -/
def EntryPoint.callback? : EntryPoint → Option IbcMsg
  | .ibcPacketAck msg => some msg.originalPacket.message
  | .ibcPacketTimeout msg => some msg.packet.message
  | _ => none

/-- The message whose packet an accepted turn was about. -/
def ContractTurn.callback? (t : ContractTurn) : Option IbcMsg :=
  match t.answer with
  | .ok _ => t.call.entry.callback?
  | .error _ => none

/-- The packets of the contract. -/
def packets : Flight Storage Invocation (Except Fault Answer) IbcMsg where
  leaves := ContractTurn.sent
  lands := ContractTurn.callback?

/--
A callback is of a packet that is out.  One that was turned down left its packet out,
and may come again.
-/
def callbackOfAloft : Rule := fun past i =>
  ∀ m, i.entry.callback? = some m → m ∈ packets.aloft past

theorem callback?_entry (h : t.callback? = some m) : t.call.entry.callback? = some m := by
  unfold ContractTurn.callback? at h
  split at h
  · exact h
  · cases h

/-- What is out was sent. -/
theorem sent_of_aloft (h : m ∈ packets.aloft past) : ∃ t ∈ past, m ∈ t.sent :=
  Flight.mem_sent.mp (Flight.mem_sent_of_mem_aloft h)

/-! ### The counters and the packets back

Every accepted callback takes one packet out of flight and puts one into a counter, so
the counters together say how many are back.
-/

theorem count_outcomes (outs : List Outcome) :
    outs.count .success + outs.count .error + outs.count .timeout = outs.length := by
  induction outs with
  | nil => rfl
  | cons o outs ih =>
      simp only [List.count_cons, List.length_cons]
      cases o <;> simp <;> omega

/-- The three counters together are the number of outcomes. -/
theorem Tallies.total {outs : List Outcome} (h : Tallies outs c) :
    c.success.toNat + c.error.toNat + c.timeout.toNat = outs.length := by
  rw [← count_outcomes outs]
  have hsuccess := h .success
  have herror := h .error
  have htimeout := h .timeout
  simp only [CallbackCounter.of] at hsuccess herror htimeout
  omega

theorem Tallies.of_le {outs : List Outcome} (h : Tallies outs c) (o : Outcome) :
    (c.of o).toNat ≤ outs.length := by
  rw [h o]
  exact List.count_le_length

/-- An accepted call reports an outcome exactly if a packet is back with it. -/
theorem Effect.outcome_isSome (h : Effect serde s i a s') :
    (ContractTurn.outcome? serde ⟨s, i, .ok a, s'⟩).isSome =
      (ContractTurn.callback? ⟨s, i, .ok a, s'⟩).isSome := by
  cases h with
  | ack hdec _ _ => simp only [ContractTurn.outcome?, EntryPoint.outcome?, hdec]; rfl
  | _ => rfl

/-- As many outcomes were counted as packets came back. -/
theorem ContractRuns.length_outcomes (h : ContractRuns serde allowed past s) :
    (outcomes serde past).length = (packets.landed past).card := by
  refine h.induction (fun past _ => (outcomes serde past).length = (packets.landed past).card)
    ?_ ?_ ?_
  · intro admin
    rfl
  · intro past s i a s' _ _ hlength he
    have hsome := he.outcome_isSome
    rw [outcomes_cons, Flight.landed_cons, List.length_append, Multiset.card_add, hlength,
      Multiset.coe_card]
    show _ = (ContractTurn.callback? ⟨s, i, .ok a, s'⟩).toList.length + _
    rw [Option.length_toList, Option.length_toList, hsome]
  · intro past s i e hlength
    rw [outcomes_cons, Flight.landed_cons]
    exact hlength

theorem ContractRuns.aloft_add_landed (h : ContractRuns serde callbackOfAloft past s) :
    packets.aloft past + packets.landed past = packets.sent past := by
  obtain ⟨_, _, _, _, _, hrun⟩ := h
  refine Flight.aloft_add_landed hrun ?_
  intro past s i hrule m hlands
  exact hrule m (callback?_entry hlands)

/--
**Every packet sent is out or was counted**, exactly once: the packets out and the
packets back make up the packets sent, and the three counters together say how many
are back.
-/
theorem packets_conserved (h : ContractRuns serde callbackOfAloft past s) :
    packets.aloft past + packets.landed past = packets.sent past ∧
      ∃ c, s.callbackCounter = some c ∧
        (packets.aloft past).card + c.success.toNat + c.error.toNat + c.timeout.toNat =
          (packets.sent past).card := by
  obtain ⟨c, hc, htally⟩ := h.tallies
  refine ⟨h.aloft_add_landed, c, hc, ?_⟩
  have htotal := htally.total
  rw [← h.aloft_add_landed, Multiset.card_add, ← h.length_outcomes]
  omega

theorem callbackOfAloft_of_none (h : i.entry.callback? = none) : callbackOfAloft past i := by
  intro m hm
  rw [h] at hm
  cases hm

/-- The admin has opened an account and sent the sample packet. -/
theorem sample_in_flight : ∃ past, ContractRuns jsonReader callbackOfAloft past sampleOpened ∧
    packets.sent past = {samplePacket.message} ∧ packets.aloft past = {samplePacket.message} := by
  have hopen := (ContractRuns.fresh "admin").accept (callbackOfAloft_of_none rfl)
    sampleAnswer_effect
  have hsend := hopen.accept (callbackOfAloft_of_none rfl) sampleSend_effect
  exact ⟨_, hsend, rfl, Multiset.sub_zero _⟩

/-- The sample packet is acknowledged. -/
theorem packets_conserved_sample :
    ∃ past s, ContractRuns jsonReader callbackOfAloft past s ∧
      s.callbackCounter = some ⟨1, 0, 0⟩ ∧
      packets.aloft past + packets.landed past = packets.sent past ∧
      (packets.aloft past).card + 1 = (packets.sent past).card := by
  obtain ⟨past, hrun, -, haloft⟩ := sample_in_flight
  have hrule : callbackOfAloft past sampleAckCall := by
    intro m hm
    cases hm
    rw [haloft]
    exact Multiset.mem_singleton_self _
  have hack := hrun.accept hrule
    (effect_sampleAck (.result [1]) rfl (rfl : CallbackCounter.default.incSuccess = .ok ⟨1, 0, 0⟩))
  obtain ⟨hmade, c, hc, hsum⟩ := packets_conserved hack
  cases hc
  exact ⟨_, _, hack, rfl, hmade, hsum⟩

/-! ### Callbacks that come through

While the counters have room no order of the callbacks can make one of them fail: a
packet in flight has a channel stored, and a callback moves no channel away.
-/

/-- Only a callback reports an outcome. -/
theorem exists_callback (ho : i.entry.outcome? serde = some o) :
    ∃ m, i.entry.callback? = some m := by
  unfold EntryPoint.outcome? at ho
  split at ho
  · rename_i msg hentry
    exact ⟨_, by rw [hentry]; rfl⟩
  · rename_i msg hentry
    exact ⟨_, by rw [hentry]; rfl⟩
  · cases ho

/-- A callback that reports an outcome is accepted while its counter has room. -/
theorem returns_callback {cs : ChannelState} (ho : i.entry.outcome? serde = some o)
    (hc : s.callbackCounter = some c) (hroom : (c.of o).toNat + 1 < UInt32.size)
    (hcs : s.channelState = some cs) : ∃ a s', Effect serde s i a s' ∧ a.messages = [] := by
  obtain ⟨c', hinc⟩ := exists_inc_iff.mpr hroom
  obtain ⟨deps, env, entry⟩ := i
  cases entry with
  | ibcPacketAck msg =>
      simp only [EntryPoint.outcome?] at ho
      split at ho
      · rename_i ack hdec
        cases ho
        rw [← record_eq] at hinc
        exact ⟨_, _, .ack hdec hc hinc, rfl⟩
      · cases ho
  | ibcPacketTimeout msg =>
      cases ho
      exact ⟨_, _, .timeout hc hinc hcs, rfl⟩
  | _ => cases ho

/-- While there are fewer packets than a counter can count, a packet that is out can land. -/
theorem ContractRuns.land (h : ContractRuns serde callbackOfAloft past s)
    (hfew : (packets.sent past).card < UInt32.size) (ho : i.entry.outcome? serde = some o)
    (hm : i.entry.callback? = some m) (hout : m ∈ packets.aloft past) :
    ∃ a s', ContractRuns serde callbackOfAloft (⟨s, i, .ok a, s'⟩ :: past) s' ∧
      (contract serde).turn s i = ⟨s, i, .ok a, s'⟩ ∧
      packets.sent (⟨s, i, .ok a, s'⟩ :: past) = packets.sent past ∧
      m ::ₘ packets.aloft (⟨s, i, .ok a, s'⟩ :: past) = packets.aloft past := by
  have hrule : callbackOfAloft past i := by
    intro m' hm'
    rw [hm, Option.some.injEq] at hm'
    exact hm' ▸ hout
  obtain ⟨t, ht, hsent⟩ := sent_of_aloft hout
  obtain ⟨cs, hcs⟩ := h.stored_of_sent ht hsent
  obtain ⟨c, hc, htally⟩ := h.tallies
  -- the packet itself is not counted yet
  have hroom : (c.of o).toNat + 1 < UInt32.size := by
    have hle : (c.of o).toNat ≤ (packets.landed past).card :=
      h.length_outcomes ▸ htally.of_le o
    have hpos : 0 < (packets.aloft past).card := Multiset.card_pos_iff_exists_mem.mpr ⟨m, hout⟩
    have hsum := congrArg Multiset.card h.aloft_add_landed
    rw [Multiset.card_add] at hsum
    omega
  obtain ⟨a, s', he, hquiet⟩ := returns_callback ho hc hroom hcs
  have hleaves : packets.leaves ⟨s, i, .ok a, s'⟩ = [] := hquiet
  refine ⟨a, s', h.accept hrule he, Machine.turn_of_returns he.returns, ?_, ?_⟩
  · rw [Flight.sent_cons, hleaves]
    exact Multiset.zero_add _
  · exact Flight.aloft_cons_of_lands hm hleaves hout

/--
**No packet is lost**: while fewer packets were sent than a counter can count, the
packets that are out may come back in any order and with any outcome.  Every callback
is accepted, and each counter goes up by the number of its outcomes.
-/
theorem callbacks_never_lost (h : ContractRuns serde callbackOfAloft past s)
    (hfew : (packets.sent past).card < UInt32.size) (calls : List Invocation)
    (hdecode : ∀ i ∈ calls, ∃ o, i.entry.outcome? serde = some o)
    (hout : (calls.filterMap (·.entry.callback?) : Multiset IbcMsg) ≤ packets.aloft past) :
    (∀ t ∈ (contract serde).trace s calls, ∃ a, t.answer = .ok a) ∧
      ∃ c c', s.callbackCounter = some c ∧
        ((contract serde).final s calls).callbackCounter = some c' ∧
        ∀ o, (c'.of o).toNat =
          (c.of o).toNat + (calls.filterMap (·.entry.outcome? serde)).count o := by
  induction calls generalizing past s with
  | nil =>
      obtain ⟨c, hc, -⟩ := h.tallies
      exact ⟨fun t ht => absurd ht List.not_mem_nil, c, c, hc, hc, fun o => rfl⟩
  | cons i rest ih =>
      obtain ⟨o, ho⟩ := hdecode i List.mem_cons_self
      obtain ⟨m, hm⟩ := exists_callback ho
      rw [List.filterMap_cons_some (f := fun i : Invocation => i.entry.callback?) hm,
        ← Multiset.cons_coe] at hout
      have hmem : m ∈ packets.aloft past := Multiset.mem_of_le hout (Multiset.mem_cons_self _ _)
      obtain ⟨a, s', hrun, hturn, hsent, haloft⟩ := h.land hfew ho hm hmem
      rw [← haloft, Multiset.cons_le_cons_iff] at hout
      obtain ⟨hall, c', c'', hc', hc'', hrest⟩ := ih hrun (hsent ▸ hfew)
        (fun j hj => hdecode j (List.mem_cons_of_mem i hj)) hout
      obtain ⟨c, hc, htally⟩ := h.tallies
      obtain ⟨_, hstored, htally'⟩ := hrun.tallies
      rw [hc', Option.some.injEq] at hstored
      subst hstored
      have houtcome : ContractTurn.outcome? serde ⟨s, i, .ok a, s'⟩ = some o := ho
      rw [outcomes_cons, houtcome] at htally'
      rw [Machine.trace, Machine.final, hturn, List.filterMap_cons_some
        (f := fun i : Invocation => i.entry.outcome? serde) ho]
      refine ⟨List.forall_mem_cons.mpr ⟨⟨a, rfl⟩, hall⟩, c, c'', hc, hc'', ?_⟩
      intro o'
      rw [hrest o', htally o', htally' o']
      simp only [Option.toList_some, List.singleton_append, List.count_cons]
      omega

/-- The sample packet times out. -/
theorem callbacks_never_lost_sample : ∃ c,
    ((contract jsonReader).final sampleOpened [sampleTimeoutCall]).callbackCounter = some c ∧
      c.timeout.toNat = 1 := by
  obtain ⟨past, hrun, hsent, haloft⟩ := sample_in_flight
  have hfew : (packets.sent past).card < UInt32.size := by
    rw [hsent, Multiset.card_singleton]
    decide
  have hdecode : ∀ i ∈ [sampleTimeoutCall], ∃ o, i.entry.outcome? jsonReader = some o := by
    intro i hi
    rw [List.mem_singleton.mp hi]
    exact ⟨.timeout, rfl⟩
  obtain ⟨-, c, c', hc, hc', hcount⟩ :=
    callbacks_never_lost hrun hfew [sampleTimeoutCall] hdecode (by rw [haloft]; exact le_rfl)
  cases hc
  exact ⟨c', hc', hcount .timeout⟩

end IcaController
