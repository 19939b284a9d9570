/-
Between handshakes the order of calls does not matter.

Sends, callbacks and confirmed closings each look at a part of storage and write
another: a send looks at the state record, which none of them writes; a closing looks
for a channel, which closing does not change; and counters that go up can go up in
either order.  So the parts commute one by one, the calls do, and any number of them
can be put in any order.
-/
import IcaController.Lib.Commute
import IcaController.Proofs.Independence
import IcaController.Proofs.Packets

namespace IcaController

open Exec

variable {serde : SerdeJsonWasm} {s s₁ s₂ : Storage} {i j : Invocation} {a b : Answer}

/-- The calls that come between handshakes. -/
def EntryPoint.isTraffic : EntryPoint → Bool
  | .execute _ _ => true
  | .ibcChannelClose (.closeConfirm _) => true
  | .ibcPacketAck _ => true
  | .ibcPacketTimeout _ => true
  | _ => false

/-! ### The parts of storage

Between the openings of channels the three parts of storage move independently: the state
record not at all, the channel only towards closed, the counters only up.
-/

/-- What the call answers, by the state record. -/
inductive Replies (serde : SerdeJsonWasm) (state : Option ContractState) :
    Invocation → Answer → Prop
  | execute {deps : Deps} {env : Env} {info : MessageInfo} {msg : ExecuteMsg} {ica : IcaInfo}
      {m : IbcMsg} (hst : state = some ⟨info.sender, some ica⟩)
      (hreq : msg.request env ica = .ok m) :
      Replies serde state ⟨deps, env, .execute info msg⟩ (.response { messages := [m] })
  | closeConfirm {deps : Deps} {env : Env} {channel : IbcChannel} :
      Replies serde state ⟨deps, env, .ibcChannelClose (.closeConfirm channel)⟩ (.basic {})
  | ack {deps : Deps} {env : Env} {msg : IbcPacketAckMsg} {ack : AcknowledgementData}
      (hdec : serde.fromBinary msg.acknowledgement.data = .ok ack) :
      Replies serde state ⟨deps, env, .ibcPacketAck msg⟩
        (.basic { events := [Events.ofAck msg.originalPacket ack] })
  | timeout {deps : Deps} {env : Env} {msg : IbcPacketTimeoutMsg} :
      Replies serde state ⟨deps, env, .ibcPacketTimeout msg⟩ (.basic {})

/-- The call finds the channel record it needs. -/
def EntryPoint.Finds (cell : Option ChannelState) : EntryPoint → Prop
  | .ibcChannelClose (.closeConfirm channel) => ∃ cs, cell = some cs ∧ cs.channel = channel
  | .ibcPacketTimeout _ => ∃ cs, cell = some cs
  | _ => True

/-- The channel record the call leaves. -/
def EntryPoint.leaves (cell : Option ChannelState) : EntryPoint → Option ChannelState
  | .ibcChannelClose _ => cell.map ChannelState.close
  | .ibcPacketTimeout _ => cell.map ChannelState.close
  | _ => cell

/-- What an outcome makes of the counters. -/
inductive Counts : Option Outcome → Option CallbackCounter → Option CallbackCounter → Prop
  | quiet (cell : Option CallbackCounter) : Counts none cell cell
  | bump {o : Outcome} {c c' : CallbackCounter} (h : c.inc o = .ok c') :
      Counts (some o) (some c) (some c')

/-- What a call between handshakes does, part by part. -/
structure Passes (serde : SerdeJsonWasm) (s : Storage) (i : Invocation) (a : Answer)
    (s' : Storage) : Prop where
  replies : Replies serde s.state i a
  finds : i.entry.Finds s.channelState
  counts : Counts (i.entry.outcome? serde) s.callbackCounter s'.callbackCounter
  contractInfo : s'.contractInfo = s.contractInfo
  state : s'.state = s.state
  channel : s'.channelState = i.entry.leaves s.channelState

theorem Effect.passes {s' : Storage} (h : Effect serde s i a s') (hi : i.entry.isTraffic = true) :
    Passes serde s i a s' := by
  cases h with
  | @execute _ _ info msg st ica m hacc =>
      obtain ⟨admin, icaInfo⟩ := st
      obtain rfl : admin = info.sender := hacc.admin
      obtain rfl : icaInfo = some ica := hacc.account
      exact ⟨.execute hacc.state (request_eq_ok.mpr hacc.packet), trivial, .quiet _, rfl, rfl, rfl⟩
  | closeConfirm hcs => exact ⟨.closeConfirm, ⟨_, hcs, rfl⟩, .quiet _, rfl, rfl, by rw [hcs]; rfl⟩
  | ack hdec hc hinc =>
      rw [record_eq] at hinc
      refine ⟨.ack hdec, trivial, ?_, rfl, rfl, rfl⟩
      simp only [EntryPoint.outcome?, hdec, hc]
      exact .bump hinc
  | timeout hc hinc hcs =>
      refine ⟨.timeout, ⟨_, hcs⟩, ?_, rfl, rfl, by rw [hcs]; rfl⟩
      rw [hc]
      exact .bump hinc
  | _ => cases hi

theorem Passes.effect {s' : Storage} (h : Passes serde s i a s') : Effect serde s i a s' := by
  obtain ⟨hreplies, hfinds, hcounts, hinfo, hstate, hchannel⟩ := h
  obtain ⟨contractInfo, state, channelState, callbackCounter⟩ := s
  obtain ⟨contractInfo', state', channelState', callbackCounter'⟩ := s'
  simp only at hreplies hfinds hcounts hinfo hstate hchannel
  subst hinfo hstate hchannel
  cases hreplies with
  | execute hst hreq =>
      cases hcounts
      exact .execute ⟨hst, rfl, rfl, request_eq_ok.mp hreq⟩
  | closeConfirm =>
      obtain ⟨cs, rfl, rfl⟩ := hfinds
      cases hcounts
      exact .closeConfirm rfl
  | ack hdec =>
      simp only [EntryPoint.outcome?, hdec] at hcounts
      cases hcounts with
      | bump hinc =>
          rw [← record_eq] at hinc
          exact .ack hdec rfl hinc
  | timeout =>
      obtain ⟨cs, rfl⟩ := hfinds
      cases hcounts with
      | bump hinc => exact .timeout rfl hinc rfl

/-! ### The parts commute -/

/-- Closing a channel does not change which one it is. -/
theorem finds_leaves (e e' : EntryPoint) (cell : Option ChannelState) :
    e.Finds (e'.leaves cell) ↔ e.Finds cell := by
  have hclosed : e.Finds (cell.map ChannelState.close) ↔ e.Finds cell := by
    unfold EntryPoint.Finds
    split
    · cases cell <;> simp
    · cases cell <;> simp
    · exact Iff.rfl
  unfold EntryPoint.leaves
  split
  · exact hclosed
  · exact hclosed
  · exact Iff.rfl

theorem leaves_comm (e e' : EntryPoint) (cell : Option ChannelState) :
    e.leaves (e'.leaves cell) = e'.leaves (e.leaves cell) := by
  unfold EntryPoint.leaves
  split <;> split <;> rfl

/-- Counters that are equal as numbers are equal. -/
theorem CallbackCounter.eq_of_toNat {c c' : CallbackCounter}
    (h : ∀ o, (c.of o).toNat = (c'.of o).toNat) : c = c' := by
  obtain ⟨success, error, timeout⟩ := c
  obtain ⟨success', error', timeout'⟩ := c'
  obtain rfl : success = success' := UInt32.toNat_inj.mp (h .success)
  obtain rfl : error = error' := UInt32.toNat_inj.mp (h .error)
  obtain rfl : timeout = timeout' := UInt32.toNat_inj.mp (h .timeout)
  rfl

/-- Two increments that go through go through the other way round. -/
theorem inc_comm {c c₁ c₂ : CallbackCounter} {o o' : Outcome} (h : c.inc o = .ok c₁)
    (h' : c₁.inc o' = .ok c₂) : ∃ d, c.inc o' = .ok d ∧ d.inc o = .ok c₂ := by
  have hb := bumps_inc h
  have hb' := bumps_inc h'
  have hfirst : (c.of o').toNat + 1 < UInt32.size := by
    have hroom := exists_inc_iff.mp ⟨c₂, h'⟩
    have hle := hb o'
    omega
  obtain ⟨d, hd⟩ := exists_inc_iff.mpr hfirst
  have hbd := bumps_inc hd
  have hsecond : (d.of o).toNat + 1 < UInt32.size := by
    have hlt : (c₂.of o).toNat < UInt32.size := (c₂.of o).toNat_lt
    have hsum := hb o
    have hsum' := hb' o
    have hsumd := hbd o
    rw [if_pos rfl] at hsum
    omega
  obtain ⟨d', hd'⟩ := exists_inc_iff.mpr hsecond
  have hsame : d' = c₂ := by
    refine CallbackCounter.eq_of_toNat ?_
    intro x
    rw [bumps_inc hd' x, hbd x, hb' x, hb x]
    omega
  exact ⟨d, hd, hsame ▸ hd'⟩

theorem Counts.comm {o o' : Option Outcome} {k k₁ k₂ : Option CallbackCounter}
    (h : Counts o k k₁) (h' : Counts o' k₁ k₂) : ∃ l, Counts o' k l ∧ Counts o l k₂ := by
  cases h with
  | quiet => exact ⟨k₂, h', .quiet _⟩
  | bump hinc =>
      cases h' with
      | quiet => exact ⟨_, .quiet _, .bump hinc⟩
      | bump hinc' =>
          obtain ⟨d, hd, hd'⟩ := inc_comm hinc hinc'
          exact ⟨_, .bump hd, .bump hd'⟩

theorem Passes.comm (h : Passes serde s i a s₁) (h' : Passes serde s₁ j b s₂) :
    ∃ t, Passes serde s j b t ∧ Passes serde t i a s₂ := by
  obtain ⟨cell, hcounts, hcounts'⟩ := h.counts.comm h'.counts
  refine ⟨⟨s.contractInfo, s.state, j.entry.leaves s.channelState, cell⟩, ?_, ?_⟩
  · refine ⟨h.state ▸ h'.replies, ?_, hcounts, rfl, rfl, rfl⟩
    have hfinds := h'.finds
    rw [h.channel, finds_leaves] at hfinds
    exact hfinds
  · refine ⟨h.replies, (finds_leaves _ _ _).mpr h.finds, hcounts', ?_, ?_, ?_⟩
    · exact h'.contractInfo.trans h.contractInfo
    · exact h'.state.trans h.state
    · rw [h'.channel, h.channel, leaves_comm]

/-- Any two calls between handshakes commute. -/
theorem commute_of_traffic (hi : i.entry.isTraffic = true) (hj : j.entry.isTraffic = true) :
    (contract serde).Commute i j := by
  refine Machine.commute_of_returns ?_
  intro s a b s₁ s₂ hfirst hsecond
  have hpasses := (effect_of_returns hfirst).passes hi
  have hpasses' := (effect_of_returns hsecond).passes hj
  obtain ⟨t, ht, ht'⟩ := hpasses.comm hpasses'
  exact ⟨t, ht.effect.returns, ht'.effect.returns⟩

/--
**Between handshakes the order of calls does not matter**: sends, acknowledgements,
timeouts and confirmed closings that are accepted in one order are accepted in every
order, each with the same answer, its packet and its event included, and leave the
same storage.
-/
theorem traffic_in_any_order {s' : Storage} {log log' : List (Invocation × Answer)}
    (hperm : log.Perm log') (htraffic : ∀ x ∈ log, x.1.entry.isTraffic = true)
    (h : (contract serde).Serves s log s') : (contract serde).Serves s log' s' :=
  h.perm (P := fun i => i.entry.isTraffic = true) (fun _ _ => commute_of_traffic) hperm htraffic

/-- The sample packet times out before the admin sends again, or after. -/
theorem traffic_in_any_order_sample : ∃ s,
    (contract jsonReader).Serves sampleOpened
        [(sampleSendCall, .response { messages := [samplePacket.message] }),
          (sampleTimeoutCall, .basic {})] s ∧
      (contract jsonReader).Serves sampleOpened
        [(sampleTimeoutCall, .basic {}),
          (sampleSendCall, .response { messages := [samplePacket.message] })] s := by
  have htimeout : Effect jsonReader sampleOpened sampleTimeoutCall (.basic {}) _ :=
    .timeout rfl (rfl : CallbackCounter.default.incTimeout = .ok ⟨0, 0, 1⟩) rfl
  have hserves : (contract jsonReader).Serves sampleOpened [(sampleSendCall, _),
      (sampleTimeoutCall, .basic {})] _ :=
    .cons sampleSend_effect.turn (.cons htimeout.turn (.nil _))
  refine ⟨_, hserves, traffic_in_any_order (.swap _ _ _) ?_ hserves⟩
  exact List.forall_mem_cons.mpr ⟨rfl, List.forall_mem_singleton.mpr rfl⟩

end IcaController
