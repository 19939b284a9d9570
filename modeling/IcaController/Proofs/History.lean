/-
The stored channel as a slot, and the runs as histories of it.

Of all the entry points only three move the stored channel, and they move it as a
client with one slot does: an `OpenAck` fills the slot, and a `CloseConfirm` or a
timeout marks it dead.  So the stored channel after a run is what that client
holds after the run's history, and what is known of the client is known of the
contract.
-/
import IcaController.Proofs.Runs

namespace IcaController

variable {serde : SerdeJsonWasm} {allowed : Rule} {past older newer : List ContractTurn}
  {s s' : Storage} {t : ContractTurn} {i : Invocation} {a : Answer} {id : String}

/-- The stored channel's id, and whether it is stored open. -/
def Storage.slot (s : Storage) : Slot String :=
  match s.channelState with
  | none => .empty
  | some cs =>
      if cs.isOpen then .live cs.channel.endpoint.channelId
      else .dead cs.channel.endpoint.channelId

theorem slot_eq_live :
    s.slot = .live id ↔ ∃ cs, s.channelState = some cs ∧ cs.isOpen = true ∧
      cs.channel.endpoint.channelId = id := by
  unfold Storage.slot
  cases s.channelState with
  | none => simp
  | some cs => cases hopen : cs.isOpen <;> simp [hopen]

theorem slot_eq_dead :
    s.slot = .dead id ↔ ∃ cs, s.channelState = some cs ∧ cs.isOpen = false ∧
      cs.channel.endpoint.channelId = id := by
  unfold Storage.slot
  cases s.channelState with
  | none => simp
  | some cs => cases hopen : cs.isOpen <;> simp [hopen]

theorem slot_of_channelState (h : s'.channelState = s.channelState) : s'.slot = s.slot := by
  simp only [Storage.slot, h]

/-- Marking the stored channel closed is how the slot takes an ending. -/
theorem slot_shut {cs : ChannelState} (hcs : s.channelState = some cs)
    (h : s'.channelState = some cs.close) (b : String) : s'.slot = s.slot.step (.ended b) := by
  simp only [Storage.slot, hcs, h, ChannelState.isOpen_close, ChannelState.channel_close]
  cases cs.isOpen <;> rfl

/-- An accepted call moves the slot as its event does, and not at all if it has none. -/
theorem Effect.slot (h : Effect serde s i a s') :
    s'.slot = match ContractTurn.peerEvent? ⟨s, i, .ok a, s'⟩ with
      | some e => s.slot.step e
      | none => s.slot := by
  cases h with
  | execute h => rfl
  | query h => rfl
  | openInit h => rfl
  | openAck h => rfl
  | closeConfirm h => exact slot_shut h rfl _
  | ack hdec hc hinc => exact slot_of_channelState rfl
  | timeout hc hinc hcs => exact slot_shut hcs rfl _

/-! ### The history of a run -/

theorem history_cons : history (t :: past) = t.peerEvent?.toList ++ history past := by
  unfold history
  rw [List.filterMap_cons]
  cases t.peerEvent? <;> rfl

theorem history_append : history (newer ++ older) = history newer ++ history older :=
  List.filterMap_append

theorem peerEvent?_of_openAck? {channel : IbcChannel} {cv : String}
    (h : t.openAck? = some (channel, cv)) :
    t.peerEvent? = some (.opened channel.endpoint.channelId) := by
  obtain ⟨hentry, a, hanswer⟩ := ContractTurn.openAck?_eq_some.mp h
  simp only [ContractTurn.peerEvent?, hentry, hanswer]

theorem peerEvent?_of_timedOut? {packet : IbcPacket} (h : t.timedOut? = some packet) :
    t.peerEvent? = some (.ended packet.src.channelId) := by
  obtain ⟨hentry, a, hanswer⟩ := ContractTurn.timedOut?_eq_some.mp h
  simp only [ContractTurn.peerEvent?, hentry, hanswer]

theorem peerEvent?_of_openInit? {channel : IbcChannel} {v : String}
    (h : t.openInit? = some (channel, v)) : t.peerEvent? = none := by
  obtain ⟨hentry, hanswer⟩ := ContractTurn.openInit?_eq_some.mp h
  simp only [ContractTurn.peerEvent?, hentry, hanswer]

/-- Only an `OpenAck` opens, only a `CloseConfirm` or a timeout ends. -/
theorem peerEvent?_cases {e : PeerEvent String} (h : t.peerEvent? = some e) :
    (∃ channel cv, t.openAck? = some (channel, cv) ∧ e = .opened channel.endpoint.channelId) ∨
      (∃ channel, t.closeConfirm? = some channel ∧ e = .ended channel.endpoint.channelId) ∨
      ∃ packet, t.timedOut? = some packet ∧ e = .ended packet.src.channelId := by
  unfold ContractTurn.peerEvent? at h
  split at h
  · cases h
  · rename_i channel cv hanswer hentry
    cases h
    exact Or.inl ⟨channel, cv, ContractTurn.openAck?_eq_some.mpr ⟨hentry, _, hanswer⟩, rfl⟩
  · rename_i channel hanswer hentry
    cases h
    exact Or.inr (Or.inl ⟨channel,
      ContractTurn.closeConfirm?_eq_some.mpr ⟨hentry, _, hanswer⟩, rfl⟩)
  · rename_i msg hanswer hentry
    cases h
    exact Or.inr (Or.inr ⟨msg.packet,
      ContractTurn.timedOut?_eq_some.mpr ⟨hentry, _, hanswer⟩, rfl⟩)
  · cases h

/-- **The contract keeps its channel as the client with one slot does.** -/
theorem ContractRuns.slot_eq (h : ContractRuns serde allowed past s) :
    s.slot = Slot.after (history past) := by
  refine h.induction (fun past s => s.slot = Slot.after (history past)) ?_ ?_ ?_
  · intro admin
    rfl
  · intro past s i a s' _ _ hslot he
    rw [he.slot, history_cons]
    cases ContractTurn.peerEvent? ⟨s, i, .ok a, s'⟩ with
    | none => exact hslot
    | some e => simp [hslot]
  · intro past s i e hslot
    have hnone : ContractTurn.peerEvent? ⟨s, i, .error e, s⟩ = none := rfl
    rw [history_cons, hnone]
    exact hslot

/-- What is true along the history, said of the turns. -/
theorem ContractRuns.along_iff {P : Slot String → PeerEvent String → Prop}
    (h : ContractRuns serde allowed past s) :
    Slot.Along P (history past) ↔ ∀ t ∈ past, ∀ e, t.peerEvent? = some e → P t.before.slot e := by
  refine h.induction (fun past _ => Slot.Along P (history past) ↔
    ∀ t ∈ past, ∀ e, t.peerEvent? = some e → P t.before.slot e) ?_ ?_ ?_
  · intro admin
    exact ⟨fun _ t ht => absurd ht List.not_mem_nil, fun _ => trivial⟩
  · intro past s i a s' hrun _ hiff _
    rw [history_cons, List.forall_mem_cons, ← hiff]
    cases ContractTurn.peerEvent? ⟨s, i, .ok a, s'⟩ with
    | none => simp
    | some e => simp [Slot.Along, hrun.slot_eq]
  · intro past s i e hiff
    have hnone : ContractTurn.peerEvent? ⟨s, i, .error e, s⟩ = none := rfl
    rw [history_cons, List.forall_mem_cons, ← hiff, hnone]
    simp

end IcaController
