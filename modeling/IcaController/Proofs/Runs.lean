/-
Runs of the contract, turn by turn.

A run is extended by an accepted call whose effect is known, and read back the same
way: an accepted turn of a run had the effect its entry point has.  The induction
rule over runs starts from a fresh contract and asks only about accepted calls
and rejected ones, which change nothing.
-/
import IcaController.Lib.Failure
import IcaController.Proofs.Metadata

namespace IcaController

open Exec

variable {serde : SerdeJsonWasm} {allowed allowed' : Rule} {past older : List ContractTurn}
  {s s' : Storage} {t : ContractTurn} {i : Invocation} {a : Answer}

/-! ### Building runs -/

theorem ContractRuns.fresh (admin : Addr) : ContractRuns serde allowed [] (Storage.fresh admin) :=
  ⟨⟨fun _ => .ok "", fun _ => .error (.genericErr "")⟩, ⟨admin⟩, ⟨none⟩, _,
    instantiates_iff.mpr ⟨admin, rfl, rfl⟩, .start⟩

/-- The turn of an accepted call. -/
theorem Effect.turn (h : Effect serde s i a s') :
    (contract serde).turn s i = ⟨s, i, .ok a, s'⟩ :=
  Machine.turn_of_returns h.returns

/-- An accepted call extends a run. -/
theorem ContractRuns.accept (h : ContractRuns serde allowed past s) (hc : allowed past i)
    (he : Effect serde s i a s') :
    ContractRuns serde allowed (⟨s, i, .ok a, s'⟩ :: past) s' := by
  obtain ⟨deps, info, msg, s₀, hinst, hrun⟩ := h
  exact ⟨deps, info, msg, s₀, hinst, hrun.accept hc he.returns⟩

/-- A rejected call extends a run and changes nothing. -/
theorem ContractRuns.reject {e : Fault} (h : ContractRuns serde allowed past s)
    (hc : allowed past i) (hfails : Fails (serve serde i) s e s') :
    ContractRuns serde allowed (⟨s, i, .error e, s⟩ :: past) s := by
  obtain ⟨deps, info, msg, s₀, hinst, hrun⟩ := h
  have hcall := hrun.call i hc
  rw [contract, Machine.turn_of_fails hfails] at hcall
  exact ⟨deps, info, msg, s₀, hinst, hcall⟩

theorem ContractRuns.mono (h : ContractRuns serde allowed past s)
    (hle : ∀ past i, allowed past i → allowed' past i) : ContractRuns serde allowed' past s := by
  obtain ⟨deps, info, msg, s₀, hinst, hrun⟩ := h
  exact ⟨deps, info, msg, s₀, hinst, hrun.mono hle⟩

theorem ContractRuns.anyCall (h : ContractRuns serde allowed past s) :
    ContractRuns serde anyCall past s :=
  h.mono fun _ _ _ => trivial

/-- **Induction over runs of the contract.** -/
theorem ContractRuns.induction (h : ContractRuns serde allowed past s)
    (Inv : List ContractTurn → Storage → Prop) (hstart : ∀ admin, Inv [] (Storage.fresh admin))
    (hok : ∀ {past s i a s'}, ContractRuns serde allowed past s → allowed past i → Inv past s →
      Effect serde s i a s' → Inv (⟨s, i, .ok a, s'⟩ :: past) s')
    (herr : ∀ {past s i e}, Inv past s → Inv (⟨s, i, .error e, s⟩ :: past) s) : Inv past s := by
  obtain ⟨deps, info, msg, s₀, hinst, hrun⟩ := h
  refine hrun.induction_accepted Inv ?_ ?_ ?_
  · obtain ⟨admin, -, rfl⟩ := instantiates_iff.mp hinst
    exact hstart admin
  · intro past s i a s' hrun hc hinv hret
    exact hok ⟨deps, info, msg, s₀, hinst, hrun⟩ hc hinv (effect_of_returns hret)
  · intro past s i e _ _ hinv
    exact herr hinv

/-! ### Reading runs -/

/-- A turn of a run was taken at the end of the run before it. -/
theorem ContractRuns.of_suffix (h : ContractRuns serde allowed past s)
    (ht : (t :: older) <:+ past) :
    ContractRuns serde allowed older t.before ∧ allowed older t.call := by
  obtain ⟨deps, info, msg, s₀, hinst, hrun⟩ := h
  obtain ⟨hbefore, hallowed, -⟩ := hrun.of_suffix ht
  exact ⟨⟨deps, info, msg, s₀, hinst, hbefore⟩, hallowed⟩

/-- A run up to one of its turns is a run. -/
theorem ContractRuns.upTo (h : ContractRuns serde allowed past s) (ht : (t :: older) <:+ past) :
    ContractRuns serde allowed (t :: older) t.after := by
  obtain ⟨deps, info, msg, s₀, hinst, hrun⟩ := h
  obtain ⟨hbefore, hallowed, heq⟩ := hrun.of_suffix ht
  have hcall := hbefore.call t.call hallowed
  rw [← heq] at hcall
  exact ⟨deps, info, msg, s₀, hinst, hcall⟩

/-- An accepted turn of a run had the effect of its call. -/
theorem ContractRuns.effect (h : ContractRuns serde allowed past s) (ht : (t :: older) <:+ past)
    (ha : t.answer = .ok a) : Effect serde t.before t.call a t.after := by
  obtain ⟨_, _, _, _, _, hrun⟩ := h
  obtain ⟨-, -, heq⟩ := hrun.of_suffix ht
  have hans : ((contract serde).turn t.before t.call).answer = .ok a := by rw [← heq, ha]
  have hret := Machine.returns_of_turn hans
  rw [heq]
  exact effect_of_returns hret

/-- The same, of a turn whose entry point is known. -/
theorem ContractRuns.effect_of_entry {e : EntryPoint} (h : ContractRuns serde allowed past s)
    (ht : (t :: older) <:+ past) (hentry : t.call.entry = e) (ha : t.answer = .ok a) :
    Effect serde t.before ⟨t.call.deps, t.call.env, e⟩ a t.after := by
  rw [← hentry]
  exact h.effect ht ha

/-- A turn of a list is the head of one of its suffixes. -/
theorem exists_suffix_of_mem (ht : t ∈ past) : ∃ older, (t :: older) <:+ past := by
  obtain ⟨newer, older, rfl⟩ := List.append_of_mem ht
  exact ⟨older, List.suffix_append newer (t :: older)⟩

namespace ContractTurn

variable {channel : IbcChannel} {v : String} {packet : IbcPacket}

theorem openInit?_eq_some : t.openInit? = some (channel, v) ↔
    t.call.entry = .ibcChannelOpen (.openInit channel) ∧
      t.answer = .ok (.channelOpen (some ⟨v⟩)) := by
  unfold openInit?
  constructor
  · intro h
    split at h
    · rename_i hentry hanswer
      cases h
      exact ⟨hentry, hanswer⟩
    · cases h
  · intro h
    obtain ⟨hentry, hanswer⟩ := h
    simp only [hentry, hanswer]

theorem openAck?_eq_some : t.openAck? = some (channel, v) ↔
    t.call.entry = .ibcChannelConnect (.openAck channel v) ∧ ∃ a, t.answer = .ok a := by
  unfold openAck?
  constructor
  · intro h
    split at h
    · rename_i hentry hanswer
      cases h
      exact ⟨hentry, _, hanswer⟩
    · cases h
  · intro h
    obtain ⟨hentry, a, hanswer⟩ := h
    simp only [hentry, hanswer]

theorem closeConfirm?_eq_some : t.closeConfirm? = some channel ↔
    t.call.entry = .ibcChannelClose (.closeConfirm channel) ∧ ∃ a, t.answer = .ok a := by
  unfold closeConfirm?
  constructor
  · intro h
    split at h
    · rename_i hentry hanswer
      cases h
      exact ⟨hentry, _, hanswer⟩
    · cases h
  · intro h
    obtain ⟨hentry, a, hanswer⟩ := h
    simp only [hentry, hanswer]

theorem timedOut?_eq_some : t.timedOut? = some packet ↔
    t.call.entry = .ibcPacketTimeout ⟨packet⟩ ∧ ∃ a, t.answer = .ok a := by
  unfold timedOut?
  constructor
  · intro h
    split at h
    · rename_i msg _ hentry hanswer
      cases h
      exact ⟨hentry, _, hanswer⟩
    · cases h
  · intro h
    obtain ⟨hentry, a, hanswer⟩ := h
    simp only [hentry, hanswer]

end ContractTurn

section Turns

variable {channel : IbcChannel} {v : String} {packet : IbcPacket}

/-- An accepted `OpenInit` of a run met the checks of `OpenInit`. -/
theorem ContractRuns.openInit (h : ContractRuns serde allowed past s)
    (ht : (t :: older) <:+ past) (hi : t.openInit? = some (channel, v)) :
    ∃ m, InitAccepts serde t.call.deps t.before channel m ∧ v = m.toString := by
  obtain ⟨hentry, hanswer⟩ := ContractTurn.openInit?_eq_some.mp hi
  obtain ⟨m, hacc, hv, -⟩ := (h.effect_of_entry ht hentry hanswer).of_openInit
  cases hv
  exact ⟨m, hacc, rfl⟩

/-- An accepted `OpenAck` of a run met the checks of `OpenAck`, and stored its channel. -/
theorem ContractRuns.openAck (h : ContractRuns serde allowed past s)
    (ht : (t :: older) <:+ past) (hi : t.openAck? = some (channel, v)) :
    ∃ m st, AckAccepts serde t.before channel v m st ∧
      t.after = t.before.opened st channel m := by
  obtain ⟨hentry, a, hanswer⟩ := ContractTurn.openAck?_eq_some.mp hi
  exact (h.effect_of_entry ht hentry hanswer).of_openAck

/-- An accepted `CloseConfirm` of a run was of the stored channel. -/
theorem ContractRuns.closeConfirm (h : ContractRuns serde allowed past s)
    (ht : (t :: older) <:+ past) (hi : t.closeConfirm? = some channel) :
    ∃ cs, t.before.channelState = some cs ∧ cs.channel = channel := by
  obtain ⟨hentry, a, hanswer⟩ := ContractTurn.closeConfirm?_eq_some.mp hi
  obtain ⟨cs, hcs, hchannel, -⟩ := (h.effect_of_entry ht hentry hanswer).of_closeConfirm
  exact ⟨cs, hcs, hchannel⟩

/-- An accepted timeout of a run closed whatever channel was stored. -/
theorem ContractRuns.timedOut (h : ContractRuns serde allowed past s)
    (ht : (t :: older) <:+ past) (hi : t.timedOut? = some packet) :
    ∃ cs, t.before.channelState = some cs ∧ t.after.channelState = some cs.close := by
  obtain ⟨hentry, a, hanswer⟩ := ContractTurn.timedOut?_eq_some.mp hi
  exact (h.effect_of_entry ht hentry hanswer).of_timeout

end Turns

end IcaController
