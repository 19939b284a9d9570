/-
What the contract records of its packets: the counters and the events.

A packet comes back as an acknowledgement or as a timeout.  The counters are the
only state an acknowledgement touches, and they are an exact tally of the accepted
callbacks: one step adds one to the counter of its outcome and keeps the others,
so after a run each counter is the number of its outcomes in the past, in whatever
order they came.  The event of an acknowledgement says which packet it was for and
what was answered, and two events are equal only if both are.
-/
import IcaController.Lib.Decimal
import IcaController.Proofs.Dial
import IcaController.Proofs.Formats

namespace IcaController

open Exec Item

variable {serde : SerdeJsonWasm} {allowed : Rule} {past older : List ContractTurn}
  {s s' : Storage} {t : ContractTurn} {i : Invocation} {a : Answer} {c c' : CallbackCounter}

/-! ### Outcomes -/

/-- What a packet came to. -/
inductive Outcome where
  | success
  | error
  | timeout
  deriving DecidableEq

/-- The counter of an outcome. -/
def CallbackCounter.of (c : CallbackCounter) : Outcome → UInt32
  | .success => c.success
  | .error => c.error
  | .timeout => c.timeout

def AcknowledgementData.outcome : AcknowledgementData → Outcome
  | .result _ => .success
  | .error _ => .error

/-- What a callback reports, if it is one and its bytes decode. -/
def EntryPoint.outcome? (serde : SerdeJsonWasm) : EntryPoint → Option Outcome
  | .ibcPacketAck msg =>
      match serde.fromBinary msg.acknowledgement.data with
      | .ok ack => some ack.outcome
      | .error _ => none
  | .ibcPacketTimeout _ => some .timeout
  | _ => none

/-- What an accepted turn reports. -/
def ContractTurn.outcome? (serde : SerdeJsonWasm) (t : ContractTurn) : Option Outcome :=
  match t.answer with
  | .ok _ => t.call.entry.outcome? serde
  | .error _ => none

/-- The outcomes reported and accepted in a past, newest first. -/
def outcomes (serde : SerdeJsonWasm) (past : List ContractTurn) : List Outcome :=
  past.filterMap (ContractTurn.outcome? serde)

theorem outcomes_cons :
    outcomes serde (t :: past) = (t.outcome? serde).toList ++ outcomes serde past := by
  unfold outcomes
  rw [List.filterMap_cons]
  cases t.outcome? serde <;> rfl

theorem outcomes_append {newer : List ContractTurn} :
    outcomes serde (newer ++ older) = outcomes serde newer ++ outcomes serde older :=
  List.filterMap_append

/-! ### One increment

Every increment is checked.  It either adds one to its own counter and leaves the other
two, or it fails and the call with it.
-/

/-- The three increments, by outcome. -/
def CallbackCounter.inc (c : CallbackCounter) : Outcome → Except Fault CallbackCounter
  | .success => c.incSuccess
  | .error => c.incError
  | .timeout => c.incTimeout

/-- The counter of an outcome replaced. -/
def CallbackCounter.put (c : CallbackCounter) (n : UInt32) : Outcome → CallbackCounter
  | .success => { c with success := n }
  | .error => { c with error := n }
  | .timeout => { c with timeout := n }

theorem of_put (n : UInt32) (o o' : Outcome) :
    (c.put n o).of o' = if o' = o then n else c.of o' := by
  cases o <;> cases o' <;> rfl

theorem inc_eq (c : CallbackCounter) (o : Outcome) :
    c.inc o = do return c.put (← orOverflow (checkedAddU32 (c.of o) 1)) o := by
  cases o <;> rfl

theorem record_eq (c : CallbackCounter) (ack : AcknowledgementData) :
    c.record ack = c.inc ack.outcome := by
  cases ack <;> rfl

/-- Exactly one counter goes up by one. -/
def Bumps (o : Outcome) (c c' : CallbackCounter) : Prop :=
  ∀ o', (c'.of o').toNat = (c.of o').toNat + if o' = o then 1 else 0

theorem checkedAddU32_toNat {a b r : UInt32} (h : checkedAddU32 a b = some r) :
    r.toNat = a.toNat + b.toNat := by
  unfold checkedAddU32 at h
  split at h
  · rename_i hlt
    cases h
    rw [UInt32.toNat_add]
    exact Nat.mod_eq_of_lt hlt
  · cases h

/-- An increment that goes through does not wrap. -/
theorem bumps_inc {o : Outcome} (h : c.inc o = .ok c') : Bumps o c c' := by
  rw [inc_eq, Except.bind_eq_ok] at h
  obtain ⟨n, hn, hc⟩ := h
  cases hc
  intro o'
  rw [of_put]
  by_cases ho : o' = o
  · rw [if_pos ho, if_pos ho, ho]
    exact checkedAddU32_toNat (orOverflow_eq_ok.mp hn)
  · rw [if_neg ho, if_neg ho, Nat.add_zero]

/-- An increment at the largest value aborts. -/
theorem inc_overflow {o : Outcome} (h : (c.of o).toNat + 1 = UInt32.size) :
    c.inc o = .error (.abort .overflow) := by
  have hnone : checkedAddU32 (c.of o) 1 = none := by
    have hone : (1 : UInt32).toNat = 1 := rfl
    unfold checkedAddU32
    rw [if_neg (by omega)]
  rw [inc_eq, hnone]
  rfl

/-- An increment fails in no other way. -/
theorem inc_error {o : Outcome} {e : Fault} (h : c.inc o = .error e) : e = .abort .overflow := by
  rw [inc_eq] at h
  cases hadd : checkedAddU32 (c.of o) 1 with
  | none =>
      rw [hadd] at h
      cases h
      rfl
  | some n =>
      rw [hadd] at h
      cases h

/-- An increment goes through exactly below the largest value. -/
theorem exists_inc_iff {o : Outcome} :
    (∃ c', c.inc o = .ok c') ↔ (c.of o).toNat + 1 < UInt32.size := by
  constructor
  · intro h
    obtain ⟨c', hinc⟩ := h
    by_contra hfull
    have hlt : (c.of o).toNat < UInt32.size := (c.of o).toNat_lt
    rw [inc_overflow (by omega)] at hinc
    cases hinc
  · intro h
    have hadd : checkedAddU32 (c.of o) 1 = some (c.of o + 1) := if_pos h
    exact ⟨_, by rw [inc_eq, hadd]; rfl⟩

/-! ### The tally -/

/-- Every counter is the number of its outcomes. -/
def Tallies (outs : List Outcome) (c : CallbackCounter) : Prop :=
  ∀ o, (c.of o).toNat = outs.count o

theorem Tallies.bump {outs : List Outcome} {o : Outcome} (h : Tallies outs c)
    (hb : Bumps o c c') : Tallies (o :: outs) c' := by
  intro o'
  rw [hb o', h o', List.count_cons]
  by_cases ho : o' = o
  · simp [ho]
  · have hne : ¬ o = o' := fun heq => ho heq.symm
    simp [ho, hne]

/-- The counters are determined by what they tally. -/
theorem Tallies.unique {outs outs' : List Outcome} (h : Tallies outs c) (h' : Tallies outs' c')
    (hperm : outs.Perm outs') : c = c' := by
  have hof : ∀ o, c.of o = c'.of o := by
    intro o
    apply UInt32.toNat_inj.mp
    rw [h o, h' o, hperm.count_eq]
  obtain ⟨success, error, timeout⟩ := c
  obtain ⟨success', error', timeout'⟩ := c'
  obtain rfl : success = success' := hof .success
  obtain rfl : error = error' := hof .error
  obtain rfl : timeout = timeout' := hof .timeout
  rfl

/-- **An accepted call tallies its own outcome**, and nothing if it has none. -/
theorem Effect.tallies {outs : List Outcome} (h : Effect serde s i a s')
    (hc : ∃ c, s.callbackCounter = some c ∧ Tallies outs c) :
    ∃ c, s'.callbackCounter = some c ∧
      Tallies ((ContractTurn.outcome? serde ⟨s, i, .ok a, s'⟩).toList ++ outs) c := by
  obtain ⟨c, hstored, htally⟩ := hc
  cases h with
  | execute _ => exact ⟨c, hstored, htally⟩
  | query _ => exact ⟨c, hstored, htally⟩
  | openInit _ => exact ⟨c, hstored, htally⟩
  | openAck _ => exact ⟨c, hstored, htally⟩
  | closeConfirm _ => exact ⟨c, hstored, htally⟩
  | ack hdec hcell hinc =>
      rw [hstored, Option.some.injEq] at hcell
      subst hcell
      refine ⟨_, rfl, ?_⟩
      simp only [ContractTurn.outcome?, EntryPoint.outcome?, hdec]
      rw [record_eq] at hinc
      exact htally.bump (bumps_inc hinc)
  | timeout hcell hinc _ =>
      rw [hstored, Option.some.injEq] at hcell
      subst hcell
      exact ⟨_, rfl, htally.bump (bumps_inc hinc)⟩

/-- **The counters tally the past**, after every run. -/
theorem ContractRuns.tallies (h : ContractRuns serde allowed past s) :
    ∃ c, s.callbackCounter = some c ∧ Tallies (outcomes serde past) c := by
  refine h.induction (fun past s => ∃ c, s.callbackCounter = some c ∧
    Tallies (outcomes serde past) c) ?_ ?_ ?_
  · intro admin
    refine ⟨_, rfl, ?_⟩
    intro o
    cases o <;> rfl
  · intro past s i a s' _ _ htally he
    rw [outcomes_cons]
    exact he.tallies htally
  · intro past s i e htally
    exact htally

/-! ### Callbacks that are turned down

Only two things are in the way of a callback that decodes: a full counter, and for a
timeout a channel that is not there.
-/

/-- With a counter stored, an update of it fails as the function does. -/
theorem fails_updateCounter {f : CallbackCounter → Except Fault CallbackCounter} {e : Fault}
    (hc : s.callbackCounter = some c) :
    Fails (callbackCounterItem.update f) s e s' ↔ f c = .error e ∧ s = s' := by
  simp [hc]

/-- It returns as the function does. -/
theorem returns_updateCounter {f : CallbackCounter → Except Fault CallbackCounter}
    (hc : s.callbackCounter = some c) :
    Returns (callbackCounterItem.update f) s c' s' ↔
      f c = .ok c' ∧ { s with callbackCounter := some c' } = s' := by
  simp [hc]

/-- A callback whose counter cannot be incremented fails as the increment does. -/
theorem fails_of_inc {o : Outcome} {e : Fault} (ho : i.entry.outcome? serde = some o)
    (hc : s.callbackCounter = some c) (hinc : c.inc o = .error e) :
    Fails (serve serde i) s e s := by
  obtain ⟨deps, env, entry⟩ := i
  cases entry with
  | ibcPacketAck msg =>
      simp only [EntryPoint.outcome?] at ho
      split at ho
      · rename_i ack hdec
        cases ho
        have hread : orStdErr (serde.fromBinary msg.acknowledgement.data) = .ok ack := by
          rw [hdec, orStdErr]
        refine fails_map.mpr (fails_bind.mpr (Or.inr ⟨ack, s,
          returns_liftExcept.mpr ⟨hread, rfl⟩, ?_⟩))
        cases ack with
        | result res => exact fails_bind.mpr (Or.inl ((fails_updateCounter hc).mpr ⟨hinc, rfl⟩))
        | error err => exact fails_bind.mpr (Or.inl ((fails_updateCounter hc).mpr ⟨hinc, rfl⟩))
      · cases ho
  | ibcPacketTimeout msg =>
      cases ho
      exact fails_map.mpr (fails_bind.mpr (Or.inl ((fails_updateCounter hc).mpr ⟨hinc, rfl⟩)))
  | execute _ _ => cases ho
  | query _ => cases ho
  | ibcChannelOpen _ => cases ho
  | ibcChannelConnect _ => cases ho
  | ibcChannelClose _ => cases ho
  | ibcPacketReceive _ => cases ho

/-- An acknowledgement whose bytes do not decode is rejected with the decoder's error. -/
theorem fails_of_undecodable {msg : IbcPacketAckMsg} {e : StdError}
    (hentry : i.entry = .ibcPacketAck msg)
    (hdec : serde.fromBinary msg.acknowledgement.data = .error e) :
    Fails (serve serde i) s (.err (.std e)) s := by
  obtain ⟨deps, env, entry⟩ := i
  obtain rfl : entry = .ibcPacketAck msg := hentry
  have hread : orStdErr (serde.fromBinary msg.acknowledgement.data) = .error (.err (.std e)) := by
    rw [hdec, orStdErr]
  exact fails_map.mpr (fails_bind.mpr (Or.inl (fails_liftExcept.mpr ⟨hread, rfl⟩)))

theorem answer_of_fails {e : Fault} (h : ContractRuns serde allowed past s)
    (ht : (t :: older) <:+ past) (hfails : Fails (serve serde t.call) t.before e t.before) :
    t.answer = .error e := by
  obtain ⟨_, _, _, _, _, hrun⟩ := h
  obtain ⟨-, -, heq⟩ := hrun.of_suffix ht
  rw [heq, contract, Machine.turn_of_fails hfails]

/-- Every turn leaves the counters alone unless it reports an outcome. -/
theorem counter_of_turn (h : ContractRuns serde allowed past s) (ht : (t :: older) <:+ past)
    (ho : t.outcome? serde = none) : t.after.callbackCounter = t.before.callbackCounter := by
  obtain ⟨c, hc, htally⟩ := (h.of_suffix ht).1.tallies
  obtain ⟨c', hc', htally'⟩ := (h.upTo ht).tallies
  rw [outcomes_cons, ho] at htally'
  rw [hc, hc', htally'.unique htally (.refl _)]

/--
**Callback accounting is exact.**  Each counter is the number of accepted callbacks
that reported its outcome; a call that reports none, and so an acknowledgement that
does not decode, changes no counter; a counter at its largest value turns its next
callback down; and the order of the callbacks leaves no trace in the counters.
-/
theorem callbacks_counted (h : ContractRuns serde anyCall past s) :
    (∃ c, s.callbackCounter = some c ∧
      c.success.toNat = (outcomes serde past).count .success ∧
      c.error.toNat = (outcomes serde past).count .error ∧
      c.timeout.toNat = (outcomes serde past).count .timeout) ∧
    (∀ t ∈ past, t.outcome? serde = none → t.after.callbackCounter = t.before.callbackCounter) ∧
    (∀ t ∈ past, ∀ msg e, t.call.entry = .ibcPacketAck msg →
      serde.fromBinary msg.acknowledgement.data = .error e → t.answer = .error (.err (.std e))) ∧
    (∀ t ∈ past, ∀ o c, t.call.entry.outcome? serde = some o → t.before.callbackCounter = some c →
      (c.of o).toNat + 1 = UInt32.size → t.answer = .error (.abort .overflow)) ∧
    ∀ past' s', ContractRuns serde anyCall past' s' →
      (outcomes serde past').Perm (outcomes serde past) →
        s'.callbackCounter = s.callbackCounter := by
  obtain ⟨c, hc, htally⟩ := h.tallies
  refine ⟨⟨c, hc, htally .success, htally .error, htally .timeout⟩, ?_, ?_, ?_, ?_⟩
  · intro t ht ho
    obtain ⟨_, hsuffix⟩ := exists_suffix_of_mem ht
    exact counter_of_turn h hsuffix ho
  · intro t ht msg e hentry hdec
    obtain ⟨_, hsuffix⟩ := exists_suffix_of_mem ht
    exact answer_of_fails h hsuffix (fails_of_undecodable hentry hdec)
  · intro t ht o c ho hc hmax
    obtain ⟨_, hsuffix⟩ := exists_suffix_of_mem ht
    exact answer_of_fails h hsuffix (fails_of_inc ho hc (inc_overflow hmax))
  · intro past' s' h' hperm
    obtain ⟨c', hc', htally'⟩ := h'.tallies
    rw [hc, hc', htally'.unique htally hperm]

/-- An acknowledgement of the sample packet, as the host writes it. -/
def sampleAck (ack : AcknowledgementData) : IbcPacketAckMsg := ⟨⟨ack.toBinary⟩, samplePacket⟩

theorem returns_sampleAck (ack : AcknowledgementData) (hc : s.callbackCounter = some c)
    (hinc : c.record ack = .ok c') :
    Returns (ibcPacketAck jsonReader (sampleAck ack)) s
      { events := [Events.ofAck samplePacket ack] } { s with callbackCounter := some c' } :=
  returns_ibcPacketAck.mpr
    ⟨ack, c, c', jsonReader_fromBinary_toBinary ack, hc, hinc, rfl, rfl⟩

theorem effect_sampleAck (ack : AcknowledgementData) (hc : s.callbackCounter = some c)
    (hinc : c.record ack = .ok c') :
    Effect jsonReader s ⟨sampleDeps, sampleEnv, .ibcPacketAck (sampleAck ack)⟩
      (.basic { events := [Events.ofAck samplePacket ack] })
      { s with callbackCounter := some c' } :=
  .ack (jsonReader_fromBinary_toBinary ack) hc hinc

/-- One packet succeeds and the next one fails. -/
theorem callbacks_counted_sample :
    ∃ past s c, ContractRuns jsonReader anyCall past s ∧
      outcomes jsonReader past = [.error, .success] ∧ s.callbackCounter = some c ∧
      c.success.toNat = 1 ∧ c.error.toNat = 1 ∧ c.timeout.toNat = 0 := by
  have houtcome {s s' a} (ack : AcknowledgementData) : ContractTurn.outcome? jsonReader
      ⟨s, ⟨sampleDeps, sampleEnv, .ibcPacketAck (sampleAck ack)⟩, .ok a, s'⟩ =
        some ack.outcome := by
    simp only [ContractTurn.outcome?, EntryPoint.outcome?, sampleAck,
      jsonReader_fromBinary_toBinary]
  have hsuccess := (ContractRuns.fresh "admin" : ContractRuns jsonReader anyCall _ _).accept
    trivial (effect_sampleAck (.result [1]) rfl rfl)
  have hrun := hsuccess.accept trivial (effect_sampleAck (.error "ABCI code: 5") rfl rfl)
  obtain ⟨⟨c, hc, hcounts⟩, -⟩ := callbacks_counted hrun
  simp only [outcomes_cons, houtcome] at hcounts
  refine ⟨_, _, c, hrun, ?_, hc, hcounts⟩
  simp only [outcomes_cons, houtcome]
  rfl

/-! ### What an event says -/

theorem fromPacket_inj {p p' : IbcPacket} : Events.fromPacket p = Events.fromPacket p' ↔
    p.sequence = p'.sequence ∧ p.src.portId = p'.src.portId ∧
      p.src.channelId = p'.src.channelId := by
  have hseq : p.sequence.toNat.repr = p'.sequence.toNat.repr ↔ p.sequence = p'.sequence := by
    rw [Decimal.repr_injective.eq_iff, UInt64.toNat_inj]
  simp [Events.fromPacket, hseq]

/-- The attribute that carries the answer.  Its key tells a success from an error. -/
def AcknowledgementData.attribute : AcknowledgementData → Attribute
  | .result res => ⟨"packet_ack_base64", String.ofList (Base64.encode res)⟩
  | .error err => ⟨"error", err⟩

theorem attribute_injective : Function.Injective AcknowledgementData.attribute := by
  intro ack ack' h
  obtain ⟨hkey, hvalue⟩ := Attribute.mk.inj h
  have hne : "packet_ack_base64" ≠ "error" := by decide
  cases ack with
  | result res =>
      cases ack' with
      | result res' =>
          have htext : Base64.encode res = Base64.encode res' := String.ofList_injective hvalue
          rw [Base64.encode_injective htext]
      | error err' => exact absurd hkey hne
  | error err =>
      cases ack' with
      | result res' => exact absurd hkey.symm hne
      | error err' => rw [show err = err' from hvalue]

theorem attributes_ofAck (packet : IbcPacket) (ack : AcknowledgementData) :
    (Events.ofAck packet ack).attributes = Events.fromPacket packet ++ [ack.attribute] := by
  cases ack <;> rfl

theorem ofAck_inj {p p' : IbcPacket} {ack ack' : AcknowledgementData} :
    Events.ofAck p ack = Events.ofAck p' ack' ↔
      Events.fromPacket p = Events.fromPacket p' ∧ ack = ack' := by
  constructor
  · intro h
    have hattributes := congrArg Event.attributes h
    rw [attributes_ofAck, attributes_ofAck] at hattributes
    -- a packet has as many attributes as any other
    obtain ⟨hpacket, hack⟩ := List.append_inj hattributes rfl
    exact ⟨hpacket, attribute_injective (List.singleton_inj.mp hack)⟩
  · intro h
    obtain ⟨hpacket, rfl⟩ := h
    cases ack <;> simp [Events.ofAck, Events.success, Events.error, hpacket]

/--
**An event says which packet and what answer**: the events of two accepted
acknowledgements are equal exactly when the packets are the same and both answers
decode to the same.
-/
theorem ack_events_eq_iff {msg msg' : IbcPacketAckMsg} {r r' : IbcBasicResponse}
    {s₁ s₁' : Storage} (h : Returns (ibcPacketAck serde msg) s r s₁)
    (h' : Returns (ibcPacketAck serde msg') s' r' s₁') :
    r.events = r'.events ↔
      (msg.originalPacket.sequence = msg'.originalPacket.sequence ∧
        msg.originalPacket.src.portId = msg'.originalPacket.src.portId ∧
        msg.originalPacket.src.channelId = msg'.originalPacket.src.channelId) ∧
      ∃ ack, serde.fromBinary msg.acknowledgement.data = .ok ack ∧
        serde.fromBinary msg'.acknowledgement.data = .ok ack := by
  obtain ⟨ack, _, _, hdec, -, -, rfl, -⟩ := returns_ibcPacketAck.mp h
  obtain ⟨ack', _, _, hdec', -, -, rfl, -⟩ := returns_ibcPacketAck.mp h'
  rw [List.singleton_inj, ofAck_inj, fromPacket_inj, hdec, hdec']
  constructor
  · intro hsame
    obtain ⟨hpacket, rfl⟩ := hsame
    exact ⟨hpacket, ack, rfl, rfl⟩
  · intro hsame
    obtain ⟨hpacket, _, hack, hack'⟩ := hsame
    cases hack
    cases hack'
    exact ⟨hpacket, rfl⟩

/-- An error that spells the text of a result is still told from it. -/
theorem ack_events_eq_iff_sample :
    ∃ r r' s s', Returns (ibcPacketAck jsonReader (sampleAck (.result [1])))
        (Storage.fresh "admin") r s ∧
      Returns (ibcPacketAck jsonReader (sampleAck (.error "AQ=="))) (Storage.fresh "admin") r' s' ∧
      r.events ≠ r'.events := by
  have hresult := returns_sampleAck (s := Storage.fresh "admin") (.result [1]) rfl rfl
  have herror := returns_sampleAck (s := Storage.fresh "admin") (.error "AQ==") rfl rfl
  refine ⟨_, _, _, _, hresult, herror, ?_⟩
  intro hsame
  obtain ⟨-, ack, hack, hack'⟩ := (ack_events_eq_iff hresult herror).mp hsame
  simp only [sampleAck, jsonReader_fromBinary_toBinary, Except.ok.injEq] at hack hack'
  rw [← hack] at hack'
  cases hack'

end IcaController
