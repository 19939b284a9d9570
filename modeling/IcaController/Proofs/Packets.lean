/-
What the admin's calls put on the wire.

A call of the admin that reaches an account is a pure function of its message and
the block time: it builds a packet, adds the timeout to the block time, and either
all of that goes through or the call fails.  The packet reads back from the bytes
sent, so the bytes determine it.
-/
import IcaController.Proofs.Dial
import IcaController.Proofs.Formats

namespace IcaController

open Exec

variable {env : Env} {info : MessageInfo} {msg : ExecuteMsg} {s s' : Storage} {st : ContractState}
  {ica : IcaInfo} {m : IbcMsg} {p : IcaPacketData} {r : Response} {e : Fault}

/-! ### The call as a function -/

theorem request_of_packet (hp : msg.packet ica = .ok p) :
    msg.request env ica = p.toIbcMsg env ica.channelId msg.timeoutSeconds := by
  simp only [ExecuteMsg.request, hp, orErr, bind, Except.bind]

theorem request_of_error {e : ContractError} (hp : msg.packet ica = .error e) :
    msg.request env ica = .error (.err e) := by
  simp only [ExecuteMsg.request, hp, orErr, bind, Except.bind]

theorem returns_admin (hst : s.state = some st) (hica : st.icaInfo = some ica) :
    Returns (execute env ⟨st.admin⟩ msg) s r s' ↔
      ∃ m, msg.request env ica = .ok m ∧ r = { messages := [m] } ∧ s' = s := by
  rw [returns_execute]
  constructor
  · intro h
    obtain ⟨st', ica', m, hacc, hr, hs⟩ := h
    have hstate := hacc.state
    rw [hst, Option.some.injEq] at hstate
    subst hstate
    have haccount := hacc.account
    rw [hica, Option.some.injEq] at haccount
    subst haccount
    exact ⟨m, request_eq_ok.mpr hacc.packet, hr, hs⟩
  · intro h
    obtain ⟨m, hm, hr, hs⟩ := h
    exact ⟨st, ica, m, ⟨hst, rfl, hica, request_eq_ok.mp hm⟩, hr, hs⟩

theorem fails_admin (env : Env) (msg : ExecuteMsg) (hst : s.state = some st)
    (hica : st.icaInfo = some ica) :
    Fails (execute env ⟨st.admin⟩ msg) s e s' ↔ msg.request env ica = .error e ∧ s' = s := by
  have hadmin : orErr (st.verifyAdmin st.admin) = .ok () := by simp
  have haccount : orErr st.getIcaInfo = .ok ica := by simp [hica]
  have hsend : Fails (execute env ⟨st.admin⟩ msg) s e s' ↔
      orErr (msg.packet ica) = .error e ∧ s = s' ∨
        ∃ p, (msg.packet ica = .ok p ∧ s = s') ∧
          p.toIbcMsg env ica.channelId msg.timeoutSeconds = .error e := by
    cases msg with
    | sendCustomIcaMessages messages packetMemo timeoutSeconds =>
        have hpacket : orErr (.ok (IcaPacketData.new messages packetMemo)) =
            .ok (IcaPacketData.new messages packetMemo) := rfl
        simp [execute, Execute.sendCustomIcaMessages, hst, hica, hadmin, haccount, hpacket,
          ExecuteMsg.packet, ExecuteMsg.timeoutSeconds]
    | icaBankSend amount denom toAddress =>
        simp [execute, Execute.icaBankSend, hst, hica, hadmin, haccount, ExecuteMsg.packet,
          ExecuteMsg.timeoutSeconds]
  rw [hsend]
  cases hp : msg.packet ica with
  | error e' => simp [request_of_error hp, orErr, eq_comm]
  | ok p => simp [request_of_packet hp, orErr, eq_comm, and_comm]

/-! ### The timeout

Both steps are checked, the seconds in nanoseconds and their sum with the time of the
block.  The range of `u64` is left through either.
-/

/-- A checked operation returns the exact result, or nothing when it does not fit. -/
theorem checked_eq_some {n : Nat} {wrapped x : UInt64}
    (hwrapped : wrapped.toNat = n % UInt64.size) :
    (if n < UInt64.size then some wrapped else none) = some x ↔ x.toNat = n := by
  constructor
  · intro h
    split at h
    · rename_i hlt
      cases h
      rw [hwrapped, Nat.mod_eq_of_lt hlt]
    · cases h
  · intro h
    have hlt : n < UInt64.size := by
      rw [← h]
      exact x.toNat_lt
    rw [if_pos hlt, Option.some.injEq, ← UInt64.toNat_inj, hwrapped, h, Nat.mod_eq_of_lt hlt]

theorem checkedAddU64_eq_some {a b x : UInt64} :
    checkedAddU64 a b = some x ↔ x.toNat = a.toNat + b.toNat :=
  checked_eq_some (UInt64.toNat_add a b)

theorem checkedMulU64_eq_some {a b x : UInt64} :
    checkedMulU64 a b = some x ↔ x.toNat = a.toNat * b.toNat :=
  checked_eq_some (UInt64.toNat_mul a b)

theorem plusSeconds_iff {t ts : Timestamp} {secs : UInt64} :
    t.plusSeconds secs = some ts ↔ ∃ delta, checkedMulU64 secs 1000000000 = some delta ∧
      checkedAddU64 t.nanos delta = some ts.nanos := by
  obtain ⟨nanos⟩ := ts
  simp [Timestamp.plusSeconds, Timestamp.plusNanos, Option.bind_eq_some_iff]

/-- **Seconds are added exactly**, or not at all. -/
theorem plusSeconds_eq_some {t ts : Timestamp} {secs : UInt64} :
    t.plusSeconds secs = some ts ↔
      ts.nanos.toNat = t.nanos.toNat + secs.toNat * 1000000000 := by
  have hunit : (1000000000 : UInt64).toNat = 1000000000 := by simp
  simp only [plusSeconds_iff, checkedMulU64_eq_some, checkedAddU64_eq_some, hunit]
  constructor
  · intro h
    obtain ⟨delta, hdelta, hsum⟩ := h
    rw [hsum, hdelta]
  · intro h
    have hlt : secs.toNat * 1000000000 < UInt64.size := by
      have hnanos : ts.nanos.toNat < UInt64.size := ts.nanos.toNat_lt
      omega
    have hdelta := UInt64.toNat_ofNat_of_lt' hlt
    exact ⟨UInt64.ofNat (secs.toNat * 1000000000), hdelta, by rw [hdelta, h]⟩

/-- The message a packet is sent with: its bytes, and the block time plus the timeout. -/
theorem toIbcMsg_eq_ok {id : String} {secs : Option UInt64} :
    p.toIbcMsg env id secs = .ok m ↔ ∃ deadline : Timestamp,
      deadline.nanos.toNat = env.block.time.nanos.toNat +
        (secs.getD defaultTimeoutSeconds).toNat * 1000000000 ∧
      m = .sendPacket id p.toBinary (IbcTimeout.withTimestamp deadline) := by
  simp only [IcaPacketData.toIbcMsg, Except.bind_eq_ok, orOverflow_eq_ok, plusSeconds_eq_some,
    pure, Except.pure, Except.ok.injEq, @eq_comm _ m]

theorem toIbcMsg_error {id : String} {secs : Option UInt64}
    (h : p.toIbcMsg env id secs = .error e) : e = .abort .overflow := by
  unfold IcaPacketData.toIbcMsg at h
  cases htime : env.block.time.plusSeconds (secs.getD defaultTimeoutSeconds) with
  | none =>
      rw [htime] at h
      cases h
      rfl
  | some deadline =>
      rw [htime] at h
      cases h

/--
**A timeout is exact.**  A call of the admin fails and changes nothing, or it sends
one packet whose deadline is the block time plus the seconds asked for, as integers;
the deadline lies ahead unless zero seconds were asked for.
-/
theorem timeout_is_exact (hst : s.state = some st) (hica : st.icaInfo = some ica) :
    (∃ e, Fails (execute env ⟨st.admin⟩ msg) s e s) ∨
    ∃ data deadline, Returns (execute env ⟨st.admin⟩ msg) s
        { messages := [.sendPacket ica.channelId data (IbcTimeout.withTimestamp deadline)] } s ∧
      deadline.nanos.toNat = env.block.time.nanos.toNat +
        (msg.timeoutSeconds.getD defaultTimeoutSeconds).toNat * 1000000000 ∧
      (env.block.time.nanos.toNat < deadline.nanos.toNat ↔ msg.timeoutSeconds ≠ some 0) := by
  cases hreq : msg.request env ica with
  | error e => exact Or.inl ⟨e, (fails_admin env msg hst hica).mpr ⟨hreq, rfl⟩⟩
  | ok m =>
      obtain ⟨p, -, hmsg⟩ := request_eq_ok.mp hreq
      obtain ⟨deadline, hexact, rfl⟩ := toIbcMsg_eq_ok.mp hmsg
      refine Or.inr ⟨_, deadline, (returns_admin hst hica).mpr ⟨_, hreq, rfl, rfl⟩, hexact, ?_⟩
      have hzero : (msg.timeoutSeconds.getD defaultTimeoutSeconds).toNat = 0 ↔
          msg.timeoutSeconds = some 0 := by
        cases msg.timeoutSeconds with
        | none => simp [defaultTimeoutSeconds]
        | some secs => simp [← UInt64.toNat_inj]
      rw [hexact, ne_eq, ← hzero]
      omega

/-- A packet of the admin goes through when its deadline fits. -/
theorem sends_when_fits (msg : ExecuteMsg) (deadline : Timestamp) (hst : s.state = some st)
    (hica : st.icaInfo = some ica) (hp : msg.packet ica = .ok p)
    (hexact : deadline.nanos.toNat = env.block.time.nanos.toNat +
      (msg.timeoutSeconds.getD defaultTimeoutSeconds).toNat * 1000000000) :
    Returns (execute env ⟨st.admin⟩ msg) s
      { messages := [.sendPacket ica.channelId p.toBinary (IbcTimeout.withTimestamp deadline)] }
      s := by
  refine (returns_admin hst hica).mpr ⟨_, request_eq_ok.mpr ⟨p, hp, ?_⟩, rfl, rfl⟩
  exact toIbcMsg_eq_ok.mpr ⟨deadline, hexact, rfl⟩

/-- It goes through in no other case. -/
theorem accepted_iff (env : Env) (msg : ExecuteMsg) (hst : s.state = some st)
    (hica : st.icaInfo = some ica) (hp : msg.packet ica = .ok p) :
    (∃ r s', Returns (execute env ⟨st.admin⟩ msg) s r s') ↔
      ∃ deadline : Timestamp, deadline.nanos.toNat = env.block.time.nanos.toNat +
        (msg.timeoutSeconds.getD defaultTimeoutSeconds).toNat * 1000000000 := by
  constructor
  · intro h
    obtain ⟨r, s', hret⟩ := h
    obtain ⟨m, hreq, -, -⟩ := (returns_admin hst hica).mp hret
    rw [request_of_packet hp] at hreq
    obtain ⟨deadline, hexact, -⟩ := toIbcMsg_eq_ok.mp hreq
    exact ⟨deadline, hexact⟩
  · intro h
    obtain ⟨deadline, hexact⟩ := h
    exact ⟨_, s, sends_when_fits msg deadline hst hica hp hexact⟩

/-- A packet of the sample admin, at the start of time. -/
theorem sample_sends (messages : Binary) (memo : Option String) (secs : Option UInt64)
    (deadline : Timestamp)
    (hexact : deadline.nanos.toNat = (secs.getD defaultTimeoutSeconds).toNat * 1000000000) :
    Returns (execute sampleEnv ⟨sampleState.admin⟩ (.sendCustomIcaMessages messages memo secs))
      sampleOpened
      { messages := [.sendPacket sampleAccount.channelId (IcaPacketData.new messages memo).toBinary
        (IbcTimeout.withTimestamp deadline)] } sampleOpened := by
  refine sends_when_fits (.sendCustomIcaMessages messages memo secs) deadline sampleOpened_state
    rfl rfl ?_
  simpa [sampleEnv, ExecuteMsg.timeoutSeconds] using hexact

/-- At the start of time, a packet with the default timeout expires after ten minutes. -/
theorem timeout_is_exact_sample :
    ∃ data deadline, Returns (execute sampleEnv ⟨sampleState.admin⟩
        (.sendCustomIcaMessages [] none none)) sampleOpened
        { messages := [.sendPacket sampleAccount.channelId data
          (IbcTimeout.withTimestamp deadline)] } sampleOpened ∧
      deadline.nanos.toNat = 600000000000 := by
  rcases timeout_is_exact sampleOpened_state rfl with ⟨e, hfails⟩ | hsent
  · have hret := sample_sends [] none none ⟨600000000000⟩ (by simp [defaultTimeoutSeconds])
    exact absurd hfails hret.not_fails
  · obtain ⟨data, deadline, hret, hexact, -⟩ := hsent
    exact ⟨data, deadline, hret, hexact⟩

/-- Asked for zero seconds, the contract sends a packet that expires in its own block. -/
theorem zero_timeout_is_now :
    ∃ data deadline, Returns (execute sampleEnv ⟨sampleState.admin⟩
        (.sendCustomIcaMessages [] none (some 0))) sampleOpened
        { messages := [.sendPacket sampleAccount.channelId data
          (IbcTimeout.withTimestamp deadline)] } sampleOpened ∧
      ¬ sampleEnv.block.time.nanos.toNat < deadline.nanos.toNat :=
  ⟨_, ⟨0⟩, sample_sends [] none (some 0) ⟨0⟩ (by simp), by simp [sampleEnv]⟩

/-! ### The bytes -/

theorem type_of_packet (h : msg.packet ica = .ok p) : p.type = 1 := by
  cases msg with
  | sendCustomIcaMessages messages packetMemo timeoutSeconds =>
      cases h
      rfl
  | icaBankSend amount denom toAddress =>
      simp only [ExecuteMsg.packet, Execute.bankSendPacket] at h
      split at h
      · cases h
        rfl
      · split at h
        · cases h
        · cases h
          rfl

/-- The memo is a member of the printed packet when there is one, and only then. -/
theorem member_memo (p : IcaPacketData) :
    ∃ members, jsonOfBinary p.toBinary = some (.obj members) ∧
      Json.member? "memo" members = p.memo.map Json.str := by
  refine ⟨_, jsonOfBinary_print _, ?_⟩
  cases p.memo with
  | none => rfl
  | some memo => rfl

/--
**Packet encoding loses nothing.**  The bytes an accepted call sends read as type 1
with the messages and the memo asked for, the memo left out exactly when there is
none; what is read prints as the same bytes; and no other packet has them.
-/
theorem packet_encoding_loses_nothing (h : Returns (execute env info msg) s r s') :
    ∃ st ica p timeout, s.state = some st ∧ st.icaInfo = some ica ∧ msg.packet ica = .ok p ∧
      r.messages = [.sendPacket ica.channelId p.toBinary timeout] ∧ p.type = 1 ∧
      (∀ messages memo secs, msg = .sendCustomIcaMessages messages memo secs →
        p.data = messages ∧ p.memo = memo) ∧
      IcaPacketData.ofBinary p.toBinary = some p ∧
      (∃ members, jsonOfBinary p.toBinary = some (.obj members) ∧
        Json.member? "memo" members = p.memo.map Json.str) ∧
      (∀ q, IcaPacketData.ofBinary p.toBinary = some q → q.toBinary = p.toBinary) ∧
      ∀ q, q.toBinary = p.toBinary → q = p := by
  obtain ⟨st, ica, m, hacc, rfl, -⟩ := returns_execute.mp h
  obtain ⟨p, hp, hmsg⟩ := hacc.packet
  obtain ⟨timeout, rfl⟩ := toIbcMsg_channel hmsg
  refine ⟨st, ica, p, timeout, hacc.state, hacc.account, hp, rfl, type_of_packet hp, ?_,
    IcaPacketData.ofBinary_toBinary p, member_memo p, ?_, ?_⟩
  · rintro messages memo secs rfl
    cases hp
    exact ⟨rfl, rfl⟩
  · intro q hq
    rw [IcaPacketData.ofBinary_toBinary p, Option.some.injEq] at hq
    rw [hq]
  · intro q hsame
    exact IcaPacketData.ofBinary_toBinary.injective hsame

theorem packet_encoding_loses_nothing_sample :
    ∃ r s' data timeout, Returns (execute sampleEnv ⟨sampleState.admin⟩
        (.sendCustomIcaMessages [123, 125] (some "") (some 1))) sampleOpened r s' ∧
      r.messages = [.sendPacket sampleAccount.channelId data timeout] ∧
      IcaPacketData.ofBinary data = some ⟨1, [123, 125], some ""⟩ := by
  have hret := sample_sends [123, 125] (some "") (some 1) ⟨1000000000⟩ (by simp)
  obtain ⟨st, ica, p, timeout, hst, hica, hp, hsent, -, -, hread, -⟩ :=
    packet_encoding_loses_nothing hret
  cases hst
  cases hica
  cases hp
  exact ⟨_, _, _, timeout, hret, hsent, hread⟩

end IcaController
