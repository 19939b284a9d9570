/-
What a run puts on the wire.

A packet of a run is the admin's, goes out on the channel of the latest accepted
`OpenAck`, and its bytes say what the admin asked for: the bytes and the memo of a
custom message, or one bank send from the account that `OpenAck` named, in the
encoding it named.  Nothing of an older account is left in a packet.
-/
import IcaController.Proofs.Memory
import IcaController.Proofs.Transactions

namespace IcaController

open Exec

variable {serde : SerdeJsonWasm} {allowed : Rule} {past older : List ContractTurn}
  {s : Storage} {t : ContractTurn} {m : IbcMsg}

/-! ### Transactions of any messages -/

/--
**A protobuf transaction reads back through all its layers**: the packet from its
bytes, and the messages from the packet, however many, of whatever type and content;
so the bytes sent for two lists and memos are equal only if both are.
-/
theorem proto_transactions_decode (messages : List ProtoAny) (memo : Option String) :
    ∃ p, IcaPacketData.ofBinary (IcaPacketData.fromProtoAnys messages memo).toBinary = some p ∧
      p.type = 1 ∧ p.memo = memo ∧ CosmosTx.decode p.data = some ⟨messages⟩ ∧
      ∀ messages' memo', (IcaPacketData.fromProtoAnys messages' memo').toBinary =
          (IcaPacketData.fromProtoAnys messages memo).toBinary →
        messages' = messages ∧ memo' = memo := by
  have hread := CosmosTx.decode_encodeToVec ⟨messages⟩
  refine ⟨_, IcaPacketData.ofBinary_toBinary _, rfl, rfl, hread, ?_⟩
  intro messages' memo' hbytes
  have hpacket := IcaPacketData.ofBinary_toBinary.injective hbytes
  obtain ⟨-, hdata, hmemo⟩ := IcaPacketData.mk.inj hpacket
  have hread' := CosmosTx.decode_encodeToVec ⟨messages'⟩
  rw [show (CosmosTx.mk messages').encodeToVec = (CosmosTx.mk messages).encodeToVec from hdata,
    hread, Option.some.injEq, CosmosTx.mk.injEq] at hread'
  exact ⟨hread'.symm, hmemo⟩

/-! ### The packets of a run -/

/-- What a packet says of the message that asked for it, sent from the account of a link. -/
def Says (link : IbcChannel × IcaMetadata) (p : IcaPacketData) : ExecuteMsg → Prop
  | .sendCustomIcaMessages messages packetMemo _ => p.data = messages ∧ p.memo = packetMemo
  | .icaBankSend amount denom toAddress =>
      p.memo = none ∧ ∃ text,
        readSends link.2.encoding p.data =
          some [⟨link.2.address, toAddress, [⟨denom, text⟩]⟩] ∧
        Carries link.2.encoding amount text

theorem says_of_packet {link : IbcChannel × IcaMetadata} {msg : ExecuteMsg} {p : IcaPacketData}
    (h : msg.packet (accountOf link) = .ok p) : Says link p msg := by
  cases msg with
  | sendCustomIcaMessages messages packetMemo timeoutSeconds =>
      cases h
      exact ⟨rfl, rfl⟩
  | icaBankSend amount denom toAddress =>
      obtain ⟨-, hmemo, htext⟩ := reads_of_bankSendPacket h
      exact ⟨hmemo, htext⟩

/-- The account in storage is the one of the link. -/
theorem ContractRuns.account_eq {st : ContractState} {ica : IcaInfo}
    (h : ContractRuns serde allowed past s) (hst : s.state = some st)
    (hica : st.icaInfo = some ica) :
    ∃ link, linked serde past = some link ∧ ica = accountOf link := by
  rw [(h.records_eq hst).1, Option.map_eq_some_iff] at hica
  obtain ⟨link, hlink, rfl⟩ := hica
  exact ⟨link, hlink, rfl⟩

/--
**Every packet of a run says what the admin asked for, of the current account**: it is
sent by an `execute` of the admin fixed at instantiation, on the channel of the latest
`OpenAck` accepted before, with the deadline asked for; its bytes read back as one
packet, and that says what the message did, spending from the account and in the
encoding that this `OpenAck` named.
-/
theorem packets_spend_current_account {deps : Deps} {info : MessageInfo} {msg : InstantiateMsg}
    {s₀ : Storage} (hinst : Instantiates deps info msg s₀)
    (hrun : (contract serde).Runs allowed s₀ past s) :
    ∃ admin, msg.adminFor deps info = .ok admin ∧
      ∀ t older m, (t :: older) <:+ past → m ∈ t.sent →
        ∃ asked link p deadline, t.call.entry = .execute ⟨admin⟩ asked ∧
          linked serde older = some link ∧
          m = .sendPacket link.1.endpoint.channelId p.toBinary
            (IbcTimeout.withTimestamp deadline) ∧
          deadline.nanos.toNat = t.call.env.block.time.nanos.toNat +
            (asked.timeoutSeconds.getD defaultTimeoutSeconds).toNat * 1000000000 ∧
          IcaPacketData.ofBinary p.toBinary = some p ∧ p.type = 1 ∧ Says link p asked := by
  obtain ⟨admin, hadmin, -⟩ := exists_adminIs hinst hrun
  refine ⟨admin, hadmin, ?_⟩
  intro t older m hsuffix hm
  obtain ⟨hbefore, -, heq⟩ := hrun.of_suffix hsuffix
  have holder : ContractRuns serde allowed older t.before := ⟨deps, info, msg, s₀, hinst, hbefore⟩
  rw [heq] at hm
  obtain ⟨⟨sender⟩, asked, st, ica, hentry, hacc⟩ := sent_of_turn hm
  obtain ⟨p, hp, hmsg⟩ := hacc.packet
  obtain ⟨deadline, hexact, rfl⟩ := toIbcMsg_eq_ok.mp hmsg
  obtain ⟨link, hlink, rfl⟩ := holder.account_eq hacc.state hacc.account
  -- the admin of the record is the one of the instantiation
  obtain ⟨admin', hadmin', st', hst', hname⟩ := exists_adminIs hinst hbefore
  rw [hadmin, Except.ok.injEq] at hadmin'
  rw [hacc.state, Option.some.injEq] at hst'
  subst hadmin' hst'
  obtain rfl : admin = sender := hname.symm.trans hacc.admin
  exact ⟨asked, link, p, deadline, hentry, hlink, rfl, hexact, IcaPacketData.ofBinary_toBinary p,
    type_of_packet hp, says_of_packet hp⟩

theorem packets_spend_current_account_sample :
    ∃ link p deadline, linked jsonReader samplePast = some link ∧
      samplePacket.message = .sendPacket link.1.endpoint.channelId p.toBinary
        (IbcTimeout.withTimestamp deadline) ∧
      IcaPacketData.ofBinary p.toBinary = some p := by
  obtain ⟨_, _, _, _, hinst, hrun⟩ := sampleOpened_runs.send sampleDeps sampleEnv rfl rfl
    sampleMsg_request
  obtain ⟨admin, -, hpackets⟩ := packets_spend_current_account hinst hrun
  obtain ⟨asked, link, p, deadline, -, hlink, hm, -, hread, -⟩ :=
    hpackets _ _ _ List.suffix_rfl List.mem_cons_self
  exact ⟨link, p, deadline, hlink, hm, hread⟩

end IcaController
