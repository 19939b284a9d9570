/-
Why a call is turned down.

Every error names a check, and that check failed: of the checks in a row the first
that did.  Two lemmas a handler, one a direction, say so of the storage it was called
in.  In a run that storage is what the past tells, so an error also says something of
the past; and the errors that no past can lead to never come.
-/
import IcaController.Proofs.Memory
import IcaController.Proofs.Transactions

namespace IcaController

open Exec Item

variable {serde : SerdeJsonWasm} {allowed : Rule} {past : List ContractTurn} {s s' s₀ : Storage}
  {i : Invocation} {deps : Deps} {env : Env} {channel : IbcChannel} {m : IcaMetadata}
  {e : Fault} {ce : ContractError} {admin : Addr}

@[simp] theorem orErr_eq_error {α : Type} {r : Except ContractError α} :
    orErr r = .error e ↔ ∃ ce, r = .error ce ∧ e = .err ce := by
  cases r <;> simp [orErr, eq_comm]

@[simp] theorem ite_eq_error {α ε : Type} {c : Prop} [Decidable c] {a : α} {e e' : ε} :
    (if c then Except.ok a else .error e) = .error e' ↔ ¬ c ∧ e = e' := by
  by_cases h : c <;> simp [h]

/-! ### Metadata -/

/-- The first check of `validate` that the metadata fails. -/
inductive Invalid (m : IcaMetadata) (connectionId : String) : ContractError → Prop
  | version (h : m.version ≠ icaVersion) :
      Invalid m connectionId (.invalidVersion icaVersion m.version)
  | connection (hver : m.version = icaVersion) (h : m.controllerConnectionId ≠ connectionId) :
      Invalid m connectionId .invalidConnection
  | address (hver : m.version = icaVersion) (hconn : m.controllerConnectionId = connectionId)
      (hne : m.address ≠ "") (h : ¬ AddressOk m.address) : Invalid m connectionId .invalidAddress
  | txType (hver : m.version = icaVersion) (hconn : m.controllerConnectionId = connectionId)
      (haddr : m.address ≠ "" → AddressOk m.address) (h : m.txType ≠ "sdk_multi_msg") :
      Invalid m connectionId (.unsupportedTxType m.txType)

theorem validateIcaAddress_eq_error {address : String} :
    validateIcaAddress address = .error ce ↔ ce = .invalidAddress ∧ ¬ AddressOk address := by
  rw [← validateIcaAddress_eq_ok (u := ())]
  unfold validateIcaAddress
  split <;> simp [eq_comm]

theorem validate_eq_error : m.validate channel = .error ce ↔ Invalid m channel.connectionId ce := by
  constructor
  · intro h
    simp only [IcaMetadata.validate, bind, Except.bind, throw, throwThe, MonadExceptOf.throw, pure,
      Except.pure] at h
    by_cases hver : m.version = icaVersion
    · by_cases hconn : m.controllerConnectionId = channel.connectionId
      · -- an empty address is not checked
        by_cases hne : m.address = ""
        · obtain ⟨htx, rfl⟩ : m.txType ≠ "sdk_multi_msg" ∧
              ContractError.unsupportedTxType m.txType = ce := by
            simpa [hver, hconn, hne] using h
          exact .txType hver hconn (fun hnot => absurd hne hnot) htx
        · cases haddress : validateIcaAddress m.address with
          | error ce' =>
              obtain rfl : ce' = ce := by simpa [hver, hconn, hne, haddress] using h
              obtain ⟨rfl, hbad⟩ := validateIcaAddress_eq_error.mp haddress
              exact .address hver hconn hne hbad
          | ok u =>
              obtain ⟨htx, rfl⟩ : m.txType ≠ "sdk_multi_msg" ∧
                  ContractError.unsupportedTxType m.txType = ce := by
                simpa [hver, hconn, hne, haddress] using h
              exact .txType hver hconn (fun _ => validateIcaAddress_eq_ok.mp haddress) htx
      · obtain rfl : ContractError.invalidConnection = ce := by simpa [hver, hconn] using h
        exact .connection hver hconn
    · obtain rfl : ContractError.invalidVersion icaVersion m.version = ce := by
        simpa [hver] using h
      exact .version hver
  · intro h
    simp only [IcaMetadata.validate, bind, Except.bind, throw, throwThe, MonadExceptOf.throw, pure,
      Except.pure]
    cases h with
    | version h => simp [h]
    | connection hver h => simp [hver, h]
    | address hver hconn hne h =>
        have haddress := validateIcaAddress_eq_error.mpr ⟨rfl, h⟩
        simp [hver, hconn, hne, haddress]
    | txType hver hconn haddr h =>
        by_cases hne : m.address = ""
        · simp [hver, hconn, hne, h]
        · have haddress : validateIcaAddress m.address = .ok () :=
            validateIcaAddress_eq_ok.mpr (haddr hne)
          simp [hver, hconn, hne, haddress, h]

/-- The error of a text that is no metadata. -/
def unread : ContractError :=
  .unknownDataType "cannot unmarshal ICS-27 interchain accounts metadata"

theorem deserialize_eq_error {version : String} :
    IbcChannelOpen.deserialize serde version = .error ce ↔
      serde.fromStr version = none ∧ ce = unread := by
  unfold IbcChannelOpen.deserialize
  split
  · rename_i hdec
    simp [hdec]
  · rename_i hdec
    simp [hdec, unread, eq_comm]

/-! ### The handshake -/

theorem checkPrevious_eq_error {stored : Option ChannelState} :
    IbcChannelOpen.checkPrevious serde m stored = .error ce ↔ ∃ cs, stored = some cs ∧
      (cs.isOpen = true ∧ ce = .activeChannelAlreadySet ∨
        cs.isOpen = false ∧
          (¬ ∃ previous, serde.fromStr cs.channel.version = some previous ∧ SameTerms m previous) ∧
          ce = .invalidVersion cs.channel.version m.toString) := by
  simp only [← isPreviousVersionEqual_iff]
  cases stored with
  | none => simp [IbcChannelOpen.checkPrevious]
  | some cs =>
      cases hopen : cs.isOpen
      · cases hprev : m.isPreviousVersionEqual serde cs.channel.version
        · simp [IbcChannelOpen.checkPrevious, hopen, hprev, @eq_comm _ ce]
        · simp [IbcChannelOpen.checkPrevious, hopen, hprev]
      · simp [IbcChannelOpen.checkPrevious, hopen, @eq_comm _ ce]

/-- What `OpenInit` asks of a channel before it looks at the metadata. -/
structure OrderedToHost (channel : IbcChannel) : Prop where
  ordered : channel.order = .ordered
  hostPort : channel.counterpartyEndpoint.portId = hostPortId

/-- The first check of `OpenInit` that the channel fails. -/
inductive InitRejects (serde : SerdeJsonWasm) (deps : Deps) (s : Storage) (channel : IbcChannel) :
    ContractError → Prop
  | ordering (h : channel.order ≠ .ordered) :
      InitRejects serde deps s channel .invalidChannelOrdering
  | hostPort (hord : channel.order = .ordered)
      (h : channel.counterpartyEndpoint.portId ≠ hostPortId) :
      InitRejects serde deps s channel .invalidHostPort
  | unread (hports : OrderedToHost channel) (h : proposal serde deps s channel = none) :
      InitRejects serde deps s channel unread
  | invalid {m : IcaMetadata} {ce : ContractError} (hports : OrderedToHost channel)
      (hm : proposal serde deps s channel = some m) (h : Invalid m channel.connectionId ce) :
      InitRejects serde deps s channel ce
  | active {m : IcaMetadata} {cs : ChannelState} (hports : OrderedToHost channel)
      (hm : proposal serde deps s channel = some m) (hvalid : m.validate channel = .ok ())
      (hcs : s.channelState = some cs) (h : cs.isOpen = true) :
      InitRejects serde deps s channel .activeChannelAlreadySet
  | changed {m : IcaMetadata} {cs : ChannelState} (hports : OrderedToHost channel)
      (hm : proposal serde deps s channel = some m) (hvalid : m.validate channel = .ok ())
      (hcs : s.channelState = some cs) (hclosed : cs.isOpen = false)
      (h : ¬ ∃ previous, serde.fromStr cs.channel.version = some previous ∧ SameTerms m previous) :
      InitRejects serde deps s channel (.invalidVersion cs.channel.version m.toString)

/-- Without metadata `OpenInit` fails on reading it. -/
theorem fails_init_of_unread (hports : OrderedToHost channel)
    (hm : proposal serde deps s channel = none) :
    Fails (IbcChannelOpen.init serde deps channel) s e s' ↔ s = s' ∧ e = .err unread := by
  by_cases hver : channel.version.isEmpty = true
  · rw [proposal, if_pos hver] at hm
    cases hm
  · rw [proposal, if_neg hver] at hm
    have hdec : orErr (IbcChannelOpen.deserialize serde channel.version) =
        .error (.err unread) := by
      rw [deserialize_eq_error.mpr ⟨hm, rfl⟩, orErr]
    simp [IbcChannelOpen.init, hports.ordered, hports.hostPort, hver, hdec, and_comm, eq_comm]

/-- With metadata it fails on the checks of `validate`, then on the previous channel. -/
theorem fails_init_of_proposed (hports : OrderedToHost channel)
    (hm : proposal serde deps s channel = some m) :
    Fails (IbcChannelOpen.init serde deps channel) s e s' ↔ s = s' ∧ ∃ ce, e = .err ce ∧
      (m.validate channel = .error ce ∨ m.validate channel = .ok () ∧
        IbcChannelOpen.checkPrevious serde m s.channelState = .error ce) := by
  by_cases hver : channel.version.isEmpty = true
  · rw [proposal, if_pos hver, Option.some.injEq] at hm
    cases hvalid : m.validate channel <;>
      simp [IbcChannelOpen.init, hports.ordered, hports.hostPort, hver, hm, hvalid, and_comm]
  · rw [proposal, if_neg hver] at hm
    have hdec : orErr (IbcChannelOpen.deserialize serde channel.version) = .ok m := by simp [hm]
    cases hvalid : m.validate channel <;>
      simp [IbcChannelOpen.init, hports.ordered, hports.hostPort, hver, hdec, hvalid, and_comm]

theorem initRejects_of_fails (h : Fails (IbcChannelOpen.init serde deps channel) s e s') :
    ∃ ce, e = .err ce ∧ InitRejects serde deps s channel ce := by
  by_cases hord : channel.order = .ordered
  · by_cases hport : channel.counterpartyEndpoint.portId = hostPortId
    · have hports : OrderedToHost channel := ⟨hord, hport⟩
      cases hm : proposal serde deps s channel with
      | none =>
          obtain ⟨-, rfl⟩ := (fails_init_of_unread hports hm).mp h
          exact ⟨_, rfl, .unread hports hm⟩
      | some m =>
          obtain ⟨-, ce, rfl, hfails⟩ := (fails_init_of_proposed hports hm).mp h
          refine ⟨ce, rfl, ?_⟩
          rcases hfails with hinvalid | ⟨hvalid, hprevious⟩
          · exact .invalid hports hm (validate_eq_error.mp hinvalid)
          · obtain ⟨cs, hcs, ⟨hopen, rfl⟩ | ⟨hclosed, hchanged, rfl⟩⟩ :=
              checkPrevious_eq_error.mp hprevious
            · exact .active hports hm hvalid hcs hopen
            · exact .changed hports hm hvalid hcs hclosed hchanged
    · have hfails : Fault.err .invalidHostPort = e ∧ s = s' := by
        simpa [IbcChannelOpen.init, hord, hport] using h
      exact ⟨_, hfails.1.symm, .hostPort hord hport⟩
  · have hfails : Fault.err .invalidChannelOrdering = e ∧ s = s' := by
      simpa [IbcChannelOpen.init, hord] using h
    exact ⟨_, hfails.1.symm, .ordering hord⟩

theorem InitRejects.fails (h : InitRejects serde deps s channel ce) :
    Fails (IbcChannelOpen.init serde deps channel) s (.err ce) s := by
  cases h with
  | ordering h => simp [IbcChannelOpen.init, h]
  | hostPort hord h => simp [IbcChannelOpen.init, hord, h]
  | unread hports h => exact (fails_init_of_unread hports h).mpr ⟨rfl, rfl⟩
  | invalid hports hm h =>
      exact (fails_init_of_proposed hports hm).mpr ⟨rfl, _, rfl, Or.inl (validate_eq_error.mpr h)⟩
  | active hports hm hvalid hcs h =>
      exact (fails_init_of_proposed hports hm).mpr ⟨rfl, _, rfl,
        Or.inr ⟨hvalid, checkPrevious_eq_error.mpr ⟨_, hcs, Or.inl ⟨h, rfl⟩⟩⟩⟩
  | changed hports hm hvalid hcs hclosed h =>
      exact (fails_init_of_proposed hports hm).mpr ⟨rfl, _, rfl,
        Or.inr ⟨hvalid, checkPrevious_eq_error.mpr ⟨_, hcs, Or.inr ⟨hclosed, h, rfl⟩⟩⟩⟩

/-- The first check of `OpenAck` that the answer fails. -/
inductive AckRejects (serde : SerdeJsonWasm) (channel : IbcChannel) (cv : String) :
    ContractError → Prop
  | controllerPort (h : channel.endpoint.portId = hostPortId) :
      AckRejects serde channel cv .invalidControllerPort
  | unread (hport : channel.endpoint.portId ≠ hostPortId) (h : serde.fromStr cv = none) :
      AckRejects serde channel cv unread
  | invalid {m : IcaMetadata} {ce : ContractError} (hport : channel.endpoint.portId ≠ hostPortId)
      (hdec : serde.fromStr cv = some m) (h : Invalid m channel.connectionId ce) :
      AckRejects serde channel cv ce
  | unnamed {m : IcaMetadata} (hport : channel.endpoint.portId ≠ hostPortId)
      (hdec : serde.fromStr cv = some m) (hvalid : m.validate channel = .ok ())
      (h : m.address = "") : AckRejects serde channel cv .invalidAddress

theorem ackRejects_of_fails {cv : String} {st : ContractState} (hst : s.state = some st)
    (h : Fails (IbcChannelOpen.onAcknowledgement serde channel cv) s e s') :
    ∃ ce, e = .err ce ∧ AckRejects serde channel cv ce := by
  by_cases hport : channel.endpoint.portId = hostPortId
  · have hfails : Fault.err .invalidControllerPort = e ∧ s = s' := by
      simpa [IbcChannelOpen.onAcknowledgement, hport] using h
    exact ⟨_, hfails.1.symm, .controllerPort hport⟩
  · have hfails : (∃ ce, IbcChannelOpen.deserialize serde cv = .error ce ∧ e = .err ce) ∧ s = s' ∨
        ∃ m, serde.fromStr cv = some m ∧
          ((∃ ce, m.validate channel = .error ce ∧ e = .err ce) ∧ s = s' ∨
            (∃ u, m.validate channel = .ok u) ∧ m.address = "" ∧
              Fault.err .invalidAddress = e ∧ s = s') := by
      simpa [IbcChannelOpen.onAcknowledgement, hport, hst] using h
    rcases hfails with ⟨⟨ce, hdec, he⟩, -⟩ |
      ⟨m, hdec, ⟨⟨ce, hvalid, he⟩, -⟩ | ⟨⟨_, hvalid⟩, hempty, he, -⟩⟩
    · obtain ⟨hnone, rfl⟩ := deserialize_eq_error.mp hdec
      exact ⟨_, he, .unread hport hnone⟩
    · exact ⟨ce, he, .invalid hport hdec (validate_eq_error.mp hvalid)⟩
    · exact ⟨_, he.symm, .unnamed hport hdec hvalid hempty⟩

theorem AckRejects.fails {cv : String} (h : AckRejects serde channel cv ce) :
    Fails (IbcChannelOpen.onAcknowledgement serde channel cv) s (.err ce) s := by
  cases h with
  | controllerPort h => simp [IbcChannelOpen.onAcknowledgement, h]
  | unread hport h =>
      have hdec := deserialize_eq_error.mpr ⟨h, rfl⟩
      simp [IbcChannelOpen.onAcknowledgement, hport, hdec]
  | invalid hport hdec h =>
      simp [IbcChannelOpen.onAcknowledgement, hport, hdec, validate_eq_error.mpr h]
  | unnamed hport hdec hvalid h =>
      simp [IbcChannelOpen.onAcknowledgement, hport, hdec, hvalid, h]

/-- `CloseConfirm` fails without a stored channel, or on another one. -/
theorem fails_confirm : Fails (IbcChannelClose.confirm channel) s e s' ↔
    s = s' ∧ (s.channelState = none ∧ e = NotFound.notFound ChannelState.typeName ∨
      ∃ cs, s.channelState = some cs ∧ cs.channel ≠ channel ∧
        e = .err .invalidChannelInContractState) := by
  cases hcs : s.channelState with
  | none => simp [IbcChannelClose.confirm, hcs, and_comm, eq_comm]
  | some cs => simp [IbcChannelClose.confirm, hcs, and_left_comm, and_comm, eq_comm]

/-! ### Packets -/

/-- Only a full counter turns a callback that decodes down. -/
theorem inc_eq_error {c : CallbackCounter} {o : Outcome} :
    c.inc o = .error e ↔ (c.of o).toNat + 1 = UInt32.size ∧ e = .abort .overflow := by
  constructor
  · intro h
    refine ⟨?_, inc_error h⟩
    by_contra hne
    have hlt : (c.of o).toNat < UInt32.size := (c.of o).toNat_lt
    obtain ⟨c', hinc⟩ := exists_inc_iff.mpr (show (c.of o).toNat + 1 < UInt32.size by omega)
    rw [hinc] at h
    cases h
  · intro h
    obtain ⟨hfull, rfl⟩ := h
    exact inc_overflow hfull

theorem ack_of_fails {msg : IbcPacketAckMsg} {c : CallbackCounter} (hc : s.callbackCounter = some c)
    (h : Fails (ibcPacketAck serde msg) s e s') :
    (∃ se, serde.fromBinary msg.acknowledgement.data = .error se ∧ e = .err (.std se)) ∨
      ∃ ack, serde.fromBinary msg.acknowledgement.data = .ok ack ∧
        c.inc ack.outcome = .error e := by
  rcases fails_bind.mp h with hread | ⟨ack, s₁, hread, hcount⟩
  · obtain ⟨hdec, -⟩ := fails_liftExcept.mp hread
    cases hbytes : serde.fromBinary msg.acknowledgement.data with
    | error se =>
        rw [hbytes, orStdErr] at hdec
        cases hdec
        exact Or.inl ⟨se, rfl, rfl⟩
    | ok ack =>
        rw [hbytes, orStdErr] at hdec
        cases hdec
  · obtain ⟨hdec, rfl⟩ := returns_liftExcept.mp hread
    have hinc : c.inc ack.outcome = .error e := by
      cases ack with
      | result res =>
          have hfails : c.incSuccess = .error e ∧ s = s' := by
            simpa [IbcPacketAck.success, hc] using hcount
          exact hfails.1
      | error err =>
          have hfails : c.incError = .error e ∧ s = s' := by
            simpa [IbcPacketAck.error, hc] using hcount
          exact hfails.1
    exact Or.inr ⟨ack, orStdErr_eq_ok.mp hdec, hinc⟩

/-- A timeout counts first and looks for its channel second. -/
theorem fails_timeout {msg : IbcPacketTimeoutMsg} {c : CallbackCounter}
    (hc : s.callbackCounter = some c) :
    Fails (ibcPacketTimeout msg) s e s' ↔ c.inc .timeout = .error e ∧ s = s' ∨
      ∃ c', c.inc .timeout = .ok c' ∧ s.channelState = none ∧
        e = NotFound.notFound ChannelState.typeName ∧
        { s with callbackCounter := some c' } = s' := by
  have hinc : c.inc .timeout = c.incTimeout := rfl
  rw [ibcPacketTimeout, fails_bind, fails_updateCounter hc, hinc]
  refine or_congr_right ?_
  constructor
  · intro h
    obtain ⟨c', s₁, hcount, hclose⟩ := h
    obtain ⟨hok, rfl⟩ := (returns_updateCounter hc).mp hcount
    obtain ⟨⟨hnone, he⟩, hs⟩ : (s.channelState = none ∧
        NotFound.notFound ChannelState.typeName = e) ∧
        { s with callbackCounter := some c' } = s' := by
      simpa using hclose
    exact ⟨c', hok, hnone, he.symm, hs⟩
  · intro h
    obtain ⟨c', hok, hnone, rfl, hs⟩ := h
    refine ⟨c', _, (returns_updateCounter hc).mpr ⟨hok, rfl⟩, ?_⟩
    simp [hnone, ← hs]

/-! ### Users -/

/-- A deadline past the range of the clock is the only one that cannot be asked for. -/
theorem toIbcMsg_eq_error {p : IcaPacketData} {id : String} {secs : Option UInt64} :
    p.toIbcMsg env id secs = .error e ↔ UInt64.size ≤ env.block.time.nanos.toNat +
        (secs.getD defaultTimeoutSeconds).toNat * 1000000000 ∧ e = .abort .overflow := by
  constructor
  · intro h
    refine ⟨?_, toIbcMsg_error h⟩
    by_contra hlt
    have hexact := UInt64.toNat_ofNat_of_lt' (Nat.lt_of_not_le hlt)
    rw [toIbcMsg_eq_ok.mpr ⟨⟨_⟩, hexact, rfl⟩] at h
    cases h
  · rintro ⟨hlate, rfl⟩
    cases hsend : p.toIbcMsg env id secs with
    | error e => rw [toIbcMsg_error hsend]
    | ok sent =>
        obtain ⟨deadline, hexact, -⟩ := toIbcMsg_eq_ok.mp hsend
        have hlt : deadline.nanos.toNat < UInt64.size := deadline.nanos.toNat_lt
        omega

/-- The message is a bank send in JSON, of an amount that is no number. -/
def UnparsedAmount (encoding : TxEncoding) (msg : ExecuteMsg) (amount : String) : Prop :=
  (∃ denom toAddress, msg = .icaBankSend amount denom toAddress) ∧ encoding = .proto3Json ∧
    ¬ ∃ n, DenotesU128 amount n

/-- A packet that cannot be built is that of such a message. -/
theorem packet_eq_error {ica : IcaInfo} {msg : ExecuteMsg} : msg.packet ica = .error ce ↔
    ∃ amount, UnparsedAmount ica.encoding msg amount ∧ ce = .unknownDataType amount := by
  constructor
  · intro h
    cases msg with
    | sendCustomIcaMessages messages packetMemo timeoutSeconds => cases h
    | icaBankSend amount denom toAddress =>
        simp only [ExecuteMsg.packet, Execute.bankSendPacket] at h
        split at h
        · cases h
        · rename_i hencoding
          split at h
          · rename_i hparse
            cases h
            refine ⟨amount, ⟨⟨_, _, rfl⟩, hencoding, ?_⟩, rfl⟩
            intro hdenotes
            obtain ⟨n, hn⟩ := hdenotes
            rw [parseU128_eq_some.mpr hn] at hparse
            cases hparse
          · cases h
  · rintro ⟨amount, ⟨⟨denom, toAddress, rfl⟩, hencoding, hno⟩, rfl⟩
    have hparse : Execute.parseU128 amount = none := by
      rw [Option.eq_none_iff_forall_ne_some]
      intro n hn
      exact hno ⟨n, parseU128_eq_some.mp hn⟩
    simp only [ExecuteMsg.packet, Execute.bankSendPacket, hencoding, hparse]

/-- A request fails while its packet is built, or over its deadline. -/
theorem request_eq_error {ica : IcaInfo} {msg : ExecuteMsg} : msg.request env ica = .error e ↔
    (∃ amount, UnparsedAmount ica.encoding msg amount ∧ e = .err (.unknownDataType amount)) ∨
      (∀ amount, ¬ UnparsedAmount ica.encoding msg amount) ∧
        UInt64.size ≤ env.block.time.nanos.toNat +
          (msg.timeoutSeconds.getD defaultTimeoutSeconds).toNat * 1000000000 ∧
        e = .abort .overflow := by
  cases hp : msg.packet ica with
  | error ce =>
      obtain ⟨amount, hamount, rfl⟩ := packet_eq_error.mp hp
      have hsame {amount'} (h : UnparsedAmount ica.encoding msg amount') : amount' = amount := by
        obtain ⟨⟨_, _, rfl⟩, -⟩ := hamount
        obtain ⟨⟨_, _, hmsg⟩, -⟩ := h
        cases hmsg
        rfl
      rw [request_of_error hp, Except.error.injEq]
      constructor
      · rintro rfl
        exact Or.inl ⟨amount, hamount, rfl⟩
      · rintro (⟨amount', hamount', rfl⟩ | ⟨hnone, -⟩)
        · rw [hsame hamount']
        · exact absurd hamount (hnone amount)
  | ok p =>
      have hbuilt amount : ¬ UnparsedAmount ica.encoding msg amount := by
        intro hamount
        rw [packet_eq_error.mpr ⟨amount, hamount, rfl⟩] at hp
        cases hp
      rw [request_of_packet hp, toIbcMsg_eq_error]
      simp [hbuilt]

/-! ### All entry points at once

The counterpart of `Effect`: one relation for the calls that are turned down, each with its
error.  Between the two every call finds its answer.
-/

/-- The entry points that look for the stored channel. -/
def EntryPoint.needsChannel : EntryPoint → Bool
  | .query .getChannel => true
  | .ibcChannelClose (.closeConfirm _) => true
  | .ibcPacketTimeout _ => true
  | _ => false

/--
Why a call is turned down by the contract of the admin, with that past: one rule a
check, with what the past or the call has to say for it, and that the checks before
passed.
-/
inductive Rejects (serde : SerdeJsonWasm) (admin : Addr) (past : List ContractTurn) (deps : Deps)
    (env : Env) : EntryPoint → Fault → Prop
  | stranger {info : MessageInfo} {msg : ExecuteMsg} (h : info.sender ≠ admin) :
      Rejects serde admin past deps env (.execute info msg) (.err .unauthorized)
  | noAccount {msg : ExecuteMsg} (h : linked serde past = none) :
      Rejects serde admin past deps env (.execute ⟨admin⟩ msg) (.err .icaInfoNotSet)
  | amount {link : IbcChannel × IcaMetadata} {msg : ExecuteMsg} {amount : String}
      (hlink : linked serde past = some link) (h : UnparsedAmount link.2.encoding msg amount) :
      Rejects serde admin past deps env (.execute ⟨admin⟩ msg) (.err (.unknownDataType amount))
  | deadline {link : IbcChannel × IcaMetadata} {msg : ExecuteMsg}
      (hlink : linked serde past = some link)
      (hbuilt : ∀ amount, ¬ UnparsedAmount link.2.encoding msg amount)
      (h : UInt64.size ≤ env.block.time.nanos.toNat +
        (msg.timeoutSeconds.getD defaultTimeoutSeconds).toNat * 1000000000) :
      Rejects serde admin past deps env (.execute ⟨admin⟩ msg) (.abort .overflow)
  | openInit {channel : IbcChannel} {ce : ContractError}
      (h : InitRejects serde deps (recalled serde admin past) channel ce) :
      Rejects serde admin past deps env (.ibcChannelOpen (.openInit channel)) (.err ce)
  | openTry {channel : IbcChannel} {cv : String} :
      Rejects serde admin past deps env (.ibcChannelOpen (.openTry channel cv))
        (.abort .unreachable)
  | openAck {channel : IbcChannel} {cv : String} {ce : ContractError}
      (h : AckRejects serde channel cv ce) :
      Rejects serde admin past deps env (.ibcChannelConnect (.openAck channel cv)) (.err ce)
  | openConfirm {channel : IbcChannel} :
      Rejects serde admin past deps env (.ibcChannelConnect (.openConfirm channel))
        (.abort .unreachable)
  | closeInit {channel : IbcChannel} :
      Rejects serde admin past deps env (.ibcChannelClose (.closeInit channel))
        (.abort .unimplemented)
  | otherChannel {link : IbcChannel × IcaMetadata} {channel : IbcChannel}
      (hlink : linked serde past = some link) (h : link.1 ≠ channel) :
      Rejects serde admin past deps env (.ibcChannelClose (.closeConfirm channel))
        (.err .invalidChannelInContractState)
  | noChannel {entry : EntryPoint} (hneeds : entry.needsChannel = true)
      (hroom : ∀ o, entry.outcome? serde = some o →
        (outcomes serde past).count o + 1 < UInt32.size)
      (h : linked serde past = none) :
      Rejects serde admin past deps env entry (NotFound.notFound ChannelState.typeName)
  | undecodable {msg : IbcPacketAckMsg} {se : StdError}
      (h : serde.fromBinary msg.acknowledgement.data = .error se) :
      Rejects serde admin past deps env (.ibcPacketAck msg) (.err (.std se))
  | full {entry : EntryPoint} {o : Outcome} (ho : entry.outcome? serde = some o)
      (h : (outcomes serde past).count o + 1 = UInt32.size) :
      Rejects serde admin past deps env entry (.abort .overflow)
  | receive {msg : IbcPacketReceiveMsg} :
      Rejects serde admin past deps env (.ibcPacketReceive msg) (.abort .unreachable)

theorem rejects_of_executeAnswer {info : MessageInfo} {msg : ExecuteMsg}
    (h : executeAnswer serde admin past env info msg = .error e) :
    Rejects serde admin past deps env (.execute info msg) e := by
  unfold executeAnswer at h
  split at h
  · rename_i hsender
    obtain ⟨sender⟩ := info
    obtain rfl : sender = admin := hsender
    split at h
    · rename_i link hlink
      cases hreq : msg.request env (accountOf link) with
      | ok sent =>
          rw [hreq] at h
          cases h
      | error e' =>
          rw [hreq] at h
          cases h
          rcases request_eq_error.mp hreq with ⟨amount, hamount, rfl⟩ | ⟨hbuilt, hlate, rfl⟩
          · exact .amount hlink hamount
          · exact .deadline hlink hbuilt hlate
    · rename_i hlink
      cases h
      exact .noAccount hlink
  · rename_i hsender
    cases h
    exact .stranger hsender

/-- A call that fails in storage as the past tells it fails for a reason. -/
theorem rejects_of_fails {entry : EntryPoint} {c : CallbackCounter}
    (hc : (recalled serde admin past).callbackCounter = some c)
    (htally : Tallies (outcomes serde past) c)
    (h : Fails (serve serde ⟨deps, env, entry⟩) (recalled serde admin past) e s') :
    Rejects serde admin past deps env entry e := by
  have hst : (recalled serde admin past).state =
      some ⟨admin, (linked serde past).map accountOf⟩ := rfl
  have hcs : (recalled serde admin past).channelState = (linked serde past).map fun link =>
      ⟨link.1, if up past then .open else .closed⟩ := rfl
  have hunlinked (hnone : (recalled serde admin past).channelState = none) :
      linked serde past = none := by
    rw [hcs, Option.map_eq_none_iff] at hnone
    exact hnone
  have hfull {o} (ho : entry.outcome? serde = some o) (hinc : c.inc o = .error e) :
      Rejects serde admin past deps env entry e := by
    obtain ⟨hmax, rfl⟩ := inc_eq_error.mp hinc
    exact .full ho (htally o ▸ hmax)
  cases entry with
  | execute info msg =>
      have hanswer := answer_execute deps env info msg hst
      rw [contract, Machine.turn_of_fails h] at hanswer
      exact rejects_of_executeAnswer hanswer.symm
  | query msg =>
      have hquery := fails_map.mp h
      cases msg with
      | getChannel =>
          obtain ⟨⟨hnone, hname⟩, -⟩ : ((recalled serde admin past).channelState = none ∧
              NotFound.notFound ChannelState.typeName = e) ∧ recalled serde admin past = s' := by
            simpa [query] using hquery
          rw [← hname]
          exact .noChannel rfl (fun _ ho => by cases ho) (hunlinked hnone)
      | getContractState => simp [query, hst] at hquery
      | getCallbackCounter => simp [query, hc] at hquery
  | ibcChannelOpen msg =>
      have hopen := fails_map.mp h
      cases msg with
      | openInit channel =>
          obtain ⟨ce, rfl, hrejects⟩ := initRejects_of_fails hopen
          exact .openInit hrejects
      | openTry channel cv =>
          obtain ⟨rfl, -⟩ := fails_throw.mp hopen
          exact .openTry
  | ibcChannelConnect msg =>
      have hconnect := fails_map.mp h
      cases msg with
      | openAck channel cv =>
          obtain ⟨ce, rfl, hrejects⟩ := ackRejects_of_fails hst hconnect
          exact .openAck hrejects
      | openConfirm channel =>
          obtain ⟨rfl, -⟩ := fails_throw.mp hconnect
          exact .openConfirm
  | ibcChannelClose msg =>
      have hclose := fails_map.mp h
      cases msg with
      | closeInit channel =>
          obtain ⟨rfl, -⟩ := fails_throw.mp hclose
          exact .closeInit
      | closeConfirm channel =>
          obtain ⟨-, ⟨hnone, rfl⟩ | ⟨cs, hstored, hne, rfl⟩⟩ := fails_confirm.mp hclose
          · exact .noChannel rfl (fun _ ho => by cases ho) (hunlinked hnone)
          · rw [hcs, Option.map_eq_some_iff] at hstored
            obtain ⟨link, hlink, rfl⟩ := hstored
            exact .otherChannel hlink hne
  | ibcPacketAck msg =>
      rcases ack_of_fails hc (fails_map.mp h) with ⟨se, hdec, rfl⟩ | ⟨ack, hdec, hinc⟩
      · exact .undecodable hdec
      · exact hfull (by simp only [EntryPoint.outcome?, hdec]) hinc
  | ibcPacketTimeout msg =>
      rcases (fails_timeout hc).mp (fails_map.mp h) with ⟨hinc, -⟩ | ⟨c', hinc, hnone, rfl, -⟩
      · exact hfull rfl hinc
      · have hroom := exists_inc_iff.mp ⟨c', hinc⟩
        rw [htally] at hroom
        refine .noChannel rfl ?_ (hunlinked hnone)
        intro o ho
        cases ho
        exact hroom
  | ibcPacketReceive msg =>
      obtain ⟨rfl, -⟩ := fails_throw.mp (fails_map.mp h)
      exact .receive

/-- What there is a reason against fails, with that reason's error. -/
theorem Rejects.fails {entry : EntryPoint} {c : CallbackCounter}
    (hc : (recalled serde admin past).callbackCounter = some c)
    (htally : Tallies (outcomes serde past) c) (h : Rejects serde admin past deps env entry e) :
    ∃ s', Fails (serve serde ⟨deps, env, entry⟩) (recalled serde admin past) e s' := by
  have hunlinked (hnone : linked serde past = none) :
      (recalled serde admin past).channelState = none := Option.map_eq_none_iff.mpr hnone
  have haccount {link} (hlink : linked serde past = some link) :
      (recalled serde admin past).state = some ⟨admin, some (accountOf link)⟩ := by
    simp only [recalled, hlink, Option.map_some]
  cases h with
  | stranger h => exact ⟨_, fails_map.mpr (fails_of_stranger rfl h)⟩
  | noAccount h =>
      have hst : (recalled serde admin past).state = some ⟨admin, none⟩ := by
        simp only [recalled, h, Option.map_none]
      exact ⟨_, fails_map.mpr (fails_of_no_account hst)⟩
  | @amount link msg amount hlink h =>
      have hreq : msg.request env (accountOf link) = .error (.err (.unknownDataType amount)) :=
        request_eq_error.mpr (Or.inl ⟨amount, h, rfl⟩)
      exact ⟨_, fails_map.mpr ((fails_admin env msg (haccount hlink) rfl).mpr ⟨hreq, rfl⟩)⟩
  | @deadline link msg hlink hbuilt h =>
      have hreq : msg.request env (accountOf link) = .error (.abort .overflow) :=
        request_eq_error.mpr (Or.inr ⟨hbuilt, h, rfl⟩)
      exact ⟨_, fails_map.mpr ((fails_admin env msg (haccount hlink) rfl).mpr ⟨hreq, rfl⟩)⟩
  | openInit h => exact ⟨_, fails_map.mpr h.fails⟩
  | openTry => exact ⟨_, fails_map.mpr (fails_throw.mpr ⟨rfl, rfl⟩)⟩
  | openAck h => exact ⟨_, fails_map.mpr h.fails⟩
  | openConfirm => exact ⟨_, fails_map.mpr (fails_throw.mpr ⟨rfl, rfl⟩)⟩
  | closeInit => exact ⟨_, fails_map.mpr (fails_throw.mpr ⟨rfl, rfl⟩)⟩
  | @otherChannel link _ hlink h =>
      have hcs : (recalled serde admin past).channelState =
          some ⟨link.1, if up past then .open else .closed⟩ :=
        recalled_channelState.mpr ⟨link, hlink, rfl⟩
      exact ⟨_, fails_map.mpr (fails_confirm.mpr ⟨rfl, Or.inr ⟨_, hcs, h, rfl⟩⟩)⟩
  | noChannel hneeds hroom h =>
      have hnone := hunlinked h
      unfold EntryPoint.needsChannel at hneeds
      split at hneeds
      · have hload : Fails (query .getChannel) (recalled serde admin past)
            (NotFound.notFound ChannelState.typeName) (recalled serde admin past) := by
          simp [query, hnone]
        exact ⟨_, fails_map.mpr hload⟩
      · exact ⟨_, fails_map.mpr (fails_confirm.mpr ⟨rfl, Or.inl ⟨hnone, rfl⟩⟩)⟩
      · obtain ⟨c', hinc⟩ := exists_inc_iff.mpr (htally .timeout ▸ hroom .timeout rfl)
        exact ⟨_, fails_map.mpr ((fails_timeout hc).mpr (Or.inr ⟨c', hinc, hnone, rfl, rfl⟩))⟩
      · cases hneeds
  | undecodable h => exact ⟨_, fails_of_undecodable rfl h⟩
  | full ho h => exact ⟨_, fails_of_inc ho hc (inc_overflow (htally _ ▸ h))⟩
  | receive => exact ⟨_, fails_map.mpr (fails_throw.mpr ⟨rfl, rfl⟩)⟩

/--
**A call is turned down with the first check it fails**, in every run of an
instantiated contract: it answers with an error exactly if the past and the call
fail the check of that error, and none of the checks before it.
-/
theorem rejections_explained {info : MessageInfo} {msg : InstantiateMsg}
    (hinst : Instantiates deps info msg s₀) (hrun : (contract serde).Runs allowed s₀ past s) :
    ∃ admin, msg.adminFor deps info = .ok admin ∧
      ∀ i e, ((contract serde).turn s i).answer = .error e ↔
        Rejects serde admin past i.deps i.env i.entry e := by
  have h : ContractRuns serde allowed past s := ⟨deps, info, msg, s₀, hinst, hrun⟩
  obtain ⟨admin, hadmin, hkept⟩ := exists_adminIs hinst hrun
  obtain ⟨c, hc, htally⟩ := h.tallies
  obtain rfl := h.eq_recalled hkept
  refine ⟨admin, hadmin, ?_⟩
  intro i e
  constructor
  · intro hanswer
    obtain ⟨⟨s', hfails⟩, -⟩ := Machine.fails_of_turn hanswer
    exact rejects_of_fails hc htally hfails
  · intro hrejects
    obtain ⟨s', hfails⟩ := hrejects.fails hc htally
    rw [contract, Machine.turn_of_fails hfails]

/-- Another channel is offered while the sample channel is open. -/
theorem rejections_explained_sample :
    ((contract jsonReader).turn sampleOpened ⟨sampleDeps, sampleEnv,
      .ibcChannelOpen (.openInit (sampleChannel "channel-1" sampleMetadata))⟩).answer =
        .error (.err .activeChannelAlreadySet) := by
  obtain ⟨_, _, _, _, hinst, hrun⟩ := sampleOpened_runs
  obtain ⟨admin, -, hrejected⟩ := rejections_explained hinst hrun
  have hoffered : proposal jsonReader sampleDeps (recalled jsonReader admin samplePast)
      (sampleChannel "channel-1" sampleMetadata) = some sampleMetadata := by
    rw [proposal, sampleChannel_version, toString_isEmpty, if_neg Bool.false_ne_true]
    exact jsonReader_invertsToString sampleMetadata
  have hstored : (recalled jsonReader admin samplePast).channelState =
      some ⟨sampleChannel "channel-0" sampleMetadata, .open⟩ := by
    rw [recalled, linked_samplePast]
    rfl
  exact (hrejected _ _).mpr (.openInit (.active ⟨rfl, rfl⟩ hoffered
    (validate_eq_ok.mpr sampleMetadata_valid) hstored rfl))

end IcaController
