/-
What the data of a packet says.

A list of messages printed one after the other reads back as that list, and a bank
send reads back as the one message it asks for, whatever its strings are, in both
encodings.  Whether it is accepted does depend on the encoding: only the JSON branch
looks at the amount.
-/
import IcaController.Proofs.Packets

namespace IcaController

open Exec

variable {env : Env} {info : MessageInfo} {s s' : Storage} {st : ContractState} {ica : IcaInfo}
  {p : IcaPacketData} {r : Response} {amount denom toAddress : String}

/-! ### Transactions of messages -/

theorem toJson_injective : Function.Injective ExampleCosmosMessages.toJson :=
  Reads.injective ExampleCosmosMessages.ofJson_toJson

/--
**A transaction reads back as its messages**: the data is one JSON object whose only
member is an array as long as the list, each item reads as the message in its place,
and no other list has the same data.
-/
theorem json_transactions_decode (msgs : List ExampleCosmosMessages) (memo : Option String) :
    ∃ p items,
      IcaPacketData.fromJsonStrings (msgs.map ExampleCosmosMessages.toString) memo = .ok p ∧
      p.type = 1 ∧ p.memo = memo ∧
      jsonOfBinary p.data = some (.obj [("messages", .arr items)]) ∧
      items.length = msgs.length ∧
      (∀ i : Nat, (items[i]?).bind ExampleCosmosMessages.ofJson = msgs[i]?) ∧
      ∀ msgs' memo' p',
        IcaPacketData.fromJsonStrings (msgs'.map ExampleCosmosMessages.toString) memo' = .ok p' →
        p'.data = p.data → msgs' = msgs := by
  have hbuilt : IcaPacketData.fromJsonStrings (msgs.map ExampleCosmosMessages.toString) memo =
      .ok _ := rfl
  have hread := jsonOfBinary_fromJsonStrings msgs hbuilt
  refine ⟨_, _, hbuilt, rfl, rfl, hread, List.length_map _, ?_, ?_⟩
  · intro i
    rw [List.getElem?_map]
    cases msgs[i]? with
    | none => rfl
    | some m => exact ExampleCosmosMessages.ofJson_toJson m
  · intro msgs' memo' p' hbuilt' hdata
    have hread' := jsonOfBinary_fromJsonStrings msgs' hbuilt'
    rw [hdata, hread] at hread'
    simp only [Option.some.injEq, Json.obj.injEq, List.cons.injEq, Prod.mk.injEq, Json.arr.injEq,
      and_true, true_and] at hread'
    exact (toJson_injective.list_map hread').symm

/-! ### Amounts -/

/-- The text spells the integer `n` of the `u128` range: decimal digits, a plus sign allowed. -/
def DenotesU128 (text : String) (n : Nat) : Prop :=
  ∃ digits, (text.toList = digits ∨ text.toList = '+' :: digits) ∧
    Decimal.read digits = some n ∧ n < Nat.pow 2 128

/-- The digits of a text: what follows a leading plus sign. -/
def unsigned : List Char → List Char
  | '+' :: rest => rest
  | cs => cs

theorem parseU128_eq (text : String) : Execute.parseU128 text =
    (Decimal.read (unsigned text.toList)).filter (· < Nat.pow 2 128) := by
  have hbound : UInt64.size * UInt64.size = Nat.pow 2 128 := by decide
  have hparse : Execute.parseU128 text =
      if unsigned text.toList = [] || !(unsigned text.toList).all Char.isDigit then none
      else if Nat.ofDigitChars 10 (unsigned text.toList) 0 < UInt64.size * UInt64.size then
        some (Nat.ofDigitChars 10 (unsigned text.toList) 0)
      else none := rfl
  rw [hparse, hbound, Decimal.read]
  split
  · rfl
  · simp only [Option.filter, decide_eq_true_eq]

theorem read_unsigned {cs : List Char} {n : Nat} : Decimal.read (unsigned cs) = some n ↔
    ∃ digits, (cs = digits ∨ cs = '+' :: digits) ∧ Decimal.read digits = some n := by
  constructor
  · intro h
    unfold unsigned at h
    split at h
    · exact ⟨_, Or.inr rfl, h⟩
    · exact ⟨_, Or.inl rfl, h⟩
  · intro h
    obtain ⟨digits, rfl | rfl, hread⟩ := h
    · unfold unsigned
      split
      · cases hread
      · exact hread
    · exact hread

/-- **The parser takes exactly the decimal texts of the range.** -/
theorem parseU128_eq_some {text : String} {n : Nat} :
    Execute.parseU128 text = some n ↔ DenotesU128 text n := by
  rw [parseU128_eq, Option.filter_eq_some_iff, read_unsigned, DenotesU128, decide_eq_true_eq]
  constructor
  · intro h
    obtain ⟨⟨digits, htext, hread⟩, hlt⟩ := h
    exact ⟨digits, htext, hread, hlt⟩
  · intro h
    obtain ⟨digits, htext, hread, hlt⟩ := h
    exact ⟨⟨digits, htext, hread⟩, hlt⟩

/-- A printed amount spells itself. -/
theorem denotesU128_repr {n : Nat} (h : n < Nat.pow 2 128) : DenotesU128 n.repr n :=
  ⟨n.repr.toList, Or.inl rfl, Decimal.read_repr n, h⟩

/--
The text of an amount as a bank send carries it: protobuf takes the amount as it was
given, JSON prints the integer it spells.
-/
def Carries (encoding : TxEncoding) (amount text : String) : Prop :=
  match encoding with
  | .protobuf => text = amount
  | .proto3Json => ∃ n, DenotesU128 amount n ∧ text = n.repr

/-- An amount that spells an integer is carried as that integer. -/
theorem Carries.denotes {encoding : TxEncoding} {text : String} (h : Carries encoding amount text)
    {n : Nat} (hn : DenotesU128 amount n) : DenotesU128 text n := by
  cases encoding with
  | protobuf =>
      obtain rfl : text = amount := h
      exact hn
  | proto3Json =>
      obtain ⟨k, hk, rfl⟩ := h
      have hparse := parseU128_eq_some.mpr hk
      rw [parseU128_eq_some.mpr hn, Option.some.injEq] at hparse
      subst hparse
      obtain ⟨_, _, _, hlt⟩ := hn
      exact denotesU128_repr hlt

/-! ### Bank sends

Under JSON the amount is parsed and printed anew, under protobuf the text is copied as it
was given.
-/

theorem MsgSend.ofAny_toAny (m : MsgSend) : ofAny m.toAny = some m := by
  simp [ofAny, toAny, decode_encode]

/-- Bank sends in protobuf read back. -/
theorem readSends_protobuf (ms : List MsgSend) (memo : Option String) :
    readSends .protobuf (IcaPacketData.fromProtoAnys (ms.map MsgSend.toAny) memo).data =
      some ms := by
  have hread := CosmosTx.decode_encodeToVec ⟨ms.map MsgSend.toAny⟩
  simp only [readSends, IcaPacketData.fromProtoAnys, IcaPacketData.new, hread,
    Option.bind_eq_bind, Option.bind_some]
  exact Reads.mapM MsgSend.ofAny_toAny ms

/-- A bank send in JSON reads back, its amount in decimal. -/
theorem readSends_proto3Json {fromAddress : String} {coins : List Coin} {memo : Option String}
    (h : IcaPacketData.fromJsonStrings
      [(ExampleCosmosMessages.msgSend fromAddress toAddress coins).toString] memo = .ok p) :
    readSends .proto3Json p.data =
      some [⟨fromAddress, toAddress, coins.map fun c => ⟨c.denom, c.amount.repr⟩⟩] := by
  have hread := jsonItems_of_obj
    (jsonOfBinary_fromJsonStrings [.msgSend fromAddress toAddress coins] h)
  simp [readSends, hread, ExampleCosmosMessages.ofJson_toJson, MsgSend.ofMessage]

/-- Protobuf builds a bank send of any amount. -/
theorem packet_protobuf (ica : IcaInfo) (amount denom toAddress : String) :
    ∃ p, (ExecuteMsg.icaBankSend amount denom toAddress).packet
      { ica with encoding := .protobuf } = .ok p :=
  ⟨_, rfl⟩

/-- JSON builds one of the amounts that parse. -/
theorem packet_proto3Json (ica : IcaInfo) (denom toAddress : String) {n : Nat}
    (hparse : Execute.parseU128 amount = some n) :
    ∃ p, (ExecuteMsg.icaBankSend amount denom toAddress).packet
      { ica with encoding := .proto3Json } = .ok p := by
  simp only [ExecuteMsg.packet, Execute.bankSendPacket, hparse]
  exact ⟨_, rfl⟩

/-- It refuses the others. -/
theorem packet_of_unparsed (ica : IcaInfo) (denom toAddress : String)
    (hparse : Execute.parseU128 amount = none) :
    (ExecuteMsg.icaBankSend amount denom toAddress).packet { ica with encoding := .proto3Json } =
      .error (.unknownDataType amount) := by
  simp only [ExecuteMsg.packet, Execute.bankSendPacket, hparse]

/-- What `ica_bank_send` builds, in the encoding of the account. -/
theorem reads_of_bankSendPacket (h : Execute.bankSendPacket ica amount denom toAddress = .ok p) :
    p.type = 1 ∧ p.memo = none ∧
      ∃ text, readSends ica.encoding p.data = some [⟨ica.icaAddress, toAddress, [⟨denom, text⟩]⟩] ∧
        Carries ica.encoding amount text := by
  unfold Execute.bankSendPacket at h
  cases hencoding : ica.encoding with
  | protobuf =>
      rw [hencoding] at h
      cases h
      exact ⟨rfl, rfl, amount, readSends_protobuf [_] none, rfl⟩
  | proto3Json =>
      rw [hencoding] at h
      cases hparse : Execute.parseU128 amount with
      | none =>
          rw [hparse] at h
          cases h
      | some a =>
          rw [hparse] at h
          have hread := readSends_proto3Json h
          cases h
          exact ⟨rfl, rfl, a.repr, hread, a, parseU128_eq_some.mp hparse, rfl⟩

/--
**A bank send says exactly what was asked**, under both encodings and for all strings:
the packet holds one bank send, from the account to the given address, of one coin of
the given denomination, whose amount spells the same integer as the given one.
-/
theorem bank_send_says_what_was_asked
    (h : Returns (execute env info (.icaBankSend amount denom toAddress)) s r s') :
    ∃ st ica data timeout payload text, s.state = some st ∧ st.icaInfo = some ica ∧
      r.messages = [.sendPacket ica.channelId data timeout] ∧
      IcaPacketData.ofBinary data = some ⟨1, payload, none⟩ ∧
      readSends ica.encoding payload =
        some [⟨ica.icaAddress, toAddress, [⟨denom, text⟩]⟩] ∧
      ∀ n, DenotesU128 amount n → DenotesU128 text n := by
  obtain ⟨st, ica, m, hacc, rfl, -⟩ := returns_execute.mp h
  obtain ⟨p, hp, hmsg⟩ := hacc.packet
  obtain ⟨timeout, rfl⟩ := toIbcMsg_channel hmsg
  obtain ⟨htype, hmemo, text, hread, hcarries⟩ := reads_of_bankSendPacket hp
  have hpacket : IcaPacketData.ofBinary p.toBinary = some ⟨1, p.data, none⟩ := by
    rw [IcaPacketData.ofBinary_toBinary p, ← htype, ← hmemo]
  exact ⟨st, ica, p.toBinary, timeout, p.data, text, hacc.state, hacc.account, rfl, hpacket,
    hread, fun n hn => hcarries.denotes hn⟩

/-- Leading zeros and a quotation mark, in JSON. -/
theorem bank_send_says_what_was_asked_sample :
    ∃ r s' data timeout payload text,
      Returns (execute sampleEnv ⟨sampleState.admin⟩ (.icaBankSend "007" "a\"b" "cosmos1bob"))
        sampleOpened r s' ∧
      r.messages = [.sendPacket sampleAccount.channelId data timeout] ∧
      IcaPacketData.ofBinary data = some ⟨1, payload, none⟩ ∧
      readSends .proto3Json payload =
        some [⟨sampleAccount.icaAddress, "cosmos1bob", [⟨"a\"b", text⟩]⟩] ∧
      DenotesU128 text 7 := by
  have hseven : DenotesU128 "007" 7 := ⟨"007".toList, Or.inl rfl, by decide, by decide⟩
  obtain ⟨p, hp⟩ := packet_proto3Json sampleAccount "a\"b" "cosmos1bob"
    (parseU128_eq_some.mpr hseven)
  have hdeadline : (600000000000 : UInt64).toNat = sampleEnv.block.time.nanos.toNat +
      ((ExecuteMsg.icaBankSend "007" "a\"b" "cosmos1bob").timeoutSeconds.getD
        defaultTimeoutSeconds).toNat * 1000000000 := by
    simp [sampleEnv, ExecuteMsg.timeoutSeconds, defaultTimeoutSeconds]
  have hret := sends_when_fits _ ⟨600000000000⟩ sampleOpened_state rfl hp hdeadline
  obtain ⟨st, ica, data, timeout, payload, text, hst, hica, hsent, hpacket, hread, hamount⟩ :=
    bank_send_says_what_was_asked hret
  cases hst
  cases hica
  exact ⟨_, _, data, timeout, payload, text, hret, hsent, hpacket, hread, hamount 7 hseven⟩

/-! ### Acceptance -/

/-- The same storage, with an account in the given encoding. -/
def Storage.encoded (s : Storage) (st : ContractState) (ica : IcaInfo) (encoding : TxEncoding) :
    Storage :=
  { s with state := some { st with icaInfo := some { ica with encoding := encoding } } }

theorem encoded_state (s : Storage) (st : ContractState) (ica : IcaInfo) (encoding : TxEncoding) :
    (s.encoded st ica encoding).state =
      some { st with icaInfo := some { ica with encoding := encoding } } := rfl

/-- The admin's bank send is accepted, with the account in the given encoding. -/
def BankSends (env : Env) (s : Storage) (st : ContractState) (ica : IcaInfo)
    (amount denom toAddress : String) (encoding : TxEncoding) : Prop :=
  ∃ r s', Returns (execute env ⟨st.admin⟩ (.icaBankSend amount denom toAddress))
    (s.encoded st ica encoding) r s'

/-- The admin's bank send is turned down over its amount. -/
def RejectsAmount (env : Env) (s : Storage) (st : ContractState) (ica : IcaInfo)
    (amount denom toAddress : String) (encoding : TxEncoding) : Prop :=
  Fails (execute env ⟨st.admin⟩ (.icaBankSend amount denom toAddress)) (s.encoded st ica encoding)
    (.err (.unknownDataType amount)) (s.encoded st ica encoding)

/-- A bank send that can be built is accepted if its deadline fits, whatever the encoding. -/
theorem bankSends_iff {encoding : TxEncoding}
    (hp : (ExecuteMsg.icaBankSend amount denom toAddress).packet { ica with encoding := encoding } =
      .ok p) :
    BankSends env s st ica amount denom toAddress encoding ↔
      ∃ deadline : Timestamp, deadline.nanos.toNat = env.block.time.nanos.toNat +
        ((ExecuteMsg.icaBankSend amount denom toAddress).timeoutSeconds.getD
          defaultTimeoutSeconds).toNat * 1000000000 := by
  have hiff := accepted_iff env _ (encoded_state s st ica encoding) rfl hp
  exact hiff

theorem rejectsAmount_iff {encoding : TxEncoding} :
    RejectsAmount env s st ica amount denom toAddress encoding ↔
      (ExecuteMsg.icaBankSend amount denom toAddress).request env
        { ica with encoding := encoding } = .error (.err (.unknownDataType amount)) :=
  (fails_admin env _ (encoded_state s st ica encoding) rfl).trans (and_iff_left rfl)

/--
**Acceptance depends on the encoding unless the amount is a number**: the two
encodings accept the same bank sends, and turn down what is no decimal text of a
`u128`, exactly when the amount is one.
-/
theorem bank_send_acceptance_iff :
    ((BankSends env s st ica amount denom toAddress .protobuf ↔
        BankSends env s st ica amount denom toAddress .proto3Json) ∧
      ((¬ ∃ n, DenotesU128 amount n) →
        ∀ encoding, RejectsAmount env s st ica amount denom toAddress encoding)) ↔
      ∃ n, DenotesU128 amount n := by
  obtain ⟨p, hp⟩ := packet_protobuf ica amount denom toAddress
  constructor
  · intro h
    by_contra hno
    have hreq := rejectsAmount_iff.mp (h.2 hno .protobuf)
    -- protobuf has built its packet, so only the deadline can be wrong
    rw [request_of_packet hp] at hreq
    cases toIbcMsg_error hreq
  · intro h
    obtain ⟨n, hn⟩ := h
    obtain ⟨q, hq⟩ := packet_proto3Json ica denom toAddress (parseU128_eq_some.mpr hn)
    exact ⟨(bankSends_iff hp).trans (bankSends_iff hq).symm, fun hno => absurd ⟨n, hn⟩ hno⟩

/-- An amount that is no number is sent in protobuf and refused in JSON. -/
theorem word_sent_in_protobuf_only :
    BankSends sampleEnv sampleOpened sampleState sampleAccount "abc" "stake" "cosmos1bob"
        .protobuf ∧
      ¬ BankSends sampleEnv sampleOpened sampleState sampleAccount "abc" "stake" "cosmos1bob"
        .proto3Json := by
  constructor
  · obtain ⟨p, hp⟩ := packet_protobuf sampleAccount "abc" "stake" "cosmos1bob"
    refine (bankSends_iff hp).mpr ⟨⟨600000000000⟩, ?_⟩
    simp [sampleEnv, ExecuteMsg.timeoutSeconds, defaultTimeoutSeconds]
  · intro h
    obtain ⟨r, s', hret⟩ := h
    have hparse : Execute.parseU128 "abc" = none := by decide
    have hfails : RejectsAmount sampleEnv sampleOpened sampleState sampleAccount "abc" "stake"
        "cosmos1bob" .proto3Json :=
      rejectsAmount_iff.mpr (request_of_error (packet_of_unparsed sampleAccount _ _ hparse))
    exact hret.not_fails hfails

end IcaController
