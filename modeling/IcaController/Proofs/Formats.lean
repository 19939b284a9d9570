/-
What is printed reads back.

One lemma a format: the reader of `Model/Readers` takes the printed value to the
value.  The induction is on the value, and only the proposal, whose content is a
message, has an inductive case.
-/
import IcaController.Lib.Codec
import IcaController.Lib.JsonJoined
import IcaController.Model.Readers

namespace IcaController

/-- A printed JSON value is read from its bytes. -/
theorem jsonOfBinary_print (v : Json) :
    jsonOfBinary (String.ofList v.print).utf8 = some v := by
  simp only [jsonOfBinary, String.fromUTF8?_utf8, Option.bind_eq_bind, Option.bind_some,
    String.toList_ofList, Json.parse_print]

/-! ### Packet data -/

theorem byteOfJson_num (b : UInt8) : byteOfJson (.num b.toNat) = some b := by
  have hb : b.toNat < UInt8.size := b.toNat_lt
  rw [byteOfJson, if_pos hb, UInt8.ofNat_toNat]

theorem IcaPacketData.ofJson_toJson (p : IcaPacketData) : ofJson p.toJson = some p := by
  obtain ⟨type, data, memo⟩ := p
  have htype : type.toNat < UInt32.size := type.toNat_lt
  have hdata : (data.map fun b => Json.num b.toNat).mapM byteOfJson = some data :=
    Reads.mapM byteOfJson_num data
  cases memo with
  | none =>
      simp [toJson, ofJson, declared, numberMember, arrayMember, optionalMember, Json.member?,
        htype, hdata]
  | some memo =>
      simp [toJson, ofJson, declared, numberMember, arrayMember, optionalMember, Json.member?,
        htype, hdata]

/-- **Packet data reads back from its bytes.** -/
theorem IcaPacketData.ofBinary_toBinary : Reads ofBinary toBinary :=
  Reads.layer ofJson_toJson jsonOfBinary_print

/-! ### Messages in JSON -/

theorem Coin.ofJson_toJson (c : Coin) : ofJson c.toJson = some c := by
  have hamount : Decimal.read (Nat.toDigits 10 c.amount) = some c.amount := by
    rw [← Nat.toList_repr, Decimal.read_repr]
  simp [toJson, ofJson, declared, stringMember, Json.member?, hamount]

theorem Height.ofJson_toJson (h : Height) : ofJson h.toJson = some h := by
  have hnumber : h.revisionNumber.toNat < UInt64.size := h.revisionNumber.toNat_lt
  have hheight : h.revisionHeight.toNat < UInt64.size := h.revisionHeight.toNat_lt
  simp [toJson, ofJson, declared, numberMember, Json.member?, hnumber, hheight]

namespace ExampleCosmosMessages

theorem coins_read (cs : List Coin) : cs.mapM (Coin.ofJson ∘ Coin.toJson) = some cs := by
  rw [← List.mapM_map]
  exact Reads.mapM Coin.ofJson_toJson cs

/-- A message that holds no message is read by its tag. -/
theorem ofJson_obj {members : List (String × Json)} {tag : String}
    (htag : stringMember "@type" members = some tag)
    (hne : tag ≠ "/cosmos.gov.v1beta1.MsgSubmitProposal") :
    ofJson (.obj members) = ofMembers members tag := by
  rw [ofJson, htag]
  simp only [Option.bind_eq_bind, Option.bind_some, if_neg hne]

/-- **Every message reads back**, whatever it holds. -/
theorem ofJson_toJson (m : ExampleCosmosMessages) : ofJson m.toJson = some m := by
  induction m with
  | msgSend fromAddress toAddress amount =>
      rw [toJson, ofJson_obj rfl (by decide)]
      simp [ofMembers, declared, stringMember, coinsMember, coinsJson, arrayMember, Json.member?,
        coins_read]
  | msgDelegate delegatorAddress validatorAddress amount =>
      rw [toJson, ofJson_obj rfl (by decide)]
      simp [ofMembers, declared, stringMember, Json.member?, Coin.ofJson_toJson]
  | msgVote voter proposalId option =>
      have hid : proposalId.toNat < UInt64.size := proposalId.toNat_lt
      have hoption : option.toNat < UInt32.size := option.toNat_lt
      rw [toJson, ofJson_obj rfl (by decide)]
      simp [ofMembers, declared, stringMember, numberMember, Json.member?, hid, hoption]
  | msgSubmitProposalLegacy content initialDeposit proposer ih =>
      rw [toJson, ofJson]
      simp [declared, stringMember, coinsMember, coinsJson, arrayMember, Json.member?, coins_read,
        ih]
  | textProposal title description =>
      rw [toJson, ofJson_obj rfl (by decide)]
      simp [ofMembers, declared, stringMember, Json.member?]
  | msgDeposit proposalId depositor amount =>
      have hid : proposalId.toNat < UInt64.size := proposalId.toNat_lt
      rw [toJson, ofJson_obj rfl (by decide)]
      simp [ofMembers, declared, stringMember, numberMember, coinsMember, coinsJson, arrayMember,
        Json.member?, coins_read, hid]
  | msgTransfer sourcePort sourceChannel token sender receiver timeoutHeight timeoutTimestamp
      memo =>
      have htimestamp : timeoutTimestamp.toNat < UInt64.size := timeoutTimestamp.toNat_lt
      cases memo with
      | none =>
          rw [toJson, ofJson_obj rfl (by decide)]
          simp [ofMembers, declared, stringMember, numberMember, optionalMember, Json.member?,
            Coin.ofJson_toJson, Height.ofJson_toJson, htimestamp]
      | some memo =>
          rw [toJson, ofJson_obj rfl (by decide)]
          simp [ofMembers, declared, stringMember, numberMember, optionalMember, Json.member?,
            Coin.ofJson_toJson, Height.ofJson_toJson, htimestamp]

end ExampleCosmosMessages

/-! ### Transactions in JSON -/

/-- The text around the messages is an object with one member, the array of them. -/
theorem jsonOfBinary_joined (items : List Json) :
    jsonOfBinary ("\x7b\"messages\": [" ++
      ", ".intercalate (items.map fun v => String.ofList v.print) ++ "]\x7d").utf8 =
        some (.obj [("messages", .arr items)]) := by
  have htext : ("\x7b\"messages\": [" ++
      ", ".intercalate (items.map fun v => String.ofList v.print) ++ "]\x7d").toList =
        '{' :: (Json.quote "messages".toList ++
          ':' :: ' ' :: '[' :: (Json.joined items ++ [ ']', '}'])) := by
    simp only [String.toList_append, Json.joined]
    rfl
  simp only [jsonOfBinary, String.fromUTF8?_utf8, Option.bind_eq_bind, Option.bind_some, htext,
    Json.parse_joined]

theorem map_toString (msgs : List ExampleCosmosMessages) :
    msgs.map ExampleCosmosMessages.toString =
      (msgs.map ExampleCosmosMessages.toJson).map fun v => String.ofList v.print := by
  rw [List.map_map]
  rfl

/-- The data of a packet made of messages is the array of them. -/
theorem jsonOfBinary_fromJsonStrings (msgs : List ExampleCosmosMessages) {memo : Option String}
    {p : IcaPacketData}
    (h : IcaPacketData.fromJsonStrings (msgs.map ExampleCosmosMessages.toString) memo = .ok p) :
    jsonOfBinary p.data =
      some (.obj [("messages", .arr (msgs.map ExampleCosmosMessages.toJson))]) := by
  cases h
  rw [map_toString]
  exact jsonOfBinary_joined _

theorem jsonItems_of_obj {data : Binary} {items : List Json}
    (h : jsonOfBinary data = some (.obj [("messages", .arr items)])) :
    jsonItems data = some items := by
  simp [jsonItems, h, declared, arrayMember, Json.member?]

/-! ### Messages in protobuf -/

theorem declaredFields_append (numbers : List Nat) (fs gs : List (Nat × Binary)) :
    declaredFields numbers (fs ++ gs) = (declaredFields numbers fs && declaredFields numbers gs) :=
  List.all_append

theorem declaredFields_scalar {numbers : List Nat} {n : Nat} (h : numbers.contains n = true)
    (payload : Binary) : declaredFields numbers (Protobuf.scalar n payload) = true := by
  unfold Protobuf.scalar
  split
  · rfl
  · simpa [declaredFields] using h

theorem declaredFields_repeated {numbers : List Nat} {n : Nat} (h : numbers.contains n = true)
    (messages : List Binary) : declaredFields numbers (Protobuf.repeated n messages) = true := by
  simp only [declaredFields, Protobuf.repeated, List.all_map, List.all_eq_true]
  intro payload _
  exact h

theorem ProtoCoin.decode_encode (c : ProtoCoin) : decode c.encode = some c := by
  obtain ⟨fields, hfields⟩ : ∃ fields,
      fields = Protobuf.scalar 1 c.denom.utf8 ++ Protobuf.scalar 2 c.amount.utf8 := ⟨_, rfl⟩
  have hbytes : c.encode = Protobuf.encodeFields fields := by
    rw [hfields, Protobuf.encodeFields_append, ← Protobuf.bytesField_eq, ← Protobuf.bytesField_eq]
    rfl
  have hdeclared : declaredFields [1, 2] fields = true := by
    simp [hfields, declaredFields_append, declaredFields_scalar]
  have hdenom : Protobuf.stringOf 1 fields = some c.denom :=
    Protobuf.stringOf_eq (by simp [hfields])
  have hamount : Protobuf.stringOf 2 fields = some c.amount :=
    Protobuf.stringOf_eq (by simp [hfields])
  simp [decode, hbytes, Protobuf.readFields_encodeFields, hdeclared, hdenom, hamount]

theorem MsgSend.decode_encode (m : MsgSend) : decode m.encode = some m := by
  obtain ⟨fields, hfields⟩ : ∃ fields,
      fields = Protobuf.scalar 1 m.fromAddress.utf8 ++ Protobuf.scalar 2 m.toAddress.utf8 ++
        Protobuf.repeated 3 (m.amount.map ProtoCoin.encode) := ⟨_, rfl⟩
  have hbytes : m.encode = Protobuf.encodeFields fields := by
    rw [hfields, Protobuf.encodeFields_append, Protobuf.encodeFields_append,
      ← Protobuf.bytesField_eq, ← Protobuf.bytesField_eq, ← Protobuf.repeatedField_eq]
    rfl
  have hdeclared : declaredFields [1, 2, 3] fields = true := by
    rw [hfields, declaredFields_append, declaredFields_append, declaredFields_scalar rfl,
      declaredFields_scalar rfl, declaredFields_repeated rfl]
    rfl
  have hfrom : Protobuf.stringOf 1 fields = some m.fromAddress :=
    Protobuf.stringOf_eq (by simp [hfields])
  have hto : Protobuf.stringOf 2 fields = some m.toAddress :=
    Protobuf.stringOf_eq (by simp [hfields])
  have hamount : (Protobuf.allOf 3 fields).mapM ProtoCoin.decode = some m.amount := by
    have hall : Protobuf.allOf 3 fields = m.amount.map ProtoCoin.encode := by simp [hfields]
    rw [hall]
    exact Reads.mapM ProtoCoin.decode_encode m.amount
  simp [decode, hbytes, Protobuf.readFields_encodeFields, hdeclared, hfrom, hto, hamount]

theorem ProtoAny.decode_encode (a : ProtoAny) : decode a.encode = some a := by
  obtain ⟨fields, hfields⟩ : ∃ fields,
      fields = Protobuf.scalar 1 a.typeUrl.utf8 ++ Protobuf.scalar 2 a.value := ⟨_, rfl⟩
  have hbytes : a.encode = Protobuf.encodeFields fields := by
    rw [hfields, Protobuf.encodeFields_append, ← Protobuf.bytesField_eq, ← Protobuf.bytesField_eq]
    rfl
  have hdeclared : declaredFields [1, 2] fields = true := by
    simp [hfields, declaredFields_append, declaredFields_scalar]
  have htype : Protobuf.stringOf 1 fields = some a.typeUrl :=
    Protobuf.stringOf_eq (by simp [hfields])
  have hvalue : Protobuf.lastOf 2 fields = a.value :=
    Protobuf.lastOf_eq (by simp [hfields])
  simp [decode, hbytes, Protobuf.readFields_encodeFields, hdeclared, htype, hvalue]

/-- **A transaction reads back from its bytes.** -/
theorem CosmosTx.decode_encodeToVec (tx : CosmosTx) : decode tx.encodeToVec = some tx := by
  obtain ⟨fields, hfields⟩ : ∃ fields,
      fields = Protobuf.repeated 1 (tx.messages.map ProtoAny.encode) := ⟨_, rfl⟩
  have hbytes : tx.encodeToVec = Protobuf.encodeFields fields := by
    rw [hfields, ← Protobuf.repeatedField_eq]
    rfl
  have hdeclared : declaredFields [1] fields = true := by
    rw [hfields, declaredFields_repeated rfl]
  have hmessages : (Protobuf.allOf 1 fields).mapM ProtoAny.decode = some tx.messages := by
    have hall : Protobuf.allOf 1 fields = tx.messages.map ProtoAny.encode := by simp [hfields]
    rw [hall]
    exact Reads.mapM ProtoAny.decode_encode tx.messages
  simp [decode, hbytes, Protobuf.readFields_encodeFields, hdeclared, hmessages]

/-! ### Acknowledgements -/

theorem AcknowledgementData.ofJson_toJson (ack : AcknowledgementData) :
    ofJson ack.toJson = some ack := by
  cases ack with
  | result data => simp [toJson, ofJson, Base64.decode_encode]
  | error message => rfl

/-- The acknowledgements the host writes are read by the reader of the format. -/
theorem jsonReader_fromBinary_toBinary (ack : AcknowledgementData) :
    jsonReader.fromBinary ack.toBinary = .ok ack := by
  have hread : (jsonOfBinary ack.toBinary).bind AcknowledgementData.ofJson = some ack :=
    Reads.layer AcknowledgementData.ofJson_toJson jsonOfBinary_print ack
  simp only [jsonReader, hread]

/-- A JSON text that is no acknowledgement is refused. -/
theorem jsonReader_fromBinary_print {v : Json} (h : AcknowledgementData.ofJson v = none) :
    jsonReader.fromBinary (String.ofList v.print).utf8 =
      .error (.parseErr "AcknowledgementData" "Invalid type") := by
  have hread : (jsonOfBinary (String.ofList v.print).utf8).bind AcknowledgementData.ofJson =
      none := by
    rw [jsonOfBinary_print, Option.bind_some, h]
  simp only [jsonReader, hread]

end IcaController
