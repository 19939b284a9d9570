/-
Stored records and messages read back.

One lemma a type, from the innermost out; a record that holds another uses its
lemma.  An optional field is either there or it is not, so each is two cases.
-/
import IcaController.Model.Store
import IcaController.Proofs.Formats
import IcaController.Proofs.Metadata

namespace IcaController

/-! ### Records -/

theorem IcaInfo.ofJson_toJson (info : IcaInfo) : ofJson info.toJson = some info := by
  simp [toJson, ofJson, declared, stringMember, ofName_rename]

theorem ContractState.ofJson_toJson (st : ContractState) : ofJson st.toJson = some st := by
  obtain ⟨admin, icaInfo⟩ := st
  cases icaInfo with
  | none => simp [toJson, ofJson, declared, stringMember, optionalOf]
  | some info =>
      have hinfo := IcaInfo.ofJson_toJson info
      obtain ⟨members, hmembers⟩ : ∃ members, info.toJson = .obj members := ⟨_, rfl⟩
      rw [hmembers] at hinfo
      simp [toJson, ofJson, declared, stringMember, optionalOf, hmembers, hinfo]

theorem IbcEndpoint.ofJson_toJson (e : IbcEndpoint) : ofJson e.toJson = some e := by
  simp [toJson, ofJson, declared, stringMember]

theorem IbcOrder.ofName_rename (o : IbcOrder) : ofName o.rename = some o := by
  cases o <;> rfl

theorem IbcChannel.ofJson_toJson (c : IbcChannel) : ofJson c.toJson = some c := by
  simp [toJson, ofJson, declared, stringMember, memberOf, IbcEndpoint.ofJson_toJson,
    IbcOrder.ofName_rename]

theorem ChannelStatus.ofName_rename (status : ChannelStatus) :
    ofName status.rename = some status := by
  cases status <;> rfl

theorem ChannelState.ofJson_toJson (cs : ChannelState) : ofJson cs.toJson = some cs := by
  simp [toJson, ofJson, declared, stringMember, memberOf, IbcChannel.ofJson_toJson,
    ChannelStatus.ofName_rename]

theorem CallbackCounter.ofJson_toJson (c : CallbackCounter) : ofJson c.toJson = some c := by
  have hsuccess : c.success.toNat < UInt32.size := c.success.toNat_lt
  have herror : c.error.toNat < UInt32.size := c.error.toNat_lt
  have htimeout : c.timeout.toNat < UInt32.size := c.timeout.toNat_lt
  simp [toJson, ofJson, declared, numberMember, hsuccess, herror, htimeout]

theorem ContractVersion.ofJson_toJson (v : ContractVersion) : ofJson v.toJson = some v := by
  simp [toJson, ofJson, declared, stringMember]

/-- What was printed to bytes reads back from them. -/
theorem readBytes_jsonBytes {α : Type} {read : Json → Option α} {toJson : α → Json}
    (h : Reads read toJson) : Reads (readBytes read) fun a => jsonBytes (toJson a) :=
  Reads.layer h jsonOfBinary_print

theorem storeReader_invertsToVec : storeReader.InvertsToVec where
  contractVersion v := by
    simp only [storeReader, readBytes_jsonBytes ContractVersion.ofJson_toJson v, orParseErr]
  contractState st := by
    simp only [storeReader, readBytes_jsonBytes ContractState.ofJson_toJson st, orParseErr]
  channelState cs := by
    simp only [storeReader, readBytes_jsonBytes ChannelState.ofJson_toJson cs, orParseErr]
  callbackCounter c := by
    simp only [storeReader, readBytes_jsonBytes CallbackCounter.ofJson_toJson c, orParseErr]

/--
**Every stored record reads back** from its bytes, whatever it holds, so two
different records of one type never have the same bytes.
-/
theorem stored_records_read_back : storeReader.InvertsToVec ∧
    Function.Injective (fun v : ContractVersion => jsonBytes v.toJson) ∧
    Function.Injective (fun st : ContractState => jsonBytes st.toJson) ∧
    Function.Injective (fun cs : ChannelState => jsonBytes cs.toJson) ∧
    Function.Injective (fun c : CallbackCounter => jsonBytes c.toJson) :=
  ⟨storeReader_invertsToVec, (readBytes_jsonBytes ContractVersion.ofJson_toJson).injective,
    (readBytes_jsonBytes ContractState.ofJson_toJson).injective,
    (readBytes_jsonBytes ChannelState.ofJson_toJson).injective,
    (readBytes_jsonBytes CallbackCounter.ofJson_toJson).injective⟩

/-! ### Messages -/

theorem InstantiateMsg.ofJson_toJson (msg : InstantiateMsg) : ofJson msg.toJson = some msg := by
  obtain ⟨admin⟩ := msg
  cases admin with
  | none => simp [toJson, ofJson, declared, optionalMember]
  | some admin => simp [toJson, ofJson, declared, optionalMember]

theorem secondsOfJson_num (seconds : UInt64) :
    secondsOfJson (.num seconds.toNat) = some seconds := by
  have hseconds : seconds.toNat < UInt64.size := seconds.toNat_lt
  rw [secondsOfJson, if_pos hseconds, UInt64.ofNat_toNat]

theorem ExecuteMsg.ofJson_toJson (msg : ExecuteMsg) : ofJson msg.toJson = some msg := by
  cases msg with
  | sendCustomIcaMessages messages packetMemo timeoutSeconds =>
      cases packetMemo <;> cases timeoutSeconds <;>
        simp [toJson, ofJson, declared, stringMember, optionalMember, optionalOf,
          Base64.decode_encode, secondsOfJson_num]
  | icaBankSend amount denom toAddress =>
      simp [toJson, ofJson, declared, stringMember]

theorem QueryMsg.ofJson_toJson (msg : QueryMsg) : ofJson msg.toJson = some msg := by
  cases msg <;> rfl

theorem msgReader_invertsToVec : msgReader.InvertsToVec where
  instantiateMsg msg := by
    simp only [msgReader, readBytes_jsonBytes InstantiateMsg.ofJson_toJson msg, orParseErr]
  executeMsg msg := by
    simp only [msgReader, readBytes_jsonBytes ExecuteMsg.ofJson_toJson msg, orParseErr]
  queryMsg msg := by
    simp only [msgReader, readBytes_jsonBytes QueryMsg.ofJson_toJson msg, orParseErr]

/--
**Every message a user can send reads back** as what was meant: the bytes, memo and
timeout of a custom message, absent or not, and the three strings of a bank send,
whatever they contain.
-/
theorem messages_read_back :
    Reads (readBytes InstantiateMsg.ofJson) (fun msg => jsonBytes msg.toJson) ∧
    Reads (readBytes ExecuteMsg.ofJson) (fun msg => jsonBytes msg.toJson) ∧
    Reads (readBytes QueryMsg.ofJson) (fun msg => jsonBytes msg.toJson) :=
  ⟨readBytes_jsonBytes InstantiateMsg.ofJson_toJson, readBytes_jsonBytes ExecuteMsg.ofJson_toJson,
    readBytes_jsonBytes QueryMsg.ofJson_toJson⟩

end IcaController
