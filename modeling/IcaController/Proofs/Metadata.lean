/-
What the metadata checks decide.

`validate` reads a channel only through its connection id, so metadata accepted
for a channel is accepted for any other on the same connection.  The comparison
with a previous version asks that its text decodes and that five of the six fields
agree; the address is not one of them.
-/
import IcaController.Lib.JsonRoundTrip
import IcaController.Proofs.Handlers

namespace IcaController

variable {serde : SerdeJsonWasm}

/-! ### Addresses

The length is counted in bytes and the characters are looked up in the Unicode table, so
an address that is accepted need not be ASCII.
-/

/-- The addresses `validateIcaAddress` accepts. -/
structure AddressOk (address : String) : Prop where
  length : address.utf8ByteSize ≤ 128
  chars : ∀ c ∈ address.toList, Unicode.isAlphanumeric c = true

theorem validateIcaAddress_eq_ok {address : String} {u : Unit} :
    validateIcaAddress address = .ok u ↔ AddressOk address := by
  unfold validateIcaAddress
  constructor
  · intro h
    split at h
    · cases h
    · rename_i hc
      simp only [Bool.or_eq_true, decide_eq_true_eq, Bool.not_eq_true', List.all_eq_false,
        not_or, not_exists, not_and] at hc
      exact ⟨by omega, fun c hmem => by simpa using hc.2 c hmem⟩
  · intro h
    obtain ⟨hlen, hchars⟩ := h
    rw [if_neg]
    simp only [Bool.or_eq_true, decide_eq_true_eq, Bool.not_eq_true', List.all_eq_false]
    rintro (hlt | ⟨c, hmem, hc⟩)
    · omega
    · exact hc (hchars c hmem)

/-- Short strings of ASCII letters and digits are accepted. -/
theorem AddressOk.of_isAlphanum {address : String}
    (hchars : ∀ c ∈ address.toList, c.isAlphanum = true) (hlen : address.length ≤ 128) :
    AddressOk address :=
  ⟨by rw [Unicode.utf8ByteSize_of_isAlphanum hchars]; exact hlen,
    fun c hc => Unicode.isAlphanumeric_of_isAlphanum (hchars c hc)⟩

/-! ### Validation -/

/-- What `validate` requires, field by field. -/
structure ValidFor (m : IcaMetadata) (connectionId : String) : Prop where
  version : m.version = icaVersion
  controllerConnectionId : m.controllerConnectionId = connectionId
  address : m.address ≠ "" → AddressOk m.address
  txType : m.txType = "sdk_multi_msg"

theorem validate_eq_ok {m : IcaMetadata} {channel : IbcChannel} {u : Unit} :
    m.validate channel = .ok u ↔ ValidFor m channel.connectionId := by
  have htail : (if m.txType ≠ "sdk_multi_msg" then
      (throw (.unsupportedTxType m.txType) : Except ContractError Unit) else pure ()) = .ok u ↔
      m.txType = "sdk_multi_msg" := by
    by_cases htx : m.txType = "sdk_multi_msg"
    · simp [htx, pure, Except.pure]
    · simp [htx, throw, throwThe, MonadExceptOf.throw]
  simp only [IcaMetadata.validate, Except.guard_eq_ok, ne_eq, not_not]
  by_cases hempty : m.address.isEmpty = true
  · have haddr : m.address = "" := by simpa using hempty
    rw [if_neg (by simp [hempty]), htail]
    exact ⟨fun ⟨hver, hconn, htx⟩ => ⟨hver, hconn, fun hne => absurd haddr hne, htx⟩,
      fun h => ⟨h.version, h.controllerConnectionId, h.txType⟩⟩
  · have hne : m.address ≠ "" := by simpa using hempty
    rw [if_pos hempty, Except.bind_eq_ok, htail]
    constructor
    · intro h
      obtain ⟨hver, hconn, ⟨⟩, haddr, htx⟩ := h
      exact ⟨hver, hconn, fun _ => validateIcaAddress_eq_ok.mp haddr, htx⟩
    · intro h
      exact ⟨h.version, h.controllerConnectionId, (),
        validateIcaAddress_eq_ok.mpr (h.address hne), h.txType⟩

/-- What is valid stays so when the host fills in an acceptable address. -/
theorem ValidFor.withAddress {m : IcaMetadata} {connectionId address : String}
    (h : ValidFor m connectionId) (haddr : AddressOk address) :
    ValidFor { m with address := address } connectionId :=
  ⟨h.version, h.controllerConnectionId, fun _ => haddr, h.txType⟩

/-- Neither the encoding nor the host connection takes part in validity. -/
theorem ValidFor.recode {m : IcaMetadata} {connectionId : String} (h : ValidFor m connectionId)
    (encoding : TxEncoding) (hostConnectionId : String) :
    ValidFor { m with encoding := encoding, hostConnectionId := hostConnectionId } connectionId :=
  ⟨h.version, h.controllerConnectionId, h.address, h.txType⟩

/-! ### The comparison with a previous version

The account's address is left out of it: an `OpenInit` need not know one.
-/

/-- Two metadata that negotiate the same: every field but the address. -/
structure SameTerms (m previous : IcaMetadata) : Prop where
  version : m.version = previous.version
  controllerConnectionId : m.controllerConnectionId = previous.controllerConnectionId
  hostConnectionId : m.hostConnectionId = previous.hostConnectionId
  encoding : m.encoding = previous.encoding
  txType : m.txType = previous.txType

theorem SameTerms.refl (m : IcaMetadata) : SameTerms m m := ⟨rfl, rfl, rfl, rfl, rfl⟩

theorem SameTerms.symm {m n : IcaMetadata} (h : SameTerms m n) : SameTerms n m :=
  ⟨h.version.symm, h.controllerConnectionId.symm, h.hostConnectionId.symm, h.encoding.symm,
    h.txType.symm⟩

theorem SameTerms.trans {m n p : IcaMetadata} (h : SameTerms m n) (h' : SameTerms n p) :
    SameTerms m p :=
  ⟨h.version.trans h'.version, h.controllerConnectionId.trans h'.controllerConnectionId,
    h.hostConnectionId.trans h'.hostConnectionId, h.encoding.trans h'.encoding,
    h.txType.trans h'.txType⟩

theorem isPreviousVersionEqual_iff {m : IcaMetadata} {version : String} :
    m.isPreviousVersionEqual serde version = true ↔
      ∃ previous, serde.fromStr version = some previous ∧ SameTerms m previous := by
  unfold IcaMetadata.isPreviousVersionEqual
  cases hdec : serde.fromStr version with
  | none => simp
  | some previous =>
      simp only [Bool.and_eq_true, decide_eq_true_eq, Option.some.injEq, exists_eq_left']
      constructor
      · intro h
        obtain ⟨⟨⟨⟨hver, hconn⟩, hhost⟩, henc⟩, htx⟩ := h
        exact ⟨hver, hconn, hhost, henc, htx⟩
      · intro h
        obtain ⟨hver, hconn, hhost, henc, htx⟩ := h
        exact ⟨⟨⟨⟨hver, hconn⟩, hhost⟩, henc⟩, htx⟩

/-- Two version texts that decode to metadata on the same terms. -/
def SameVersion (serde : SerdeJsonWasm) (v w : String) : Prop :=
  ∃ m p, serde.fromStr v = some m ∧ serde.fromStr w = some p ∧ SameTerms m p

theorem SameVersion.refl {v : String} {m : IcaMetadata} (h : serde.fromStr v = some m) :
    SameVersion serde v v :=
  ⟨m, m, h, h, .refl m⟩

theorem SameVersion.symm {v w : String} (h : SameVersion serde v w) : SameVersion serde w v := by
  obtain ⟨m, p, hm, hp, hsame⟩ := h
  exact ⟨p, m, hp, hm, hsame.symm⟩

theorem SameVersion.trans {v w x : String} (h : SameVersion serde v w)
    (h' : SameVersion serde w x) : SameVersion serde v x := by
  obtain ⟨m, p, hm, hp, hsame⟩ := h
  obtain ⟨p', q, hp', hq, hsame'⟩ := h'
  rw [hp, Option.some.injEq] at hp'
  subst hp'
  exact ⟨m, q, hm, hq, hsame.trans hsame'⟩

/-! ### Reading the text back -/

theorem ofName_rename (e : TxEncoding) : TxEncoding.ofName e.rename = some e := by
  cases e <;> rfl

theorem ofJson_toJson (m : IcaMetadata) : IcaMetadata.ofJson m.toJson = some m := by
  simp [IcaMetadata.toJson, IcaMetadata.ofJson, stringMember, Json.member?, ofName_rename]

theorem jsonReader_fromStr (text : String) :
    jsonReader.fromStr text = (Json.parse text.toList).bind IcaMetadata.ofJson := rfl

/-- **The reader of the format inverts `to_string`.** -/
theorem jsonReader_invertsToString : jsonReader.InvertsToString := by
  intro m
  rw [jsonReader_fromStr]
  simp only [IcaMetadata.toString, String.toList_ofList, Json.parse_print]
  exact ofJson_toJson m

end IcaController
