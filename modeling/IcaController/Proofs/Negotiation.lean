/-
What a handshake settles.

The version `OpenInit` returns is a fixed point: it reads back as metadata that is
valid for the channel, and proposing it again settles on it again, whatever the
querier answers.  The address `OpenAck` stores is not always one a host could have
assigned: the check asks Unicode for letters and digits, where the rule it recreates
asks ASCII.
-/
import IcaController.Proofs.Dial

namespace IcaController

open Exec

variable {serde : SerdeJsonWasm} {deps : Deps} {s s' : Storage} {channel : IbcChannel}
  {m : IcaMetadata}

/-! ### The version

The version an `OpenInit` returns spells out everything it was not told, so offering it
leaves nothing to fall back to.
-/

theorem InitAccepts.returns (h : InitAccepts serde deps s channel m) :
    Returns (ibcChannelOpen serde deps (.openInit channel)) s (some ⟨m.toString⟩) s :=
  returns_init.mpr ⟨m, h, rfl, rfl⟩

/-- An accepted proposal is accepted again when it is spelled out. -/
theorem InitAccepts.again (h : InitAccepts serde deps s channel m) (hinv : serde.InvertsToString)
    (deps' : Deps) : InitAccepts serde deps' s { channel with version := m.toString } m where
  ordered := h.ordered
  hostPort := h.hostPort
  proposed := by
    rw [proposal, toString_isEmpty, if_neg Bool.false_ne_true]
    exact hinv m
  valid := validate_eq_ok.mpr (validate_eq_ok.mp h.valid)
  previous := h.previous

/--
**Negotiation is idempotent.**  The version an accepted `OpenInit` returns decodes to
metadata valid for the channel, the proposed one if there was a proposal; `OpenInit`
accepts the channel with that version under any querier and returns it again; and
neither call touches storage.
-/
theorem negotiation_is_idempotent {r : IbcChannelOpenResponse} (hinv : serde.InvertsToString)
    (h : Returns (ibcChannelOpen serde deps (.openInit channel)) s r s') :
    ∃ v m, r = some ⟨v⟩ ∧ s' = s ∧ serde.fromStr v = some m ∧ m.validate channel = .ok () ∧
      (channel.version ≠ "" → serde.fromStr channel.version = some m) ∧
      ∀ deps', Returns (ibcChannelOpen serde deps' (.openInit { channel with version := v })) s
        (some ⟨v⟩) s := by
  obtain ⟨m, hacc, hr, hs⟩ := returns_init.mp h
  refine ⟨m.toString, m, hr, hs, hinv m, hacc.valid, ?_, ?_⟩
  · intro hversion
    have hproposed := hacc.proposed
    rw [proposal, if_neg (by simpa using hversion)] at hproposed
    exact hproposed
  · intro deps'
    exact (hacc.again hinv deps').returns

/-- A channel that comes without a version. -/
def blankChannel : IbcChannel := { sampleChannel "channel-0" sampleMetadata with version := "" }

/-- Without a version and with a failing connection query, the fallback is proposed again. -/
theorem negotiation_is_idempotent_sample :
    ∃ v m, Returns (ibcChannelOpen jsonReader sampleDeps (.openInit blankChannel))
        (Storage.fresh "admin") (some ⟨v⟩) (Storage.fresh "admin") ∧
      jsonReader.fromStr v = some m ∧
      ∀ deps, Returns (ibcChannelOpen jsonReader deps
        (.openInit { blankChannel with version := v })) (Storage.fresh "admin") (some ⟨v⟩)
        (Storage.fresh "admin") := by
  have hvalid : ValidFor (IcaMetadata.fromChannel jsonReader sampleDeps (Storage.fresh "admin")
      blankChannel) "connection-0" :=
    ⟨rfl, rfl, fun hne => absurd rfl hne, rfl⟩
  have hacc : InitAccepts jsonReader sampleDeps (Storage.fresh "admin") blankChannel _ :=
    ⟨rfl, rfl, rfl, validate_eq_ok.mpr hvalid, fun _ h => nomatch h⟩
  have hret := hacc.returns
  obtain ⟨v, m, hr, -, hdec, -, -, hagain⟩ :=
    negotiation_is_idempotent jsonReader_invertsToString hret
  rw [hr] at hret
  exact ⟨v, m, hret, hdec, hagain⟩

/-! ### The address -/

theorem AckAccepts.returns {cv : String} {st : ContractState}
    (h : AckAccepts serde s channel cv m st) :
    Returns (ibcChannelConnect serde (.openAck channel cv)) s {} (s.opened st channel m) :=
  returns_onAcknowledgement.mpr ⟨m, st, h, rfl, rfl⟩

/-- The addresses a host can have assigned. -/
structure HostAddress (address : String) : Prop where
  nonempty : 1 ≤ address.utf8ByteSize
  length : address.utf8ByteSize ≤ 128
  chars : ∀ c ∈ address.toList, c.isAlphanum = true

theorem HostAddress.ok {address : String} (h : HostAddress address) : AddressOk address :=
  ⟨h.length, fun c hc => Unicode.isAlphanumeric_of_isAlphanum (h.chars c hc)⟩

/-- An accepted address is one of those when it has only ASCII characters. -/
theorem hostAddress_iff {address : String} (hne : address ≠ "") (hok : AddressOk address) :
    HostAddress address ↔ ∀ c ∈ address.toList, c.toNat < 128 := by
  constructor
  · intro h c hc
    have hrange := Unicode.isAlphanum_iff.mp (h.chars c hc)
    omega
  · intro hascii
    have hsize : address.utf8ByteSize ≠ 0 := by simpa using hne
    exact ⟨by omega, hok.length, fun c hc =>
      Unicode.isAlphanum_of_ascii (hascii c hc) (hok.chars c hc)⟩

/-- `validate` finds fault with an address only if the address check does. -/
theorem validate_ne_invalidAddress (hok : AddressOk m.address) :
    m.validate channel ≠ .error .invalidAddress := by
  intro h
  have hchecked : validateIcaAddress m.address = .ok () := validateIcaAddress_eq_ok.mpr hok
  simp only [IcaMetadata.validate, hchecked, bind, Except.bind, throw, throwThe,
    MonadExceptOf.throw, pure, Except.pure, ite_self] at h
  -- what is left are the checks of the other three fields
  split at h
  · cases h
  · split at h
    · cases h
    · split at h
      · cases h
      · cases h

/--
**The stored address obeys the host's rule exactly when it is ASCII.**  The other way
round `validate` is right: no address that obeys the rule is rejected.
-/
theorem stored_address_iff {cv : String} {r : IbcBasicResponse}
    (h : Returns (ibcChannelConnect serde (.openAck channel cv)) s r s') :
    (∃ m st ica, serde.fromStr cv = some m ∧ s'.state = some st ∧ st.icaInfo = some ica ∧
      (HostAddress ica.icaAddress ↔ ∀ c ∈ m.address.toList, c.toNat < 128)) ∧
    ∀ (m : IcaMetadata) (channel : IbcChannel), HostAddress m.address →
      m.validate channel ≠ .error .invalidAddress := by
  obtain ⟨m, st, hacc, -, rfl⟩ := returns_onAcknowledgement.mp h
  have hok : AddressOk m.address := (validate_eq_ok.mp hacc.valid).address hacc.address
  exact ⟨⟨m, _, _, hacc.decoded, rfl, rfl, hostAddress_iff hacc.address hok⟩,
    fun _ _ haddress => validate_ne_invalidAddress haddress.ok⟩

/-- The sample account has such an address. -/
theorem stored_address_iff_sample :
    ∃ s st ica, Returns (ibcChannelConnect jsonReader (.openAck
        (sampleChannel "channel-0" sampleMetadata) sampleMetadata.toString))
        (Storage.fresh "admin") {} s ∧
      s.state = some st ∧ st.icaInfo = some ica ∧ HostAddress ica.icaAddress := by
  have hchan := sampleChannel_negotiable "channel-0" sampleMetadata_valid
  have hacc : AckAccepts jsonReader (Storage.fresh "admin") _ _ sampleMetadata _ :=
    .of_text jsonReader_invertsToString hchan.controllerPort hchan.valid (by decide) rfl
  obtain ⟨⟨m, st, ica, hdec, hst, hica, hiff⟩, -⟩ := stored_address_iff hacc.returns
  rw [jsonReader_invertsToString, Option.some.injEq] at hdec
  subst hdec
  exact ⟨_, st, ica, hacc.returns, hst, hica, hiff.mpr (by simp [sampleMetadata])⟩

/-- The sample metadata with a letter outside ASCII in its address. -/
def accentedMetadata : IcaMetadata := { sampleMetadata with address := "é" }

/-- Such a letter passes the check and is stored. -/
theorem accented_address_stored :
    ∃ s st ica, Returns (ibcChannelConnect jsonReader (.openAck
        (sampleChannel "channel-0" sampleMetadata) accentedMetadata.toString))
        (Storage.fresh "admin") {} s ∧
      s.state = some st ∧ st.icaInfo = some ica ∧ ica.icaAddress = "é" ∧
      ¬ HostAddress ica.icaAddress := by
  have hchan := sampleChannel_negotiable "channel-0" sampleMetadata_valid
  have hletter : Unicode.isAlphanumeric 'é' = true := by decide +kernel
  have haddress : AddressOk "é" := ⟨by decide, by simpa using hletter⟩
  have hacc : AckAccepts jsonReader (Storage.fresh "admin") _ _ accentedMetadata _ :=
    .of_text jsonReader_invertsToString hchan.controllerPort
      (sampleMetadata_valid.withAddress haddress) (by decide) rfl
  refine ⟨_, _, _, hacc.returns, rfl, rfl, rfl, ?_⟩
  intro h
  have hascii : 'é'.isAlphanum = true := h.chars 'é' List.mem_cons_self
  exact absurd hascii (by decide)

end IcaController
