/-
Closing a channel and opening the next one.

The account outlives its channels: a closed channel may be followed by another one
on the same terms.  Three handlers take part, and each of them reads the version
of a channel: `OpenInit` compares it with the stored one, `OpenAck` stores it as it
comes, and `CloseConfirm` compares it, with the rest of the channel, once more.
-/
import IcaController.Proofs.Records

namespace IcaController

open Exec

variable {serde : SerdeJsonWasm} {allowed : Rule} {past older : List ContractTurn}
  {s s' s₁ s₂ later : Storage} {t : ContractTurn} {deps deps' : Deps} {env env' : Env}
  {channel : IbcChannel} {cv v : String}

/-! ### The terms of the next channel

`OpenInit` holds a proposal against the stored version, and an `OpenAck` of its channel
takes the version over.  Where every `OpenAck` is of such a channel the terms go from one
stored channel to the next.
-/

/-- With a channel stored, every accepted proposal is on the terms its version decodes to. -/
theorem InitAccepts.stored_decodes {cs : ChannelState} {m : IcaMetadata}
    (h : InitAccepts serde deps s channel m) (hcs : s.channelState = some cs) :
    ∃ previous, serde.fromStr cs.channel.version = some previous ∧ SameTerms m previous :=
  isPreviousVersionEqual_iff.mp (h.previous cs hcs).2

/--
Every accepted `OpenAck` that found a channel stored was of a channel whose `OpenInit`
had found one stored too.
-/
def OffersSawStored (past : List ContractTurn) : Prop :=
  ∀ t older channel cv, (t :: older) <:+ past → t.openAck? = some (channel, cv) →
    t.before.channelState ≠ none →
      ∃ o ∈ older, ∃ opened, o.openInit? = some (opened, channel.version) ∧
        SameHandshake opened channel ∧ o.before.channelState ≠ none

theorem OffersSawStored.cons (h : OffersSawStored past)
    (ht : ∀ channel cv, t.openAck? = some (channel, cv) → t.before.channelState ≠ none →
      ∃ o ∈ past, ∃ opened, o.openInit? = some (opened, channel.version) ∧
        SameHandshake opened channel ∧ o.before.channelState ≠ none) :
    OffersSawStored (t :: past) := by
  intro t' older channel cv hsuffix hi hfound
  rcases List.suffix_cons_iff.mp hsuffix with heq | hsuffix
  · obtain ⟨rfl, rfl⟩ := List.cons.inj heq
    exact ht channel cv hi hfound
  · exact h t' older channel cv hsuffix hi hfound

/-- An accepted `OpenInit` that found a channel stored proposed its terms. -/
theorem ContractRuns.sameVersion_of_openInit {cs : ChannelState} (hinv : serde.InvertsToString)
    (h : ContractRuns serde allowed past s) (ht : (t :: older) <:+ past)
    (hi : t.openInit? = some (channel, v)) (hcs : t.before.channelState = some cs) :
    SameVersion serde v cs.channel.version := by
  obtain ⟨m, hacc, rfl⟩ := h.openInit ht hi
  obtain ⟨previous, hdec, hsame⟩ := hacc.stored_decodes hcs
  exact ⟨m, previous, hinv m, hdec, hsame⟩

/-- Every `OpenAck` accepted in a past was of a channel on the terms of `held`. -/
def AllOnTerms (serde : SerdeJsonWasm) (older : List ContractTurn) (held : IbcChannel) : Prop :=
  ∀ t ∈ older, ∀ acked cv, t.openAck? = some (acked, cv) →
    SameVersion serde acked.version held.version

/--
The next channel is on the terms of the stored one: its `OpenInit` compared them with
those of a channel whose `OpenAck` was accepted earlier still.
-/
theorem sameVersion_of_openAck {held : IbcChannel} {w : String} (hinv : serde.InvertsToString)
    (h : ContractRuns serde allowed past s) (hsaw : OffersSawStored past)
    (hle : (t :: older) <:+ past) (hi : t.openAck? = some (channel, cv))
    (hheld : older.findSome? ContractTurn.openAck? = some (held, w))
    (hterms : AllOnTerms serde older held) : SameVersion serde channel.version held.version := by
  have hrun := (h.of_suffix hle).1
  obtain ⟨status, hstored⟩ := hrun.stored_of_latest hheld
  obtain ⟨o, ho, opened, hopened, -, hfound⟩ := hsaw t older channel cv hle hi (by simp [hstored])
  obtain ⟨cs, hcs⟩ := Option.ne_none_iff_exists'.mp hfound
  obtain ⟨before, hbefore⟩ := exists_suffix_of_mem ho
  obtain ⟨v, hv⟩ := (hrun.of_suffix hbefore).1.latest_of_stored hcs
  obtain ⟨t₀, before₀, hbefore₀, ht₀⟩ := exists_latest hv
  have hmem : t₀ ∈ older :=
    hbefore.mem (List.mem_cons_of_mem o (hbefore₀.mem List.mem_cons_self))
  have hoffer : SameVersion serde channel.version cs.channel.version :=
    hrun.sameVersion_of_openInit hinv hbefore hopened hcs
  exact hoffer.trans (hterms t₀ hmem cs.channel v ht₀)

/-- All accepted channels are on the terms of the latest. -/
theorem allOnTerms_latest (hinv : serde.InvertsToString)
    (h : ContractRuns serde ackCarriesVersion past s) (hsaw : OffersSawStored past) :
    ∀ older, older <:+ past → ∀ channel cv,
      older.findSome? ContractTurn.openAck? = some (channel, cv) →
        AllOnTerms serde older channel := by
  intro older
  induction older with
  | nil =>
      intro _ channel cv _ t ht
      exact absurd ht List.not_mem_nil
  | cons t older ih =>
      intro hle channel cv hlatest
      have hih := ih ((List.suffix_cons t older).trans hle)
      cases hi : t.openAck? with
      | none =>
          rw [findSome?_of_none hi] at hlatest
          refine List.forall_mem_cons.mpr ⟨?_, hih channel cv hlatest⟩
          intro acked v hacked
          rw [hi] at hacked
          cases hacked
      | some ack =>
          rw [findSome?_of_some hi, Option.some.injEq] at hlatest
          subst hlatest
          refine List.forall_mem_cons.mpr ⟨?_, ?_⟩
          · intro acked v hacked
            rw [hi, Option.some.injEq] at hacked
            cases hacked
            obtain ⟨m, hm⟩ := h.proposed hinv hle hi
            exact .refl hm.decoded
          · intro t' ht' acked v hacked
            obtain ⟨held, w, hheld⟩ := exists_latest_of_mem ht' hacked
            have hterms := hih held w hheld
            have hnext := sameVersion_of_openAck hinv h hsaw hle hi hheld hterms
            exact (hterms t' ht' acked v hacked).trans hnext.symm

/--
**The terms are kept from channel to channel**, if every `OpenInit` saw a channel
stored whose `OpenAck` does.
-/
theorem terms_kept_across_channels (hinv : serde.InvertsToString)
    (h : ContractRuns serde ackCarriesVersion past s) (hsaw : OffersSawStored past) :
    ∀ t ∈ past, ∀ channel cv cs, t.openAck? = some (channel, cv) →
      t.before.channelState = some cs →
        SameVersion serde channel.version cs.channel.version := by
  intro t ht channel cv cs hi hcs
  obtain ⟨older, hsuffix⟩ := exists_suffix_of_mem ht
  obtain ⟨w, hw⟩ := (h.of_suffix hsuffix).1.latest_of_stored hcs
  obtain ⟨t₀, before₀, hbefore₀, ht₀⟩ := exists_latest hw
  have hmem : t₀ ∈ t :: older := List.mem_cons_of_mem t (hbefore₀.mem List.mem_cons_self)
  have hterms := allOnTerms_latest hinv h hsaw (t :: older) hsuffix channel cv
    (findSome?_of_some hi)
  exact (hterms t₀ hmem cs.channel w ht₀).symm

/-- A channel is opened, confirmed closed, and followed by another one. -/
theorem terms_kept_across_channels_sample :
    ∃ past s t channel cv cs, ContractRuns jsonReader ackCarriesVersion (t :: past) s ∧
      t.openAck? = some (channel, cv) ∧ t.before.channelState = some cs ∧
      SameVersion jsonReader channel.version cs.channel.version := by
  have hclose := sampleOpened_runs.hangUp sampleDeps sampleEnv rfl
  have hfresh : PeerEvent.opened "channel-1" ∉
      [PeerEvent.ended "channel-0", PeerEvent.opened "channel-0"] := by decide
  have hreopen := hclose.dial sampleDeps sampleEnv jsonReader_invertsToString
    (sampleChannel_negotiable "channel-1" sampleMetadata_valid)
    (.of_closed rfl rfl (jsonReader_invertsToString _)) (by decide) rfl hfresh
  have hrun := hreopen.mono fun _ _ hrule => hrule.1
  refine ⟨_, _, _, _, _, _, hrun, rfl, rfl, terms_kept_across_channels
    jsonReader_invertsToString hrun ?_ _ List.mem_cons_self _ _ _ rfl rfl⟩
  refine .cons (.cons (.cons (.cons (.cons ?_ ?_) ?_) ?_) ?_) ?_
  · intro t older channel cv hsuffix
    exact absurd (List.suffix_nil.mp hsuffix) (List.cons_ne_nil t older)
  · intro _ _ hi
    cases hi
  · intro _ _ hi hfound
    cases hi
    exact absurd rfl hfound
  · intro _ _ hi
    cases hi
  · intro _ _ hi
    cases hi
  · intro _ _ hi _
    cases hi
    exact ⟨_, List.mem_cons_self, _, rfl, ⟨rfl, rfl, rfl, rfl⟩, fun h => nomatch h⟩

/--
Two handshakes begun while nothing is stored propose different terms; the second
completes after the first channel was closed, and its terms are stored.
-/
theorem terms_change_across_channels :
    ∃ past s t channel cv cs, ContractRuns jsonReader ibcCore (t :: past) s ∧
      t.openAck? = some (channel, cv) ∧ t.before.channelState = some cs ∧
      jsonReader.fromStr channel.version = some driftedMetadata ∧
      jsonReader.fromStr cs.channel.version = some sampleMetadata ∧
      driftedMetadata.encoding ≠ sampleMetadata.encoding ∧
      driftedMetadata.hostConnectionId ≠ sampleMetadata.hostConnectionId := by
  have hzero := sampleChannel_negotiable "channel-0" sampleMetadata_valid
  have hone := sampleChannel_negotiable "channel-1" driftedMetadata_valid
  have hoffer := (ContractRuns.fresh "admin").offer sampleDeps sampleEnv
    jsonReader_invertsToString hzero (.of_none rfl)
  have hoffers := hoffer.offer sampleDeps sampleEnv jsonReader_invertsToString hone
    (.of_none rfl)
  have hanswer := hoffers.answer sampleDeps sampleEnv jsonReader_invertsToString hzero
    sampleMetadata_valid (by decide) rfl ⟨_, .tail _ (.head _), rfl⟩ List.not_mem_nil
  have hclose := hanswer.hangUp sampleDeps sampleEnv rfl
  have hfresh : PeerEvent.opened "channel-1" ∉
      [PeerEvent.ended "channel-0", PeerEvent.opened "channel-0"] := by decide
  have hanswers := hclose.answer sampleDeps sampleEnv jsonReader_invertsToString hone
    driftedMetadata_valid (by decide) rfl ⟨_, .tail _ (.tail _ (.head _)), rfl⟩ hfresh
  exact ⟨_, _, _, _, _, _, hanswers, rfl, rfl, jsonReader_invertsToString _,
    jsonReader_invertsToString _, by decide, by decide⟩

/-! ### Reopening a closed channel

A stored version that does not decode is equal to no proposal, so a channel stored with
one cannot be opened again.
-/

/-- `OpenInit` of the channel is accepted. -/
def OpensInit (serde : SerdeJsonWasm) (deps : Deps) (env : Env) (s : Storage)
    (channel : IbcChannel) : Prop :=
  ∃ a s', Returns (serve serde ⟨deps, env, .ibcChannelOpen (.openInit channel)⟩) s a s'

theorem opensInit_iff :
    OpensInit serde deps env s channel ↔ ∃ m, InitAccepts serde deps s channel m := by
  constructor
  · intro h
    obtain ⟨a, s', h⟩ := h
    obtain ⟨m, hacc, -⟩ := (effect_of_returns h).of_openInit
    exact ⟨m, hacc⟩
  · intro h
    obtain ⟨m, hacc⟩ := h
    exact ⟨_, _, Effect.returns (.openInit hacc)⟩

/-- The fallback proposes the stored channel's metadata, if its version still decodes. -/
theorem fromChannel_of_stored {cs : ChannelState} {m : IcaMetadata}
    (hcs : s.channelState = some cs) (hdec : serde.fromStr cs.channel.version = some m) :
    IcaMetadata.fromChannel serde deps s channel = m := by
  simp only [IcaMetadata.fromChannel, channelStateItem_find, hcs, hdec]

/--
**A closed contract can be reopened**, whatever the connection query answers, exactly
when the stored version decodes to metadata that is valid for the stored channel.
-/
theorem reopenable_iff (deps : Deps) (env : Env) (channel : IbcChannel) {cs : ChannelState}
    (hcs : s.channelState = some cs) (hclosed : cs.channelStatus = .closed)
    (hord : channel.order = .ordered) (hport : channel.counterpartyEndpoint.portId = hostPortId)
    (hconn : channel.connectionId = cs.channel.connectionId) :
    ((∃ v, OpensInit serde deps env s { channel with version := v }) ∧
        OpensInit serde deps env s { channel with version := "" }) ↔
      ∃ m, serde.fromStr cs.channel.version = some m ∧ m.validate cs.channel = .ok () := by
  constructor
  · intro h
    obtain ⟨-, hempty⟩ := h
    obtain ⟨m, hacc⟩ := opensInit_iff.mp hempty
    obtain ⟨previous, hdec, -⟩ := hacc.stored_decodes hcs
    have hm : m = previous := by
      have hproposed : some (IcaMetadata.fromChannel serde deps s _) = some m := hacc.proposed
      rw [fromChannel_of_stored hcs hdec, Option.some.injEq] at hproposed
      exact hproposed.symm
    have hvalid : ValidFor m channel.connectionId := validate_eq_ok.mp hacc.valid
    rw [hconn, hm] at hvalid
    exact ⟨previous, hdec, validate_eq_ok.mpr hvalid⟩
  · intro h
    obtain ⟨m, hdec, hvalid⟩ := h
    have hfor : ValidFor m channel.connectionId := by
      rw [hconn]
      exact validate_eq_ok.mp hvalid
    have hempty : OpensInit serde deps env s { channel with version := "" } := by
      refine opensInit_iff.mpr ⟨m, hord, hport, ?_, validate_eq_ok.mpr hfor, ?_⟩
      · exact congrArg some (fromChannel_of_stored hcs hdec)
      · intro stored hstored
        rw [hcs, Option.some.injEq] at hstored
        subst hstored
        exact ⟨by simp [ChannelState.isOpen, hclosed],
          isPreviousVersionEqual_iff.mpr ⟨m, hdec, .refl m⟩⟩
    exact ⟨⟨"", hempty⟩, hempty⟩

/-- The sample contract after its channel was closed. -/
def sampleClosed : Storage :=
  sampleOpened.shut (.newOpenChannel (sampleChannel "channel-0" sampleMetadata))

theorem reopenable_iff_sample :
    OpensInit jsonReader sampleDeps sampleEnv sampleClosed
      { sampleChannel "channel-1" sampleMetadata with version := "" } := by
  have hstored : sampleClosed.channelState =
      some (ChannelState.newOpenChannel (sampleChannel "channel-0" sampleMetadata)).close := rfl
  have hdec : jsonReader.fromStr (sampleChannel "channel-0" sampleMetadata).version =
      some sampleMetadata := jsonReader_invertsToString sampleMetadata
  exact ((reopenable_iff sampleDeps sampleEnv (sampleChannel "channel-1" sampleMetadata) hstored
    rfl rfl rfl rfl).mpr ⟨sampleMetadata, hdec, validate_eq_ok.mpr sampleMetadata_valid⟩).2

/-- The sample version as the fee middleware hands it on. -/
def wrappedVersion : String :=
  String.ofList (Json.obj [("fee_version", .str "ics29-1"),
    ("app_version", .str sampleMetadata.toString)]).print

def wrappedChannel : IbcChannel :=
  { sampleChannel "channel-0" sampleMetadata with version := wrappedVersion }

theorem wrappedChannel_version : wrappedChannel.version = wrappedVersion := by
  unfold wrappedChannel
  rfl

theorem fromStr_wrappedVersion : jsonReader.fromStr wrappedVersion = none := by
  rw [jsonReader_fromStr]
  simp only [wrappedVersion, String.toList_ofList, Json.parse_print]
  rfl

/-- A channel stored under a wrapped version is closed, and nothing is accepted after it. -/
theorem wrapped_version_blocks_reopening :
    ∃ past s cs, ContractRuns jsonReader ackPerInit past s ∧ s.channelState = some cs ∧
      cs.channelStatus = .closed ∧ cs.channel.version = wrappedVersion ∧
      ∀ deps env channel, ¬ OpensInit jsonReader deps env s channel := by
  have hchan := sampleChannel_negotiable "channel-0" sampleMetadata_valid
  have hoffer := (ContractRuns.fresh "admin").offer sampleDeps sampleEnv
    jsonReader_invertsToString hchan (.of_none rfl)
  have hstored : Effect jsonReader (Storage.fresh "admin") ⟨sampleDeps, sampleEnv,
      .ibcChannelConnect (.openAck wrappedChannel sampleMetadata.toString)⟩ (.basic {})
      ((Storage.fresh "admin").opened (ContractState.new "admin") wrappedChannel sampleMetadata) :=
    .openAck (.of_text jsonReader_invertsToString hchan.controllerPort sampleMetadata_valid
      (by decide) rfl)
  have hanswer := (hoffer.mono fun _ _ => ackPerInit_of_ibcCore).accept (by
    constructor
    · intro _ _ h
      cases h
      exact ⟨_, List.mem_cons_self, _, _, rfl, ⟨rfl, rfl, rfl, rfl⟩⟩
    · intro _ _ h
      cases h
      exact List.not_mem_nil) hstored
  have hclose := hanswer.accept (by
    constructor
    · intro _ _ h
      cases h
    · intro _ _ h
      cases h) (@Effect.closeConfirm _ _ sampleDeps sampleEnv (.newOpenChannel _) rfl)
  refine ⟨_, _, (ChannelState.newOpenChannel wrappedChannel).close, hclose, rfl, rfl, ?_, ?_⟩
  · exact wrappedChannel_version
  intro deps env channel hopens
  obtain ⟨m, hacc⟩ := opensInit_iff.mp hopens
  obtain ⟨previous, hdec, -⟩ := hacc.stored_decodes rfl
  have hnone : jsonReader.fromStr wrappedVersion = some previous := hdec
  rw [fromStr_wrappedVersion] at hnone
  cases hnone

/-! ### Closing an open channel

The version stored at `OpenAck` is the proposal.  A `CloseConfirm` comes with what the host
answered, and the two may differ in the address.
-/

/-- Without another `OpenAck` the stored channel stays the same. -/
theorem channel_of_runs {cs : ChannelState}
    (h : (contract serde).Runs allowed s₁ past s₂) (hcs : s₁.channelState = some cs)
    (hno : ∀ t ∈ past, t.openAck? = none) :
    ∃ status, s₂.channelState = some ⟨cs.channel, status⟩ := by
  refine h.induction_accepted (fun past s => (∀ t ∈ past, ContractTurn.openAck? t = none) →
    ∃ status, s.channelState = some ⟨cs.channel, status⟩) (fun _ => ⟨_, hcs⟩) ?_ ?_ hno
  · intro past s i a s' _ _ hinv hret hno
    obtain ⟨hturn, hpast⟩ := List.forall_mem_cons.mp hno
    obtain ⟨status, hstored⟩ := hinv hpast
    cases effect_of_returns hret with
    | execute _ => exact ⟨status, hstored⟩
    | query _ => exact ⟨status, hstored⟩
    | openInit _ => exact ⟨status, hstored⟩
    | openAck _ => cases hturn
    | closeConfirm hsame =>
        rw [hstored, Option.some.injEq] at hsame
        subst hsame
        exact ⟨.closed, rfl⟩
    | ack _ _ _ => exact ⟨status, hstored⟩
    | timeout _ _ hsame =>
        rw [hstored, Option.some.injEq] at hsame
        subst hsame
        exact ⟨.closed, rfl⟩
  · intro past s i e _ _ hinv hno
    exact hinv (List.forall_mem_cons.mp hno).2

/-- `CloseConfirm` is accepted of the stored channel, letter by letter. -/
theorem channel_of_closeConfirm {cs : ChannelState} {a : Answer} (hcs : s.channelState = some cs)
    (hret : Returns (serve serde ⟨deps, env, .ibcChannelClose (.closeConfirm channel)⟩) s a s') :
    cs.channel = channel := by
  obtain ⟨cs', hcs', hchannel, -⟩ := (effect_of_returns hret).of_closeConfirm
  rw [hcs, Option.some.injEq] at hcs'
  rw [hcs', hchannel]

/--
**The counterparty can close the channel** it answered for, any time before another
`OpenAck`, exactly when its answer was the proposal to the letter: `CloseConfirm`
compares the version too, and the one it brings is the answer.
-/
theorem close_confirmed_iff {a : Answer} (deps' : Deps) (env' : Env)
    (hack : Returns (serve serde ⟨deps, env, .ibcChannelConnect (.openAck channel cv)⟩) s a s₁)
    (hrun : (contract serde).Runs anyCall s₁ past s₂) (hno : ∀ t ∈ past, t.openAck? = none) :
    (∃ b s₃ cs, Returns (serve serde ⟨deps', env', .ibcChannelClose
          (.closeConfirm { channel with version := cv })⟩) s₂ b s₃ ∧
        s₃.channelState = some cs ∧ cs.channelStatus = .closed) ↔ channel.version = cv := by
  obtain ⟨m, st, -, rfl⟩ := (effect_of_returns hack).of_openAck
  have hstored : (s.opened st channel m).channelState = some (.newOpenChannel channel) := rfl
  obtain ⟨status, hcs⟩ := channel_of_runs hrun hstored hno
  constructor
  · intro h
    obtain ⟨b, s₃, cs, hret, -, -⟩ := h
    exact congrArg IbcChannel.version (channel_of_closeConfirm hcs hret)
  · intro hversion
    have hsame : { channel with version := cv } = channel := by rw [← hversion]
    rw [hsame]
    exact ⟨_, _, _, Effect.returns (.closeConfirm hcs), rfl, rfl⟩

/-- The sample channel is sent on, its packet times out, and it is confirmed closed all the same. -/
theorem close_confirmed_iff_sample :
    ∃ b s₃ cs, Returns (serve jsonReader ⟨sampleDeps, sampleEnv, .ibcChannelClose
        (.closeConfirm { sampleChannel "channel-0" sampleMetadata with
          version := sampleMetadata.toString })⟩)
        ((contract jsonReader).final sampleOpened [sampleSendCall, sampleTimeoutCall]) b s₃ ∧
      s₃.channelState = some cs ∧ cs.channelStatus = .closed := by
  have hrun := Machine.runs_trace (.start : (contract jsonReader).Runs anyCall sampleOpened [] _)
    [sampleSendCall, sampleTimeoutCall]
  have hno : ∀ t ∈ ((contract jsonReader).trace sampleOpened
      [sampleSendCall, sampleTimeoutCall]).reverse ++ [], ContractTurn.openAck? t = none :=
    List.forall_mem_cons.mpr ⟨rfl, List.forall_mem_singleton.mpr rfl⟩
  exact (close_confirmed_iff sampleDeps sampleEnv sampleAnswer_effect.returns hrun hno).mpr rfl

/--
The host fills in the account's address, as it has to, and from then on no
`CloseConfirm` that brings its answer is accepted.
-/
theorem honest_close_rejected :
    ∃ past s t, ContractRuns jsonReader ibcCore (t :: past) s ∧
      t.openAck? = some (sampleChannel "channel-0" blankMetadata, sampleMetadata.toString) ∧
      ∀ deps env a s', ¬ Returns (serve jsonReader ⟨deps, env, .ibcChannelClose
        (.closeConfirm { sampleChannel "channel-0" blankMetadata with
          version := sampleMetadata.toString })⟩) s a s' := by
  have hchan := sampleChannel_negotiable "channel-0" blankMetadata_valid
  have hoffer := (ContractRuns.fresh "admin").offer sampleDeps sampleEnv
    jsonReader_invertsToString hchan (.of_none rfl)
  have hanswer := hoffer.answer sampleDeps sampleEnv jsonReader_invertsToString hchan
    sampleMetadata_valid (by decide) rfl ⟨_, List.mem_cons_self, rfl⟩ List.not_mem_nil
  refine ⟨_, _, _, hanswer, rfl, ?_⟩
  intro deps env a s' hret
  have hchannel := channel_of_closeConfirm rfl hret
  have hversion := congrArg IbcChannel.version hchannel
  simp only [ChannelState.channel_newOpenChannel, sampleChannel_version] at hversion
  have hdec := jsonReader_invertsToString blankMetadata
  rw [hversion, jsonReader_invertsToString, Option.some.injEq] at hdec
  exact absurd (congrArg IcaMetadata.address hdec) (by decide)

end IcaController
