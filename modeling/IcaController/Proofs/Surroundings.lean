/-
What the contract asks of its chain.

A call comes with a clock, an address checker and a querier.  Only `execute` looks at
the clock, nothing but an instantiation checks an address, and the querier is asked
one thing only: the counterparty of a connection, by an `OpenInit` that has no version
and no stored channel to take one from.  So the surroundings of a call can be exchanged
without storage noticing, and the querier names the host connection of such an offer
and decides nothing else.
-/
import IcaController.Proofs.Formats
import IcaController.Proofs.Independence
import IcaController.Proofs.Negotiation
import IcaController.Proofs.Reopen

namespace IcaController

open Exec

variable {serde : SerdeJsonWasm} {allowed : Rule} {past : List ContractTurn} {s : Storage}
  {i j : Invocation} {deps deps' : Deps} {env env' : Env} {channel : IbcChannel}

/-! ### Offers without a version -/

/-- No stored channel has a version that could be offered again. -/
def NothingToResume (serde : SerdeJsonWasm) (s : Storage) : Prop :=
  ∀ cs, s.channelState = some cs → serde.fromStr cs.channel.version = none

/-- The metadata of an offer that nothing is known for but the two connections. -/
def firstOffer (connectionId hostConnectionId : String) : IcaMetadata where
  version := icaVersion
  controllerConnectionId := connectionId
  hostConnectionId := hostConnectionId
  address := ""
  encoding := .proto3Json
  txType := "sdk_multi_msg"

/-- The offer with the host connection the querier names, or with none. -/
def askedOffer (deps : Deps) (channel : IbcChannel) : IcaMetadata :=
  firstOffer channel.connectionId
    (unwrapOrDefault (counterpartyConnectionId deps channel.connectionId))

theorem fromChannel_first (h : NothingToResume serde s) :
    IcaMetadata.fromChannel serde deps s channel = askedOffer deps channel := by
  unfold IcaMetadata.fromChannel
  rw [channelStateItem_find]
  cases hcs : s.channelState with
  | none => rfl
  | some cs =>
      simp only [h cs hcs]
      rfl

/-- What can be resumed is resumed, without a question. -/
theorem fromChannel_resumed (h : ¬ NothingToResume serde s) :
    IcaMetadata.fromChannel serde deps s channel =
      IcaMetadata.fromChannel serde deps' s channel := by
  obtain ⟨cs, hcs, m, hdec⟩ : ∃ cs, s.channelState = some cs ∧
      ∃ m, serde.fromStr cs.channel.version = some m := by
    simpa [NothingToResume, ← Option.ne_none_iff_exists'] using h
  rw [fromChannel_of_stored hcs hdec, fromChannel_of_stored hcs hdec]

theorem askedOffer_valid : (askedOffer deps channel).validate channel = .ok () :=
  validate_eq_ok.mpr ⟨rfl, rfl, fun hne => absurd rfl hne, rfl⟩

/-- What an `OpenInit` answers that offers `m` where nothing can be resumed. -/
def firstAnswer (s : Storage) (channel : IbcChannel) (m : IcaMetadata) : Except Fault Answer :=
  if channel.order ≠ .ordered then .error (.err .invalidChannelOrdering)
  else if channel.counterpartyEndpoint.portId ≠ hostPortId then .error (.err .invalidHostPort)
  else
    match s.channelState with
    | none => .ok (.channelOpen (some ⟨m.toString⟩))
    | some cs =>
        if cs.isOpen then .error (.err .activeChannelAlreadySet)
        else .error (.err (.invalidVersion cs.channel.version m.toString))

theorem turn_of_fails_init {e : Fault}
    (h : Fails (IbcChannelOpen.init serde deps channel) s e s) :
    (contract serde).turn s ⟨deps, env, .ibcChannelOpen (.openInit channel)⟩ =
      ⟨s, ⟨deps, env, .ibcChannelOpen (.openInit channel)⟩, .error e, s⟩ := by
  have hserve : Fails (serve serde ⟨deps, env, .ibcChannelOpen (.openInit channel)⟩) s e s :=
    fails_map.mpr h
  rw [contract, Machine.turn_of_fails hserve]

theorem turn_first (hblank : channel.version = "") (h : NothingToResume serde s) :
    (contract serde).turn s ⟨deps, env, .ibcChannelOpen (.openInit channel)⟩ =
      ⟨s, ⟨deps, env, .ibcChannelOpen (.openInit channel)⟩,
        firstAnswer s channel (askedOffer deps channel), s⟩ := by
  have hver : channel.version.isEmpty = true := by simp [hblank]
  have hm := @fromChannel_first serde s deps channel h
  have hvalid := @askedOffer_valid deps channel
  unfold firstAnswer
  by_cases hord : channel.order = .ordered
  · by_cases hport : channel.counterpartyEndpoint.portId = hostPortId
    · rw [if_neg (not_not.mpr hord), if_neg (not_not.mpr hport)]
      cases hcs : s.channelState with
      | none =>
          have hacc : InitAccepts serde deps s channel (askedOffer deps channel) :=
            { ordered := hord
              hostPort := hport
              proposed := by rw [proposal, if_pos hver, hm]
              valid := hvalid
              previous := by
                intro cs hstored
                rw [hcs] at hstored
                cases hstored }
          rw [contract, Machine.turn_of_returns (Effect.openInit hacc).returns]
      | some cs =>
          have hnot : (askedOffer deps channel).isPreviousVersionEqual serde cs.channel.version =
              false := by
            rw [IcaMetadata.isPreviousVersionEqual, h cs hcs]
          by_cases hopen : cs.isOpen = true
          · simp only [if_pos hopen]
            refine turn_of_fails_init ?_
            simp [IbcChannelOpen.init, IbcChannelOpen.checkPrevious, hord, hport, hver, hm, hvalid,
              hcs, hopen, orErr]
          · simp only [if_neg hopen]
            refine turn_of_fails_init ?_
            simp [IbcChannelOpen.init, IbcChannelOpen.checkPrevious, hord, hport, hver, hm, hvalid,
              hcs, hopen, hnot, orErr]
    · rw [if_neg (not_not.mpr hord), if_pos hport]
      refine turn_of_fails_init ?_
      simp [IbcChannelOpen.init, hord, hport]
  · rw [if_pos hord]
    refine turn_of_fails_init ?_
    simp [IbcChannelOpen.init, hord]

/-! ### Other surroundings -/

/-- The same call in other surroundings; one that spends has the same clock. -/
structure SameRequest (i j : Invocation) : Prop where
  entry : j.entry = i.entry
  clock : ∀ info msg, i.entry = .execute info msg → j.env = i.env

/--
What two such calls answer in the storage `s`: the same, but where the querier is
asked; then what it said is in the version offered, or in the text of the error.
-/
inductive SameAnswer (serde : SerdeJsonWasm) (s : Storage) (i j : Invocation) :
    Except Fault Answer → Except Fault Answer → Prop
  | same (r : Except Fault Answer) : SameAnswer serde s i j r r
  | offer {channel : IbcChannel} (hentry : i.entry = .ibcChannelOpen (.openInit channel))
      (hblank : channel.version = "") (hnone : s.channelState = none) :
      SameAnswer serde s i j (.ok (.channelOpen (some ⟨(askedOffer i.deps channel).toString⟩)))
        (.ok (.channelOpen (some ⟨(askedOffer j.deps channel).toString⟩)))
  | mismatch {channel : IbcChannel} {cs : ChannelState}
      (hentry : i.entry = .ibcChannelOpen (.openInit channel)) (hblank : channel.version = "")
      (hcs : s.channelState = some cs) (hdec : serde.fromStr cs.channel.version = none) :
      SameAnswer serde s i j
        (.error (.err (.invalidVersion cs.channel.version (askedOffer i.deps channel).toString)))
        (.error (.err (.invalidVersion cs.channel.version (askedOffer j.deps channel).toString)))

theorem sameAnswer_first (hentry : i.entry = .ibcChannelOpen (.openInit channel))
    (hblank : channel.version = "") (h : NothingToResume serde s) :
    SameAnswer serde s i j (firstAnswer s channel (askedOffer i.deps channel))
      (firstAnswer s channel (askedOffer j.deps channel)) := by
  unfold firstAnswer
  by_cases hord : channel.order = .ordered
  · rw [if_neg (not_not.mpr hord), if_neg (not_not.mpr hord)]
    by_cases hport : channel.counterpartyEndpoint.portId = hostPortId
    · rw [if_neg (not_not.mpr hport), if_neg (not_not.mpr hport)]
      cases hcs : s.channelState with
      | none => exact .offer hentry hblank hcs
      | some cs =>
          by_cases hopen : cs.isOpen = true
          · simp only [if_pos hopen]
            exact .same _
          · simp only [if_neg hopen]
            exact .mismatch hentry hblank hcs (h cs hcs)
    · rw [if_pos hport, if_pos hport]
      exact .same _
  · rw [if_pos hord, if_pos hord]
    exact .same _

/-- An `OpenInit` that need not ask is answered as in any other surroundings. -/
theorem turn_openInit_unasked (h : channel.version = "" → ¬ NothingToResume serde s) :
    SameAnswer serde s ⟨deps, env, .ibcChannelOpen (.openInit channel)⟩
        ⟨deps', env', .ibcChannelOpen (.openInit channel)⟩
        ((contract serde).turn s ⟨deps, env, .ibcChannelOpen (.openInit channel)⟩).answer
        ((contract serde).turn s ⟨deps', env', .ibcChannelOpen (.openInit channel)⟩).answer ∧
      ((contract serde).turn s ⟨deps, env, .ibcChannelOpen (.openInit channel)⟩).after =
        ((contract serde).turn s ⟨deps', env', .ibcChannelOpen (.openInit channel)⟩).after := by
  have hinit : Relates (fun s₁ s₂ => s₁ = s ∧ s₂ = s) Eq (IbcChannelOpen.init serde deps channel)
      (IbcChannelOpen.init serde deps' channel) := by
    refine relates_init (mayLoadsChannel_of ?_) ?_
    · rintro _ _ ⟨rfl, rfl⟩
      rfl
    · rintro hver _ _ ⟨rfl, rfl⟩
      exact fromChannel_resumed (h (by simpa using hver))
  have hserve : Relates (fun s₁ s₂ => s₁ = s ∧ s₂ = s) Eq
      (serve serde ⟨deps, env, .ibcChannelOpen (.openInit channel)⟩)
      (serve serde ⟨deps', env', .ibcChannelOpen (.openInit channel)⟩) :=
    hinit.mapEq
  obtain ⟨hanswer, hleft, hright⟩ := hserve.settle ⟨rfl, rfl⟩
  rw [Except.both_eq] at hanswer
  refine ⟨?_, hleft.trans hright.symm⟩
  show SameAnswer serde s _ _ (settle _ s).1 (settle _ s).1
  rw [hanswer]
  exact .same _

/-- What one call shows of its surroundings. -/
theorem turn_same (h : SameRequest i j) :
    SameAnswer serde s i j ((contract serde).turn s i).answer ((contract serde).turn s j).answer ∧
      ((contract serde).turn s i).after = ((contract serde).turn s j).after := by
  obtain ⟨deps, env, entry⟩ := i
  obtain ⟨deps', env', entry'⟩ := j
  obtain rfl : entry = entry' := h.entry.symm
  cases entry with
  | execute info msg =>
      obtain rfl : env = env' := (h.clock info msg rfl).symm
      exact ⟨.same _, rfl⟩
  | query msg => exact ⟨.same _, rfl⟩
  | ibcChannelOpen msg =>
      cases msg with
      | openInit channel =>
          by_cases hblank : channel.version = ""
          · by_cases hnothing : NothingToResume serde s
            · rw [turn_first hblank hnothing, turn_first hblank hnothing]
              exact ⟨sameAnswer_first rfl hblank hnothing, rfl⟩
            · exact turn_openInit_unasked fun _ => hnothing
          · exact turn_openInit_unasked fun hempty => absurd hempty hblank
      | openTry channel cv => exact ⟨.same _, rfl⟩
  | ibcChannelConnect msg => exact ⟨.same _, rfl⟩
  | ibcChannelClose msg => exact ⟨.same _, rfl⟩
  | ibcPacketAck msg => exact ⟨.same _, rfl⟩
  | ibcPacketTimeout msg => exact ⟨.same _, rfl⟩
  | ibcPacketReceive msg => exact ⟨.same _, rfl⟩

/-- Turns of two runs in other surroundings. -/
structure SameTurn (serde : SerdeJsonWasm) (t u : ContractTurn) : Prop where
  before : u.before = t.before
  call : SameRequest t.call u.call
  answer : SameAnswer serde t.before t.call u.call t.answer u.answer
  after : u.after = t.after

/--
**The surroundings decide nothing.**  Exchange the querier and the address checker of
any calls, and the clock of those that do not spend: the calls are accepted and turned
down as before, with the same packets, the same errors and the same storage after each.
Only an `OpenInit` that has no version of its own and none to resume shows what the
querier said, in the host connection it names.
-/
theorem surroundings_unnoticed (s : Storage) {calls calls' : List Invocation}
    (h : List.Forall₂ SameRequest calls calls') :
    List.Forall₂ (SameTurn serde) ((contract serde).trace s calls)
        ((contract serde).trace s calls') ∧
      (contract serde).final s calls = (contract serde).final s calls' := by
  refine Machine.trace_alike ?_ h s
  intro s i j hsame
  obtain ⟨hanswer, hafter⟩ := @turn_same serde s i j hsame
  exact ⟨⟨rfl, hsame, hanswer, hafter.symm⟩, hafter⟩

/-- An offer without a version. -/
def blankCall (deps : Deps) (env : Env) : Invocation :=
  ⟨deps, env, .ibcChannelOpen (.openInit blankChannel)⟩

/-- A host whose address checker fails, and whose querier names a connection. -/
def otherDeps : Deps where
  addrValidate _ := .error (.genericErr "no checker")
  query _ := .ok ⟨⟨⟨"connection-7"⟩⟩⟩

/-- A first offer, and the sample handshake's answer, with another querier and later. -/
theorem surroundings_unnoticed_sample :
    (contract jsonReader).final (Storage.fresh "admin")
        [blankCall otherDeps ⟨⟨⟨1⟩⟩⟩, sampleAnswerCall] = sampleOpened ∧
      List.Forall₂ (SameTurn jsonReader)
        ((contract jsonReader).trace (Storage.fresh "admin")
          [blankCall sampleDeps sampleEnv, sampleAnswerCall])
        ((contract jsonReader).trace (Storage.fresh "admin")
          [blankCall otherDeps ⟨⟨⟨1⟩⟩⟩, sampleAnswerCall]) := by
  have hsame : SameRequest (blankCall sampleDeps sampleEnv) (blankCall otherDeps ⟨⟨⟨1⟩⟩⟩) := by
    refine ⟨rfl, ?_⟩
    intro info msg hentry
    cases hentry
  obtain ⟨hturns, hfinal⟩ := @surroundings_unnoticed jsonReader (Storage.fresh "admin")
    [blankCall sampleDeps sampleEnv, sampleAnswerCall]
    [blankCall otherDeps ⟨⟨⟨1⟩⟩⟩, sampleAnswerCall]
    (.cons hsame (.cons ⟨rfl, fun _ _ _ => rfl⟩ .nil))
  have hfirst : NothingToResume jsonReader (Storage.fresh "admin") := by
    intro cs hcs
    cases hcs
  refine ⟨?_, hturns⟩
  rw [← hfinal, Machine.final, Machine.final, Machine.final, blankCall, turn_first rfl hfirst,
    sampleAnswer_effect.turn]

/-! ### A chain that serves its connections -/

/-- The connection a query asks about, if it is the query of a connection. -/
def StargateQuery.connection? (q : StargateQuery) : Option String :=
  if q.path = "/ibc.core.connection.v1.Query/Connection" then connectionAsked q.data else none

/-- The querier knows the counterparties of the chain's connections. -/
structure ServesConnections (counterparty : String → Option String) (deps : Deps) : Prop where
  known : ∀ q id host, q.connection? = some id → counterparty id = some host →
    deps.query q = .ok ⟨⟨⟨host⟩⟩⟩
  unknown : ∀ q id, q.connection? = some id → counterparty id = none →
    ∃ e, deps.query q = .error e

/-- The request's bytes ask for the connection they were made of. -/
theorem connectionAsked_stringField (id : String) :
    connectionAsked (Protobuf.stringField 1 id) = some id := by
  have hfields : Protobuf.readFields (Protobuf.stringField 1 id) =
      some (Protobuf.scalar 1 id.utf8) := by
    rw [Protobuf.stringField, Protobuf.bytesField_eq, Protobuf.readFields_encodeFields]
  have hdeclared : declaredFields [1] (Protobuf.scalar 1 id.utf8) = true :=
    declaredFields_scalar rfl _
  rw [connectionAsked, hfields, Option.bind_eq_bind, Option.bind_some, if_pos hdeclared,
    Protobuf.stringOf_eq rfl]

theorem askedOffer_served {counterparty : String → Option String}
    (h : ServesConnections counterparty deps) : askedOffer deps channel =
      firstOffer channel.connectionId ((counterparty channel.connectionId).getD "") := by
  have hasks : StargateQuery.connection? ⟨"/ibc.core.connection.v1.Query/Connection",
      Protobuf.stringField 1 channel.connectionId⟩ = some channel.connectionId := by
    rw [StargateQuery.connection?, if_pos rfl, connectionAsked_stringField]
  unfold askedOffer counterpartyConnectionId
  cases hhost : counterparty channel.connectionId with
  | some host =>
      simp only [h.known _ _ _ hasks hhost]
      rfl
  | none =>
      obtain ⟨e, he⟩ := h.unknown _ _ hasks hhost
      simp only [he]
      rfl

/--
**A first offer names the host connection.**  Before any `OpenAck` was accepted, and on
a chain that serves its connections, an `OpenInit` without a version is turned down
only for its order or its host port; and the version it returns reads as an offer for
its connection, with the counterparty the chain has for it, or with none.
-/
theorem first_offer_names_host (hinv : serde.InvertsToString)
    (hrun : ContractRuns serde allowed past s) (hfirst : ∀ t ∈ past, t.openAck? = none)
    {counterparty : String → Option String} (hserves : ServesConnections counterparty i.deps)
    (hentry : i.entry = .ibcChannelOpen (.openInit channel)) (hblank : channel.version = "") :
    ∃ version, serde.fromStr version =
        some (firstOffer channel.connectionId ((counterparty channel.connectionId).getD "")) ∧
      ((contract serde).turn s i).answer =
        if channel.order ≠ .ordered then .error (.err .invalidChannelOrdering)
        else if channel.counterpartyEndpoint.portId ≠ hostPortId then
          .error (.err .invalidHostPort)
        else .ok (.channelOpen (some ⟨version⟩)) := by
  have hnone : s.channelState = none := by
    cases hcs : s.channelState with
    | none => rfl
    | some cs =>
        obtain ⟨cv, hlatest⟩ := hrun.latest_of_stored hcs
        obtain ⟨t, ht, hack⟩ := List.exists_of_findSome?_eq_some hlatest
        rw [hfirst t ht] at hack
        cases hack
  have hnothing : NothingToResume serde s := by
    intro cs hcs
    rw [hnone] at hcs
    cases hcs
  obtain ⟨deps, env, entry⟩ := i
  obtain rfl : entry = .ibcChannelOpen (.openInit channel) := hentry
  refine ⟨(askedOffer deps channel).toString, ?_, ?_⟩
  · rw [hinv, askedOffer_served hserves]
  · rw [turn_first hblank hnothing, firstAnswer, hnone]

/-- The connections of a sample chain. -/
def sampleCounterparty (id : String) : Option String :=
  if id = "connection-0" then some "connection-1" else none

/-- A host that serves them. -/
def servingDeps : Deps where
  addrValidate input := .ok input
  query q :=
    match q.connection?.bind sampleCounterparty with
    | some host => .ok ⟨⟨⟨host⟩⟩⟩
    | none => .error (.genericErr "no such connection")

theorem servingDeps_serves : ServesConnections sampleCounterparty servingDeps where
  known q id host hid hhost := by simp [servingDeps, hid, hhost]
  unknown q id hid hhost := ⟨.genericErr "no such connection", by simp [servingDeps, hid, hhost]⟩

theorem first_offer_names_host_sample : ∃ version,
    jsonReader.fromStr version = some (firstOffer "connection-0" "connection-1") ∧
      ((contract jsonReader).turn (Storage.fresh "admin")
        ⟨servingDeps, sampleEnv, .ibcChannelOpen (.openInit blankChannel)⟩).answer =
          .ok (.channelOpen (some ⟨version⟩)) :=
  @first_offer_names_host jsonReader anyCall [] (Storage.fresh "admin")
    ⟨servingDeps, sampleEnv, .ibcChannelOpen (.openInit blankChannel)⟩ blankChannel
    jsonReader_invertsToString (.fresh "admin")
    (fun _ h => absurd h List.not_mem_nil) sampleCounterparty servingDeps_serves rfl rfl

end IcaController
