/-
The contract over bytes is the contract over records.

Storage is pictured by the bytes of its records, each under the key of its item.
The items keep the picture: what they print they read, and writing one key leaves
the others.  So each entry point, written over the items, relates to the one written
over records, and the two contracts answer every list of calls alike.  What is known
of the one is known of the other, and no stored record ever fails to read.
-/
import IcaController.Proofs.Alike
import IcaController.Proofs.Dial
import IcaController.Proofs.RecordFormats

namespace IcaController

open Exec

variable {store : StoreSerde} {serde : SerdeJsonWasm} {deps : Deps} {env : Env}
  {info : MessageInfo} {i : Invocation}

/-! ### The picture -/

/-- The bytes of the records, each under its key. -/
def Storage.bytes (s : Storage) : KeyValue := fun key =>
  if key = "contract_info" then s.contractInfo.map fun v => jsonBytes v.toJson
  else if key = "state" then s.state.map fun st => jsonBytes st.toJson
  else if key = "ica_channel" then s.channelState.map fun cs => jsonBytes cs.toJson
  else if key = "callback_counter" then s.callbackCounter.map fun c => jsonBytes c.toJson
  else none

theorem empty_bytes : Storage.empty.bytes = KeyValue.empty := by
  funext key
  simp [Storage.bytes, Storage.empty, KeyValue.empty]

/-- The store is the picture of storage. -/
abbrev Pictures (s : Storage) (kv : KeyValue) : Prop := kv = s.bytes

theorem keeps_contractInfo (h : store.InvertsToVec) :
    (Stored.contractInfoItem store).Keeps Storage.bytes contractInfoItem where
  typeName := rfl
  decode v := by simp [Stored.contractInfoItem, h.contractVersion]
  read s := ⟨s.contractInfo, rfl, by simp [Storage.bytes, Stored.contractInfoItem]⟩
  write v s := rfl
  others v s key hkey := by
    have hne : key ≠ "contract_info" := hkey
    simp [Storage.bytes, hne]

theorem keeps_state (h : store.InvertsToVec) :
    (Stored.stateItem store).Keeps Storage.bytes stateItem where
  typeName := rfl
  decode st := by simp [Stored.stateItem, h.contractState]
  read s := ⟨s.state, rfl, by simp [Storage.bytes, Stored.stateItem]⟩
  write st s := rfl
  others st s key hkey := by
    have hne : key ≠ "state" := hkey
    simp [Storage.bytes, hne]

theorem keeps_channelState (h : store.InvertsToVec) :
    (Stored.channelStateItem store).Keeps Storage.bytes channelStateItem where
  typeName := rfl
  decode cs := by simp [Stored.channelStateItem, h.channelState]
  read s := ⟨s.channelState, rfl, by simp [Storage.bytes, Stored.channelStateItem]⟩
  write cs s := rfl
  others cs s key hkey := by
    have hne : key ≠ "ica_channel" := hkey
    simp [Storage.bytes, hne]

theorem keeps_callbackCounter (h : store.InvertsToVec) :
    (Stored.callbackCounterItem store).Keeps Storage.bytes callbackCounterItem where
  typeName := rfl
  decode c := by simp [Stored.callbackCounterItem, h.callbackCounter]
  read s := ⟨s.callbackCounter, rfl, by simp [Storage.bytes, Stored.callbackCounterItem]⟩
  write c s := rfl
  others c s key hkey := by
    have hne : key ≠ "callback_counter" := hkey
    simp [Storage.bytes, hne]

/-! ### Entry points -/

/-- **Every item does the same over bytes.** -/
theorem items_alike (h : store.InvertsToVec) :
    @ItemsAlike Storage KeyValue _ (Stored.items store) Pictures :=
  letI := Stored.items store
  { saveInfo := (keeps_contractInfo h).save
    loadState := (keeps_state h).load
    saveState := (keeps_state h).save
    findChannel := by
      rintro s _ rfl
      exact ((keeps_channelState h).find_eq s).symm
    loadChannel := (keeps_channelState h).load
    mayLoadChannel := (keeps_channelState h).mayLoad
    saveChannel := (keeps_channelState h).save
    loadCounter := (keeps_callbackCounter h).load
    saveCounter := (keeps_callbackCounter h).save }

theorem stored_instantiate (h : store.InvertsToVec) (msg : InstantiateMsg) :
    Relates Pictures Eq (instantiate deps info msg) (Stored.instantiate store deps info msg) :=
  letI := Stored.items store
  relates_instantiate (items_alike h) msg

/-- **Every call does the same over bytes**, and a query's record is printed. -/
theorem stored_serve (h : store.InvertsToVec) (i : Invocation) :
    Relates Pictures (fun a b => b = a.stored) (serve serde i) (Stored.serve store serde i) := by
  let _ := Stored.items store
  refine (relates_serve (items_alike h) i).mapRight ?_
  rintro a _ rfl
  rfl

/-! ### Runs over bytes -/

/-- A successful instantiation over bytes is one over records. -/
theorem stored_instantiates_iff (h : store.InvertsToVec) {msg : InstantiateMsg} {kv : KeyValue} :
    Stored.Instantiates store deps info msg kv ↔
      ∃ s₀, Instantiates deps info msg s₀ ∧ kv = s₀.bytes := by
  obtain ⟨houtcome, hpicture⟩ :=
    @stored_instantiate store deps info h msg _ _ empty_bytes.symm
  rw [Except.both_eq] at houtcome
  unfold Stored.Instantiates Instantiates Returns
  constructor
  · intro hret
    obtain ⟨r, hret⟩ := hret
    rw [hret] at houtcome hpicture
    exact ⟨_, ⟨r, Prod.ext houtcome rfl⟩, hpicture⟩
  · intro hret
    obtain ⟨s₀, ⟨r, hret⟩, rfl⟩ := hret
    rw [hret] at houtcome hpicture
    exact ⟨r, Prod.ext houtcome.symm hpicture⟩

theorem stored_turn (h : store.InvertsToVec) (s : Storage) (i : Invocation) :
    (Stored.contract store serde).turn s.bytes i =
      ((contract serde).turn s i).picture Storage.bytes (Except.map Answer.stored) :=
  Machine.turn_picture (stored_serve h) s i

/--
**The contract over bytes is the contract over records**: it is instantiated when the
other is, and from there every list of calls is answered as the other answers it, a
query with its record printed, and leaves the bytes of the records the other leaves,
each under its key and nothing under any other.
-/
theorem bytes_refine_records (h : store.InvertsToVec) (deps : Deps) (info : MessageInfo)
    (msg : InstantiateMsg) (kv : KeyValue) :
    Stored.Instantiates store deps info msg kv ↔
      ∃ s₀, Instantiates deps info msg s₀ ∧ kv = s₀.bytes ∧
        ∀ calls, (Stored.contract store serde).trace kv calls =
            ((contract serde).trace s₀ calls).map
              (Turn.picture Storage.bytes (Except.map Answer.stored)) ∧
          (Stored.contract store serde).final kv calls =
            ((contract serde).final s₀ calls).bytes := by
  rw [stored_instantiates_iff h]
  constructor
  · intro hinst
    obtain ⟨s₀, hinst, rfl⟩ := hinst
    exact ⟨s₀, hinst, rfl, fun calls => Machine.trace_picture (stored_turn h) calls s₀⟩
  · intro hinst
    obtain ⟨s₀, hinst, hkv, -⟩ := hinst
    exact ⟨s₀, hinst, hkv⟩

theorem sample_stored : Stored.Instantiates storeReader sampleDeps ⟨"admin"⟩ ⟨none⟩
    (Storage.fresh "admin").bytes :=
  (stored_instantiates_iff storeReader_invertsToVec).mpr
    ⟨_, instantiates_iff.mpr ⟨"admin", rfl, rfl⟩, rfl⟩

/-- The admin's contract over bytes, with the records under the reader of the declared formats. -/
theorem bytes_refine_records_sample : ∃ kv,
    Stored.Instantiates storeReader sampleDeps ⟨"admin"⟩ ⟨none⟩ kv ∧ kv "ica_channel" = none ∧
      ∀ calls, (Stored.contract storeReader jsonReader).final kv calls =
        ((contract jsonReader).final (Storage.fresh "admin") calls).bytes := by
  obtain ⟨s₀, hinst, hkv, hruns⟩ :=
    (@bytes_refine_records storeReader jsonReader storeReader_invertsToVec _ _ _ _).mp
      sample_stored
  obtain ⟨admin, hadmin, rfl⟩ := instantiates_iff.mp hinst
  cases hadmin
  exact ⟨_, sample_stored, rfl, fun calls => (hruns calls).2⟩

/-! ### Queries -/

/-- The key of the record a query asks for. -/
def QueryMsg.key : QueryMsg → String
  | .getChannel => "ica_channel"
  | .getContractState => "state"
  | .getCallbackCounter => "callback_counter"

/-- The bytes stored at the end of a run are the bytes of some records. -/
theorem pictures_of_runs {allowed : List (Turn KeyValue Invocation (Except Fault Stored.Answer)) →
      Invocation → Prop} {past : List (Turn KeyValue Invocation (Except Fault Stored.Answer))}
    {kv : KeyValue} (h : store.InvertsToVec) {s₀ : Storage}
    (hrun : (Stored.contract store serde).Runs allowed s₀.bytes past kv) : ∃ s, Pictures s kv := by
  induction hrun with
  | start => exact ⟨s₀, rfl⟩
  | call _ i _ ih =>
      obtain ⟨s, rfl⟩ := ih
      exact ⟨((contract serde).turn s i).after,
        congrArg Turn.after (stored_turn h s i)⟩

/-- What a query answers from storage. -/
theorem turn_query (serde : SerdeJsonWasm) (deps : Deps) (env : Env) (s : Storage)
    (q : QueryMsg) :
    ((contract serde).turn s ⟨deps, env, .query q⟩).after = s ∧
      match s.bytes q.key with
      | some b => ∃ r, ((contract serde).turn s ⟨deps, env, .query q⟩).answer = .ok (.query r) ∧
          (Answer.query r).stored = .query b
      | none => ∃ kind, ((contract serde).turn s ⟨deps, env, .query q⟩).answer =
          .error (.err (.std (.notFound kind))) := by
  obtain ⟨contractInfo, state, channelState, callbackCounter⟩ := s
  cases q with
  | getChannel =>
      cases channelState with
      | none => exact ⟨rfl, _, rfl⟩
      | some cs => exact ⟨rfl, _, rfl, rfl⟩
  | getContractState =>
      cases state with
      | none => exact ⟨rfl, _, rfl⟩
      | some st => exact ⟨rfl, _, rfl, rfl⟩
  | getCallbackCounter =>
      cases callbackCounter with
      | none => exact ⟨rfl, _, rfl⟩
      | some c => exact ⟨rfl, _, rfl, rfl⟩

/--
**A query answers with the bytes that are stored**, at the end of every run: those
under its record's key as they stand, or that there are none.  It stores nothing.
-/
theorem query_answers_stored_bytes {allowed : List (Turn KeyValue Invocation
      (Except Fault Stored.Answer)) → Invocation → Prop}
    {past : List (Turn KeyValue Invocation (Except Fault Stored.Answer))} {kv₀ kv : KeyValue}
    {info : MessageInfo} {msg : InstantiateMsg} (h : store.InvertsToVec)
    (hinst : Stored.Instantiates store deps info msg kv₀)
    (hrun : (Stored.contract store serde).Runs allowed kv₀ past kv) (i : Invocation)
    (q : QueryMsg) (hentry : i.entry = .query q) :
    ((Stored.contract store serde).turn kv i).after = kv ∧
      match kv q.key with
      | some b => ((Stored.contract store serde).turn kv i).answer = .ok (.query b)
      | none => ∃ kind, ((Stored.contract store serde).turn kv i).answer =
          .error (.err (.std (.notFound kind))) := by
  obtain ⟨s₀, -, rfl⟩ := (stored_instantiates_iff h).mp hinst
  obtain ⟨s, rfl⟩ := pictures_of_runs h hrun
  obtain ⟨deps, env, entry⟩ := i
  obtain rfl : entry = .query q := hentry
  rw [stored_turn h s]
  obtain ⟨hafter, hanswer⟩ := turn_query serde deps env s q
  refine ⟨congrArg Storage.bytes hafter, ?_⟩
  cases hcell : s.bytes q.key with
  | none =>
      rw [hcell] at hanswer
      obtain ⟨kind, hanswer⟩ := hanswer
      exact ⟨kind, congrArg (Except.map Answer.stored) hanswer⟩
  | some b =>
      rw [hcell] at hanswer
      obtain ⟨r, hanswer, hstored⟩ := hanswer
      exact (congrArg (Except.map Answer.stored) hanswer).trans (congrArg Except.ok hstored)

/-- After the sample handshake the channel's record is there to be asked for. -/
theorem query_answers_stored_bytes_sample :
    ((Stored.contract storeReader jsonReader).turn
        ((Stored.contract storeReader jsonReader).final (Storage.fresh "admin").bytes
          [sampleOfferCall, sampleAnswerCall])
        ⟨sampleDeps, sampleEnv, .query .getChannel⟩).answer =
      .ok (.query (jsonBytes
        (ChannelState.newOpenChannel (sampleChannel "channel-0" sampleMetadata)).toJson)) := by
  have hrun := Machine.runs_trace (.start : (Stored.contract storeReader jsonReader).Runs
    Machine.Anything (Storage.fresh "admin").bytes [] _) [sampleOfferCall, sampleAnswerCall]
  obtain ⟨-, hfinal⟩ := Machine.trace_picture
    (@stored_turn storeReader jsonReader storeReader_invertsToVec)
    [sampleOfferCall, sampleAnswerCall] (Storage.fresh "admin")
  rw [hfinal, sampleHandshake_final] at hrun ⊢
  exact (query_answers_stored_bytes storeReader_invertsToVec sample_stored hrun
    ⟨sampleDeps, sampleEnv, .query .getChannel⟩ .getChannel rfl).2

/-! ### Calls as bytes

The last layer: a message that was printed is read as itself, and one that cannot be read
changes nothing.
-/

/-- A printed message is read as what it was. -/
theorem parse_raw {msgs : MsgSerde} (hm : msgs.InvertsToVec) (entry : EntryPoint) :
    entry.raw.parse msgs = .ok entry := by
  cases entry with
  | execute info msg =>
      simp only [EntryPoint.raw, RawEntryPoint.parse, hm.executeMsg]
      rfl
  | query msg =>
      simp only [EntryPoint.raw, RawEntryPoint.parse, hm.queryMsg]
      rfl
  | _ => rfl

theorem exported_serve {msgs : MsgSerde} (hm : msgs.InvertsToVec) (i : Invocation) :
    Exported.serve msgs store serde i.raw = Stored.serve store serde i := by
  unfold Exported.serve Invocation.raw
  rw [parse_raw hm]
  rfl

theorem exported_instantiate {msgs : MsgSerde} (hm : msgs.InvertsToVec) (msg : InstantiateMsg) :
    Exported.instantiate msgs store deps info (jsonBytes msg.toJson) =
      Stored.instantiate store deps info msg := by
  unfold Exported.instantiate
  rw [hm.instantiateMsg]
  rfl

/-- A message that does not read is turned down, and nothing is stored. -/
theorem exported_unread {msgs : MsgSerde} {i : RawInvocation} {e : StdError}
    (hi : i.entry.parse msgs = .error e) (kv : KeyValue) :
    (Exported.contract msgs store serde).turn kv i = ⟨kv, i, .error (.err (.std e)), kv⟩ := by
  refine Machine.turn_of_fails (fails_bind.mpr (Or.inl (fails_liftExcept.mpr ⟨?_, rfl⟩)))
  rw [hi]
  rfl

/--
**The exported contract is the contract over records**: instantiated with a printed
message, and called with any list of calls whose messages are printed, it answers them
as the contract over records answers what was printed, and stores the bytes of its records.
-/
theorem exported_refines_records {msgs : MsgSerde} (hm : msgs.InvertsToVec)
    (h : store.InvertsToVec) (deps : Deps) (info : MessageInfo) (msg : InstantiateMsg)
    (kv : KeyValue) :
    Exported.Instantiates msgs store deps info (jsonBytes msg.toJson) kv ↔
      ∃ s₀, Instantiates deps info msg s₀ ∧ kv = s₀.bytes ∧
        ∀ calls, (Exported.contract msgs store serde).trace kv (calls.map Invocation.raw) =
            ((contract serde).trace s₀ calls).map (fun t =>
              (t.picture Storage.bytes (Except.map Answer.stored)).spelled Invocation.raw) ∧
          (Exported.contract msgs store serde).final kv (calls.map Invocation.raw) =
            ((contract serde).final s₀ calls).bytes := by
  have hstep (kv : KeyValue) (i : Invocation) : (Exported.contract msgs store serde).step kv i.raw =
      (Stored.contract store serde).step kv i := by
    simp only [Exported.contract, Stored.contract, Machine.ofExec, exported_serve hm]
  rw [Exported.Instantiates, exported_instantiate hm, ← Stored.Instantiates,
    stored_instantiates_iff h]
  constructor
  · intro hinst
    obtain ⟨s₀, hinst, rfl⟩ := hinst
    refine ⟨s₀, hinst, rfl, ?_⟩
    intro calls
    obtain ⟨htrace, hfinal⟩ := Machine.trace_spelled hstep calls s₀.bytes
    obtain ⟨htrace', hfinal'⟩ :=
      Machine.trace_picture (@stored_turn store serde h) calls s₀
    exact ⟨by rw [htrace, htrace', List.map_map]; rfl, hfinal.trans hfinal'⟩
  · intro hinst
    obtain ⟨s₀, hinst, hkv, -⟩ := hinst
    exact ⟨s₀, hinst, hkv⟩

/-- The readers of the declared formats are such deserializers. -/
example : Exported.Instantiates msgReader storeReader sampleDeps ⟨"admin"⟩
    (jsonBytes (InstantiateMsg.mk none).toJson) (Storage.fresh "admin").bytes := by
  rw [Exported.Instantiates, exported_instantiate msgReader_invertsToVec]
  exact sample_stored

end IcaController
