/-
Who makes the contract send, and on which channel.

Only `execute` answers with a message, only for the admin, and it reads nothing but
the state record: the message goes to the channel of the account, which is the
stored one, whether that is still open or not.
-/
import IcaController.Proofs.Records

namespace IcaController

open Exec

variable {serde : SerdeJsonWasm} {allowed : Rule} {past older : List ContractTurn}
  {s s' s₀ : Storage} {t : ContractTurn} {i : Invocation} {a : Answer} {m : IbcMsg}
  {admin : Addr}

/-- A message in an answer comes from an accepted `execute`. -/
theorem Effect.sends (h : Effect serde s i a s') (hm : m ∈ a.messages) :
    ∃ info msg st ica, i.entry = .execute info msg ∧ ExecuteAccepts s i.env info msg st ica m := by
  cases h with
  | execute hacc =>
      obtain rfl := List.mem_singleton.mp hm
      exact ⟨_, _, _, _, rfl, hacc⟩
  | query _ => cases hm
  | openInit _ => cases hm
  | openAck _ => cases hm
  | closeConfirm _ => cases hm
  | ack _ _ _ => cases hm
  | timeout _ _ _ => cases hm

theorem sent_of_turn (hm : m ∈ ContractTurn.sent ((contract serde).turn s i)) :
    ∃ info msg st ica, i.entry = .execute info msg ∧
      ExecuteAccepts s i.env info msg st ica m := by
  rcases Machine.turn_cases (serve serde) s i with ⟨a, s', hret, ht⟩ | ⟨e, ht⟩
  · rw [contract, ht] at hm
    exact (effect_of_returns hret).sends hm
  · rw [contract, ht] at hm
    cases hm

theorem mem_sent_of_effect (h : Effect serde s i a s') (hm : m ∈ a.messages) :
    m ∈ ContractTurn.sent ((contract serde).turn s i) := by
  rw [contract, Machine.turn_of_returns h.returns]
  exact hm

/-! ### The channel a packet goes to -/

/--
**A packet is sent on the stored channel**, and its state decides nothing: the
channel is open if the latest `OpenAck`, `CloseConfirm` or timeout was its
`OpenAck`, and the packet is sent in either case.
-/
theorem sends_on_stored_channel {id : String} {data : Binary} {timeout : IbcTimeout}
    (h : ContractRuns serde anyCall past s)
    (hm : .sendPacket id data timeout ∈ ContractTurn.sent ((contract serde).turn s i)) :
    ∃ cs, s.channelState = some cs ∧ cs.channel.endpoint.channelId = id ∧
      (cs.channelStatus = .open ∨ cs.channelStatus = .closed) ∧
      (cs.channelStatus = .open ↔ (history past).head? = some (.opened id)) := by
  obtain ⟨info, msg, st, ica, -, hacc⟩ := sent_of_turn hm
  obtain ⟨p, -, hbuilt⟩ := hacc.packet
  obtain ⟨_, hmsg⟩ := toIbcMsg_channel hbuilt
  have hid : id = ica.channelId := (IbcMsg.sendPacket.inj hmsg).1
  obtain ⟨channel, _, _, status, -, hcs, hstatus, -, hica⟩ :=
    h.latest_of_account hacc.state hacc.account
  have hchannel : channel.endpoint.channelId = id := by rw [hid, hica]
  refine ⟨_, hcs, hchannel, hstatus, ?_⟩
  rw [← Slot.after_eq_live, ← h.slot_eq, slot_eq_live]
  constructor
  · intro hopen
    exact ⟨_, hcs, decide_eq_true hopen, hchannel⟩
  · intro hlive
    obtain ⟨cs, hstored, hopen, -⟩ := hlive
    rw [hcs, Option.some.injEq] at hstored
    subst hstored
    exact of_decide_eq_true hopen

theorem sends_on_stored_channel_sample :
    ∃ cs, sampleOpened.channelState = some cs ∧ cs.channel.endpoint.channelId = "channel-0" ∧
      (cs.channelStatus = .open ∨ cs.channelStatus = .closed) ∧
      (cs.channelStatus = .open ↔ (history samplePast).head? = some (.opened "channel-0")) :=
  sends_on_stored_channel sampleOpened_runs.anyCall
    (mem_sent_of_effect sampleSend_effect List.mem_cons_self)

/-- After a timeout closed the stored channel, the admin's next packet goes out on it. -/
theorem sends_on_closed_channel :
    ∃ past s cs i data timeout, ContractRuns jsonReader ibcCore past s ∧
      s.channelState = some cs ∧ cs.channelStatus = .closed ∧
      cs.channel.endpoint.channelId = "channel-0" ∧
      .sendPacket "channel-0" data timeout ∈
        ContractTurn.sent ((contract jsonReader).turn s i) := by
  have hsend := sampleOpened_runs.send sampleDeps sampleEnv rfl rfl sampleMsg_request
  have hexpire := hsend.expire sampleDeps sampleEnv samplePacket
    ⟨_, List.mem_cons_self, List.mem_cons_self⟩ rfl rfl rfl
  exact ⟨_, _, _, _, _, _, hexpire, rfl, rfl, rfl,
    mem_sent_of_effect (effect_send sampleDeps sampleEnv rfl rfl sampleMsg_request)
      List.mem_cons_self⟩

/-! ### The admin

Whoever is not the admin leaves no trace at all: two lists of calls that differ only in
what strangers wanted sent end in the same storage.
-/

/-- The state record names the admin. -/
def AdminIs (admin : Addr) (s : Storage) : Prop := ∃ st, s.state = some st ∧ st.admin = admin

/-- No accepted call changes the admin. -/
theorem Effect.adminIs (h : Effect serde s i a s') (hadmin : AdminIs admin s) :
    AdminIs admin s' := by
  obtain ⟨st, hst, rfl⟩ := hadmin
  cases h with
  | execute _ => exact ⟨st, hst, rfl⟩
  | query _ => exact ⟨st, hst, rfl⟩
  | openInit _ => exact ⟨st, hst, rfl⟩
  | openAck hacc =>
      have hsame := hacc.state
      rw [hst, Option.some.injEq] at hsame
      subst hsame
      exact ⟨_, rfl, rfl⟩
  | closeConfirm _ => exact ⟨st, hst, rfl⟩
  | ack _ _ _ => exact ⟨st, hst, rfl⟩
  | timeout _ _ _ => exact ⟨st, hst, rfl⟩

/-- No call does, accepted or not. -/
theorem adminIs_turn (hadmin : AdminIs admin s) :
    AdminIs admin ((contract serde).turn s i).after := by
  rcases Machine.turn_cases (serve serde) s i with ⟨a, s', hret, ht⟩ | ⟨e, ht⟩
  · rw [contract, ht]
    exact (effect_of_returns hret).adminIs hadmin
  · rw [contract, ht]
    exact hadmin

/-- The call is an `execute` of somebody else. -/
def foreign (admin : Addr) (i : Invocation) : Bool :=
  match i.entry with
  | .execute info _ => info.sender ≠ admin
  | _ => false

/-- An `execute` leaves storage alone, whoever sent it. -/
theorem execute_silent (hforeign : foreign admin i = true) :
    ((contract serde).turn s i).after = s := by
  rcases Machine.turn_cases (serve serde) s i with ⟨a, s', hret, ht⟩ | ⟨e, ht⟩
  · rw [contract, ht]
    cases effect_of_returns hret with
    | execute _ => rfl
    | _ => cases hforeign
  · rw [contract, ht]

/-- In a run after instantiation every turn starts with the admin in place. -/
theorem adminIs_of_mem_trace {calls : List Invocation} (hadmin : AdminIs admin s₀)
    (ht : t ∈ (contract serde).trace s₀ calls) :
    AdminIs admin t.before ∧ t = (contract serde).turn t.before t.call := by
  have hrun := Machine.runs_trace (.start : (contract serde).Runs Machine.Anything s₀ [] s₀) calls
  obtain ⟨older, hsuffix⟩ := exists_suffix_of_mem
    (List.mem_append_left [] (List.mem_reverse.mpr ht))
  obtain ⟨hbefore, -, heq⟩ := hrun.of_suffix hsuffix
  exact ⟨hbefore.invariant (AdminIs admin) hadmin
    fun _ _ _ _ hinv hret => (effect_of_returns hret).adminIs hinv, heq⟩

/--
**Only the admin makes the contract send**: whoever instantiation made admin stays
admin, every message is asked for by an `execute` of that admin, and the `execute`
calls of everybody else can be added or dropped without any other call noticing.
-/
theorem only_admin_sends {deps : Deps} {info : MessageInfo} {msg : InstantiateMsg}
    (h : Instantiates deps info msg s₀) :
    ∃ admin, msg.adminFor deps info = .ok admin ∧
      (∀ calls, AdminIs admin ((contract serde).final s₀ calls)) ∧
      (∀ calls, ∀ t ∈ (contract serde).trace s₀ calls, ∀ m ∈ ContractTurn.sent t,
        ∃ asked, t.call.entry = .execute ⟨admin⟩ asked) ∧
      ∀ calls calls', calls.filter (!foreign admin ·) = calls'.filter (!foreign admin ·) →
        (contract serde).final s₀ calls = (contract serde).final s₀ calls' ∧
          ((contract serde).trace s₀ calls).filter (!foreign admin ·.call) =
            ((contract serde).trace s₀ calls').filter (!foreign admin ·.call) := by
  obtain ⟨admin, hadmin, rfl⟩ := instantiates_iff.mp h
  have hstart : AdminIs admin (Storage.fresh admin) := ⟨_, rfl, rfl⟩
  refine ⟨admin, hadmin, ?_, ?_, ?_⟩
  · intro calls
    have hrun := Machine.runs_trace
      (.start : (contract serde).Runs Machine.Anything (Storage.fresh admin) [] _) calls
    exact hrun.invariant (AdminIs admin) hstart
      fun _ _ _ _ hinv hret => (effect_of_returns hret).adminIs hinv
  · intro calls t ht m hm
    obtain ⟨⟨st, hst, hname⟩, heq⟩ := adminIs_of_mem_trace hstart ht
    rw [heq] at hm
    obtain ⟨⟨sender⟩, asked, st', _, hentry, hacc⟩ := sent_of_turn hm
    have hsame := hacc.state
    rw [hst, Option.some.injEq] at hsame
    have hsender : sender = admin := by rw [← hname, hsame, hacc.admin]
    exact ⟨asked, hsender ▸ hentry⟩
  · intro calls calls' hfilter
    have hpurge := (contract serde).trace_purge (AdminIs admin)
      (fun i => !foreign admin i) (fun s i hs => adminIs_turn hs)
      (fun s i _ hi => execute_silent (by simpa using hi))
    obtain ⟨htrace, hfinal⟩ := hpurge calls _ hstart
    obtain ⟨htrace', hfinal'⟩ := hpurge calls' _ hstart
    rw [htrace, htrace', hfinal, hfinal', hfilter]
    exact ⟨rfl, rfl⟩

/-- A stranger asks the sample contract to send. -/
def strangeCall : Invocation :=
  ⟨sampleDeps, sampleEnv, .execute ⟨"mallory"⟩ (.icaBankSend "1" "stake" "mallory")⟩

/-- The account is opened, a stranger tries it in vain, and the admin's packet goes out. -/
theorem only_admin_sends_sample :
    ((contract jsonReader).trace (Storage.fresh "admin")
        [sampleAnswerCall, strangeCall, sampleSendCall]).filter (!foreign "admin" ·.call) =
      [⟨Storage.fresh "admin", sampleAnswerCall, .ok (.basic {}), sampleOpened⟩,
        ⟨sampleOpened, sampleSendCall,
          .ok (.response { messages := [samplePacket.message] }), sampleOpened⟩] := by
  obtain ⟨admin, hadmin, -, -, hpurge⟩ := @only_admin_sends jsonReader _ _ _ _
    (instantiates_iff.mpr ⟨"admin", rfl, rfl⟩ : Instantiates sampleDeps ⟨"admin"⟩ ⟨none⟩ _)
  cases hadmin
  obtain ⟨-, htrace⟩ := hpurge [sampleAnswerCall, strangeCall, sampleSendCall]
    [sampleAnswerCall, sampleSendCall] rfl
  rw [htrace, Machine.trace, Machine.trace, Machine.trace, sampleAnswer_effect.turn,
    sampleSend_effect.turn]
  rfl

end IcaController
