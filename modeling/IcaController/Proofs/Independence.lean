/-
What the callers of the contract can learn of each other.

Each entry point looks at a part of storage only.  Three observers come of it.  One
sees every call but the acknowledgements: they touch two counters nobody else reads.
One sees the acknowledgements only: nothing else moves those counters.  And one sees
who opens the account and who spends from it: whatever ends a channel, times a packet
out or proposes a new handshake, spending never notices.
-/
import IcaController.Lib.Observer
import IcaController.Proofs.Alike
import IcaController.Proofs.Callbacks

namespace IcaController

open Exec Item Machine

variable {serde : SerdeJsonWasm} {deps deps' : Deps} {env : Env} {s t : Storage} {i : Invocation}
  {channel : IbcChannel} {R : Storage → Storage → Prop}

/-! ### Storages that agree on some records

A record two storages agree on is read and written alike.  Of the counters less is asked:
they may differ where the increment does not look.
-/

theorem loadsState_of (h : ∀ s t, R s t → s.state = t.state) : LoadsState R :=
  relates_load rfl fun s t hR => .ok (Option.rel_of_eq (h s t hR))

theorem loadsChannel_of (h : ∀ s t, R s t → s.channelState = t.channelState) : LoadsChannel R :=
  relates_load rfl fun s t hR => .ok (Option.rel_of_eq (h s t hR))

theorem mayLoadsChannel_of (h : ∀ s t, R s t → s.channelState = t.channelState) :
    Relates R Eq (channelStateItem.mayLoad : Call Storage (Option ChannelState))
      channelStateItem.mayLoad :=
  relates_mayLoad fun s t hR => congrArg Except.ok (h s t hR)

theorem savesChannel_of (h : ∀ cs s t, R s t →
    R { s with channelState := some cs } { t with channelState := some cs }) : SavesChannel R :=
  fun cs => relates_save (h cs)

theorem updatesState_of (hread : ∀ s t, R s t → s.state = t.state)
    (hwrite : ∀ st s t, R s t → R { s with state := some st } { t with state := some st })
    (f : ContractState → Except Fault ContractState) :
    Relates R Eq (stateItem.update f : Call Storage ContractState) (stateItem.update f) :=
  relates_update_eq (loadsState_of hread) (fun st => relates_save (hwrite st)) f

theorem updatesChannel_of (hread : ∀ s t, R s t → s.channelState = t.channelState)
    (hwrite : ∀ cs s t, R s t →
      R { s with channelState := some cs } { t with channelState := some cs })
    (f : ChannelState → Except Fault ChannelState) :
    Relates R Eq (channelStateItem.update f : Call Storage ChannelState)
      (channelStateItem.update f) :=
  relates_update_eq (loadsChannel_of hread) (savesChannel_of hwrite) f

theorem updatesCounter_of {Q : CallbackCounter → CallbackCounter → Prop}
    {f : CallbackCounter → Except Fault CallbackCounter}
    (hread : ∀ s t, R s t → Option.Rel Q s.callbackCounter t.callbackCounter)
    (hf : ∀ c c', Q c c' → Except.Both Q (f c) (f c'))
    (hwrite : ∀ c c', Q c c' → ∀ s t, R s t →
      R { s with callbackCounter := some c } { t with callbackCounter := some c' }) :
    Relates R Q (callbackCounterItem.update f : Call Storage CallbackCounter)
      (callbackCounterItem.update f) :=
  relates_update rfl (fun s t hR => .ok (hread s t hR)) hf hwrite

/-- An offer is made from the channel record. -/
theorem fromChannel_congr (h : s.channelState = t.channelState) :
    IcaMetadata.fromChannel serde deps s channel =
      IcaMetadata.fromChannel serde deps t channel := by
  simp only [IcaMetadata.fromChannel, channelStateItem_find, h]

/-! ### Everybody but the acknowledgements

Take all acknowledgements out of a list of calls, and nobody else can tell.  The one
query that reads the counters is the exception.
-/

def EntryPoint.isAck : EntryPoint → Bool
  | .ibcPacketAck _ => true
  | _ => false

/-- The query that reads all three counters. -/
def EntryPoint.readsCounter : EntryPoint → Bool
  | .query .getCallbackCounter => true
  | _ => false

/-- The counter without the two that acknowledgements move. -/
def CallbackCounter.unacknowledged (c : CallbackCounter) : CallbackCounter :=
  { c with success := 0, error := 0 }

def Storage.unacknowledged (s : Storage) : Storage :=
  { s with callbackCounter := s.callbackCounter.map CallbackCounter.unacknowledged }

@[simp] theorem unacknowledged_timeout (c : CallbackCounter) :
    c.unacknowledged.timeout = c.timeout := rfl

@[simp] theorem unacknowledged_contractInfo (s : Storage) :
    s.unacknowledged.contractInfo = s.contractInfo := rfl

@[simp] theorem unacknowledged_state (s : Storage) : s.unacknowledged.state = s.state := rfl

@[simp] theorem unacknowledged_channelState (s : Storage) :
    s.unacknowledged.channelState = s.channelState := rfl

/-- An acknowledgement counts as a success or as an error. -/
theorem unacknowledged_record {c c' : CallbackCounter} {ack : AcknowledgementData}
    (h : c.record ack = .ok c') : c'.unacknowledged = c.unacknowledged := by
  cases ack with
  | result res =>
      obtain ⟨n, -, hc⟩ := Except.bind_eq_ok.mp h
      cases hc
      rfl
  | error err =>
      obtain ⟨n, -, hc⟩ := Except.bind_eq_ok.mp h
      cases hc
      rfl

/-- A timeout counts alike on counters that differ in acknowledgements only. -/
theorem both_incTimeout {c c' : CallbackCounter} (h : c.unacknowledged = c'.unacknowledged) :
    Except.Both (fun c c' => c.unacknowledged = c'.unacknowledged) c.incTimeout c'.incTimeout := by
  have htimeout : c.timeout = c'.timeout := by simpa using congrArg CallbackCounter.timeout h
  unfold CallbackCounter.incTimeout
  rw [htimeout]
  cases orOverflow (checkedAddU32 c'.timeout 1) with
  | ok n => exact .ok rfl
  | error e => exact .error e

theorem unacknowledged_silent {a : Answer} {s' : Storage} (h : Effect serde s i a s')
    (hi : (!i.entry.isAck && !i.entry.readsCounter) = false) :
    s'.unacknowledged = s.unacknowledged := by
  cases h with
  | ack hdec hc hinc => simp [Storage.unacknowledged, hc, unacknowledged_record hinc]
  | query _ => rfl
  | _ => cases hi

theorem unacknowledged_determined (hi : (!i.entry.isAck && !i.entry.readsCounter) = true) :
    Relates (fun s t : Storage => s.unacknowledged = t.unacknowledged) Eq (serve serde i)
      (serve serde i) := by
  have hstate {s t : Storage} (h : s.unacknowledged = t.unacknowledged) : s.state = t.state := by
    simpa using congrArg Storage.state h
  have hchannel {s t : Storage} (h : s.unacknowledged = t.unacknowledged) :
      s.channelState = t.channelState := by
    simpa using congrArg Storage.channelState h
  have hwriteChannel (cs : ChannelState) {s t : Storage}
      (h : s.unacknowledged = t.unacknowledged) :
      ({ s with channelState := some cs } : Storage).unacknowledged =
        ({ t with channelState := some cs } : Storage).unacknowledged :=
    congrArg (fun s : Storage => { s with channelState := some cs }) h
  obtain ⟨deps, env, entry⟩ := i
  cases entry with
  | execute info msg =>
      exact (relates_execute (loadsState_of fun _ _ => hstate) msg).mapEq
  | query msg =>
      cases msg with
      | getContractState =>
          exact ((loadsState_of fun _ _ => hstate).bindEq fun _ => .pure rfl).mapEq
      | getChannel =>
          exact ((loadsChannel_of fun _ _ => hchannel).bindEq fun _ => .pure rfl).mapEq
      | getCallbackCounter => cases hi
  | ibcChannelOpen msg =>
      cases msg with
      | openInit channel =>
          exact (relates_init (mayLoadsChannel_of fun _ _ => hchannel) fun _ _ _ h =>
            fromChannel_congr (hchannel h)).mapEq
      | openTry channel cv => exact Relates.throw.mapEq
  | ibcChannelConnect msg =>
      cases msg with
      | openAck channel cv =>
          refine (relates_onAcknowledgement (updatesState_of (fun _ _ => hstate) ?_)
            (savesChannel_of fun cs _ _ => hwriteChannel cs)).mapEq
          intro st s t h
          exact congrArg (fun s : Storage => { s with state := some st }) h
      | openConfirm channel => exact Relates.throw.mapEq
  | ibcChannelClose msg =>
      cases msg with
      | closeInit channel => exact Relates.throw.mapEq
      | closeConfirm channel =>
          exact (relates_confirm (loadsChannel_of fun _ _ => hchannel)
            (savesChannel_of fun cs _ _ => hwriteChannel cs)).mapEq
  | ibcPacketAck msg => cases hi
  | ibcPacketTimeout msg =>
      refine (relates_ibcPacketTimeout (updatesCounter_of
        (fun _ _ h => Option.rel_of_map_eq (congrArg Storage.callbackCounter h))
        (fun _ _ => both_incTimeout) ?_)
        (updatesChannel_of (fun _ _ => hchannel) fun cs _ _ => hwriteChannel cs) msg).mapEq
      intro c c' hc s t h
      have hinfo : s.contractInfo = t.contractInfo := by
        simpa using congrArg Storage.contractInfo h
      simp only [Storage.unacknowledged, Option.map_some, hc, hstate h, hchannel h, hinfo]
  | ibcPacketReceive msg => exact Relates.throw.mapEq

/-- What can be observed without the acknowledgements. -/
def ackless (serde : SerdeJsonWasm) : Observer (contract serde) Storage :=
  .ofExec (fun i => !i.entry.isAck && !i.entry.readsCounter) Storage.unacknowledged
    (fun _ _ _ _ hi hret => unacknowledged_silent (effect_of_returns hret) hi)
    (fun _ hi => unacknowledged_determined hi)

/--
**Nobody notices an acknowledgement.**  Acknowledgements, forged, malformed or
repeated, can be added, dropped or moved: every other call is answered as before,
and storage ends the same but for the two counters they move.
-/
theorem acknowledgements_unnoticed (s : Storage) (calls calls' : List Invocation)
    (h : calls.filter (fun i => !i.entry.isAck && !i.entry.readsCounter) =
      calls'.filter fun i => !i.entry.isAck && !i.entry.readsCounter) :
    (ackless serde).log ((contract serde).trace s calls) =
        (ackless serde).log ((contract serde).trace s calls') ∧
      ((contract serde).final s calls).unacknowledged =
        ((contract serde).final s calls').unacknowledged :=
  (ackless serde).noninterference rfl h

/-- The sample packet is acknowledged. -/
def sampleAckCall : Invocation := ⟨sampleDeps, sampleEnv, .ibcPacketAck (sampleAck (.result [1]))⟩

theorem acknowledgements_unnoticed_sample :
    ((contract jsonReader).final sampleOpened [sampleAckCall, sampleTimeoutCall]).unacknowledged =
      ((contract jsonReader).final sampleOpened [sampleTimeoutCall]).unacknowledged := by
  obtain ⟨-, hfinal⟩ := @acknowledgements_unnoticed jsonReader sampleOpened
    [sampleAckCall, sampleTimeoutCall] [sampleTimeoutCall] rfl
  exact hfinal

/-! ### The acknowledgements

The other direction: nobody else can disturb them.  They read and write two numbers, and
these are theirs.
-/

/-- The two counters that acknowledgements move. -/
def Storage.acknowledged (s : Storage) : Option (UInt32 × UInt32) :=
  s.callbackCounter.map fun c => (c.success, c.error)

theorem acknowledged_incTimeout {c c' : CallbackCounter} (h : c.incTimeout = .ok c') :
    (c'.success, c'.error) = (c.success, c.error) := by
  obtain ⟨n, -, hc⟩ := Except.bind_eq_ok.mp h
  cases hc
  rfl

/-- An acknowledgement counts alike on counters that differ in timeouts only. -/
theorem both_record {c c' : CallbackCounter} (h : (c.success, c.error) = (c'.success, c'.error))
    (ack : AcknowledgementData) :
    Except.Both (fun c c' : CallbackCounter => (c.success, c.error) = (c'.success, c'.error))
      (c.record ack) (c'.record ack) := by
  obtain ⟨hsuccess, herror⟩ := Prod.mk.inj h
  cases ack with
  | result res =>
      unfold CallbackCounter.record CallbackCounter.incSuccess
      rw [hsuccess]
      cases orOverflow (checkedAddU32 c'.success 1) with
      | ok n => exact .ok (congrArg _ herror)
      | error e => exact .error e
  | error err =>
      unfold CallbackCounter.record CallbackCounter.incError
      rw [herror]
      cases orOverflow (checkedAddU32 c'.error 1) with
      | ok n => exact .ok (congrArg (·, n) hsuccess)
      | error e => exact .error e

theorem acknowledged_silent {a : Answer} {s' : Storage} (h : Effect serde s i a s')
    (hi : i.entry.isAck = false) : s'.acknowledged = s.acknowledged := by
  cases h with
  | ack hdec hc hinc => cases hi
  | timeout hc hinc hcs => simp [Storage.acknowledged, hc, acknowledged_incTimeout hinc]
  | _ => rfl

theorem acknowledged_determined (hi : i.entry.isAck = true) :
    Relates (fun s t : Storage => s.acknowledged = t.acknowledged) Eq (serve serde i)
      (serve serde i) := by
  obtain ⟨deps, env, entry⟩ := i
  cases entry with
  | ibcPacketAck msg =>
      refine (relates_ibcPacketAck (fun ack => updatesCounter_of
        (fun _ _ h => Option.rel_of_map_eq h) (fun _ _ h => both_record h ack) ?_) msg).mapEq
      intro c c' hc _ _ _
      exact congrArg some hc
  | _ => cases hi

/-- What the acknowledgements can observe. -/
def ackOnly (serde : SerdeJsonWasm) : Observer (contract serde) (Option (UInt32 × UInt32)) :=
  .ofExec (fun i => i.entry.isAck) Storage.acknowledged
    (fun _ _ _ _ hi hret => acknowledged_silent (effect_of_returns hret) hi)
    (fun _ hi => acknowledged_determined hi)

/--
**Nothing disturbs an acknowledgement.**  Handshakes, closings, timeouts, sends and
queries can be added, dropped or moved: every acknowledgement is answered as before,
its event included, and the two counters end the same.
-/
theorem acknowledgements_undisturbed (s : Storage) (calls calls' : List Invocation)
    (h : calls.filter (·.entry.isAck) = calls'.filter (·.entry.isAck)) :
    (ackOnly serde).log ((contract serde).trace s calls) =
        (ackOnly serde).log ((contract serde).trace s calls') ∧
      ((contract serde).final s calls).acknowledged =
        ((contract serde).final s calls').acknowledged :=
  (ackOnly serde).noninterference rfl h

theorem acknowledgements_undisturbed_sample :
    ((contract jsonReader).final sampleOpened [sampleTimeoutCall, sampleAckCall]).acknowledged =
      ((contract jsonReader).final sampleOpened [sampleAckCall]).acknowledged := by
  obtain ⟨-, hfinal⟩ := @acknowledgements_undisturbed jsonReader sampleOpened
    [sampleTimeoutCall, sampleAckCall] [sampleAckCall] rfl
  exact hfinal

/-! ### The account and its spending -/

/-- The calls that open an account, spend from it, or ask for its record. -/
def EntryPoint.spends : EntryPoint → Bool
  | .execute _ _ => true
  | .ibcChannelConnect _ => true
  | .query .getContractState => true
  | _ => false

theorem state_silent {a : Answer} {s' : Storage} (h : Effect serde s i a s')
    (hi : i.entry.spends = false) : s'.state = s.state := by
  cases h with
  | openAck hacc => cases hi
  | _ => rfl

theorem state_determined (hi : i.entry.spends = true) :
    Relates (fun s t : Storage => s.state = t.state) Eq (serve serde i) (serve serde i) := by
  obtain ⟨deps, env, entry⟩ := i
  cases entry with
  | execute info msg =>
      exact (relates_execute (loadsState_of fun _ _ h => h) msg).mapEq
  | ibcChannelConnect msg =>
      cases msg with
      | openAck channel cv =>
          exact (relates_onAcknowledgement (updatesState_of (fun _ _ h => h) fun _ _ _ _ => rfl)
            (savesChannel_of fun _ _ _ h => h)).mapEq
      | openConfirm channel => exact Relates.throw.mapEq
  | query msg =>
      cases msg with
      | getContractState =>
          exact ((loadsState_of fun _ _ h => h).bindEq fun _ => .pure rfl).mapEq
      | _ => cases hi
  | _ => cases hi

/-- What can be observed by opening accounts and spending from them. -/
def spending (serde : SerdeJsonWasm) : Observer (contract serde) (Option ContractState) :=
  .ofExec (fun i => i.entry.spends) Storage.state
    (fun _ _ _ _ hi hret => state_silent (effect_of_returns hret) hi)
    (fun _ hi => state_determined hi)

/--
**Spending follows the account alone.**  What an `execute` answers, and what it sends
and where, is decided by the `OpenAck`s before it: proposals, closings, timeouts,
acknowledgements and queries can be added, dropped or moved without any `execute` or
`OpenAck` being answered otherwise.
-/
theorem spending_follows_account (s : Storage) (calls calls' : List Invocation)
    (h : calls.filter (·.entry.spends) = calls'.filter (·.entry.spends)) :
    (spending serde).log ((contract serde).trace s calls) =
        (spending serde).log ((contract serde).trace s calls') ∧
      ((contract serde).final s calls).state = ((contract serde).final s calls').state :=
  (spending serde).noninterference rfl h

/-- The account is opened, the channel is closed by a timeout, and the account is spent from. -/
theorem spending_follows_account_sample :
    (spending jsonReader).log ((contract jsonReader).trace (Storage.fresh "admin")
        [sampleAnswerCall, sampleTimeoutCall, sampleSendCall]) =
      [(sampleAnswerCall, .ok (.basic {})),
        (sampleSendCall, .ok (.response { messages := [samplePacket.message] }))] := by
  obtain ⟨hlog, -⟩ := @spending_follows_account jsonReader (Storage.fresh "admin")
    [sampleAnswerCall, sampleTimeoutCall, sampleSendCall] [sampleAnswerCall, sampleSendCall] rfl
  rw [hlog, Machine.trace, Machine.trace, Machine.trace, sampleAnswer_effect.turn,
    sampleSend_effect.turn]
  rfl

end IcaController
