/-
The entry points over two stores at once.

An entry point is written over the storage items of any store, so what it does on two
related stores is decided by what its items do there.  Each lemma names the items its
entry point looks at, and how: an item it does not name can hold anything.

Two uses are made of this.  One store may be a picture of the other, the bytes of its
records.  Or both may be of one kind, and related by agreeing on some records only.
-/
import IcaController.Lib.Relational
import IcaController.Proofs.Handlers

namespace IcaController

open Exec

variable {σ τ : Type} [Items σ] [Items τ] {R : σ → τ → Prop} {serde : SerdeJsonWasm}
  {deps deps' : Deps} {env : Env} {info : MessageInfo} {channel : IbcChannel}

/-- The state record is loaded alike. -/
abbrev LoadsState (R : σ → τ → Prop) : Prop :=
  Relates R Eq (stateItem.load : Call σ ContractState) (stateItem.load : Call τ ContractState)

/-- The channel record is loaded alike. -/
abbrev LoadsChannel (R : σ → τ → Prop) : Prop :=
  Relates R Eq (channelStateItem.load : Call σ ChannelState)
    (channelStateItem.load : Call τ ChannelState)

/-- A channel record is saved alike. -/
abbrev SavesChannel (R : σ → τ → Prop) : Prop :=
  ∀ cs, Relates R Eq (channelStateItem.save cs : Call σ PUnit)
    (channelStateItem.save cs : Call τ PUnit)

/-! ### `contract.rs` -/

/-- `execute` looks at the state record. -/
theorem relates_execute (hload : LoadsState R) (msg : ExecuteMsg) :
    Relates R Eq (execute env info msg) (execute env info msg) := by
  cases msg with
  | sendCustomIcaMessages messages packetMemo timeoutSeconds =>
      refine hload.bindEq fun st => ?_
      refine Relates.liftSame.bindEq fun _ => ?_
      refine Relates.liftSame.bindEq fun ica => ?_
      exact Relates.liftSame.bindEq fun _ => .pure rfl
  | icaBankSend amount denom toAddress =>
      refine hload.bindEq fun st => ?_
      refine Relates.liftSame.bindEq fun _ => ?_
      refine Relates.liftSame.bindEq fun ica => ?_
      refine Relates.liftSame.bindEq fun p => ?_
      exact Relates.liftSame.bindEq fun _ => .pure rfl

/-! ### `ibc/handshake.rs` -/

/-- `OpenInit` looks at the channel record, and at the offer it makes without a version. -/
theorem relates_init
    (hload : Relates R Eq (channelStateItem.mayLoad : Call σ (Option ChannelState))
      (channelStateItem.mayLoad : Call τ (Option ChannelState)))
    (hoffer : channel.version.isEmpty = true → ∀ s t, R s t →
      IcaMetadata.fromChannel serde deps s channel =
        IcaMetadata.fromChannel serde deps' t channel) :
    Relates R Eq (IbcChannelOpen.init serde deps channel)
      (IbcChannelOpen.init serde deps' channel) := by
  have hrest (metadata : IcaMetadata) : Relates R Eq (do
      liftExcept (orErr (metadata.validate channel))
      liftExcept (orErr (IbcChannelOpen.checkPrevious serde metadata
        (← channelStateItem.mayLoad)))
      return some ⟨metadata.toString⟩ : Call σ IbcChannelOpenResponse) (do
      liftExcept (orErr (metadata.validate channel))
      liftExcept (orErr (IbcChannelOpen.checkPrevious serde metadata
        (← channelStateItem.mayLoad)))
      return some ⟨metadata.toString⟩ : Call τ IbcChannelOpenResponse) :=
    Relates.liftSame.bindEq fun _ => hload.bindEq fun _ =>
      Relates.liftSame.bindEq fun _ => .pure rfl
  unfold IbcChannelOpen.init
  refine .guard (.guard ?_)
  by_cases hver : channel.version.isEmpty = true
  · rw [if_pos hver, if_pos hver]
    refine Relates.get.bind fun s t hR => ?_
    rw [hoffer hver s t hR]
    exact hrest _
  · rw [if_neg hver, if_neg hver]
    exact Relates.liftSame.bindEq hrest

/-- `OpenAck` looks at the state record. -/
theorem relates_onAcknowledgement {cv : String}
    (hstate : ∀ f, Relates R Eq (stateItem.update f : Call σ ContractState)
      (stateItem.update f : Call τ ContractState))
    (hsave : SavesChannel R) :
    Relates R Eq (IbcChannelOpen.onAcknowledgement serde channel cv)
      (IbcChannelOpen.onAcknowledgement serde channel cv) := by
  unfold IbcChannelOpen.onAcknowledgement
  refine .guard ?_
  refine Relates.liftSame.bindEq fun metadata => ?_
  refine Relates.liftSame.bindEq fun _ => ?_
  refine .guard ?_
  exact (hstate _).bindEq fun _ => (hsave _).bindEq fun _ => .pure rfl

/-- `CloseConfirm` looks at the channel record. -/
theorem relates_confirm (hload : LoadsChannel R) (hsave : SavesChannel R) :
    Relates R Eq (IbcChannelClose.confirm channel) (IbcChannelClose.confirm channel) := by
  unfold IbcChannelClose.confirm
  refine hload.bindEq fun cs => .guard ?_
  exact (hsave _).bindEq fun _ => .pure rfl

/-! ### `ibc/relay.rs`

The counters may differ: what is asked is that the increment is done alike.
-/

/-- An acknowledgement looks at the counter of its outcome. -/
theorem relates_ibcPacketAck {Q : CallbackCounter → CallbackCounter → Prop}
    (hcounter : ∀ ack : AcknowledgementData,
      Relates R Q (callbackCounterItem.update (·.record ack) : Call σ CallbackCounter)
        (callbackCounterItem.update (·.record ack) : Call τ CallbackCounter))
    (msg : IbcPacketAckMsg) : Relates R Eq (ibcPacketAck serde msg) (ibcPacketAck serde msg) := by
  refine Relates.liftSame.bindEq fun ack => ?_
  cases ack with
  | result res => exact (hcounter (.result res)).bind fun _ _ _ => .pure rfl
  | error err => exact (hcounter (.error err)).bind fun _ _ _ => .pure rfl

/-- A timeout looks at its counter and at the channel record. -/
theorem relates_ibcPacketTimeout {Q : CallbackCounter → CallbackCounter → Prop}
    (hcounter : Relates R Q
      (callbackCounterItem.update CallbackCounter.incTimeout : Call σ CallbackCounter)
      (callbackCounterItem.update CallbackCounter.incTimeout : Call τ CallbackCounter))
    (hchannel : ∀ f, Relates R Eq (channelStateItem.update f : Call σ ChannelState)
      (channelStateItem.update f : Call τ ChannelState))
    (msg : IbcPacketTimeoutMsg) : Relates R Eq (ibcPacketTimeout msg) (ibcPacketTimeout msg) :=
  hcounter.bind fun _ _ _ => (hchannel _).bindEq fun _ => .pure rfl

/-! ### All entry points at once

Where every item does the same on related stores, so does the contract.
-/

/-- The items do the same on related stores. -/
structure ItemsAlike (R : σ → τ → Prop) : Prop where
  saveInfo : ∀ v, Relates R Eq (contractInfoItem.save v : Call σ PUnit)
    (contractInfoItem.save v : Call τ PUnit)
  loadState : LoadsState R
  saveState : ∀ st, Relates R Eq (stateItem.save st : Call σ PUnit)
    (stateItem.save st : Call τ PUnit)
  findChannel : ∀ s t, R s t → (channelStateItem.find s : Except Fault ChannelState) =
    channelStateItem.find t
  loadChannel : LoadsChannel R
  mayLoadChannel : Relates R Eq (channelStateItem.mayLoad : Call σ (Option ChannelState))
    (channelStateItem.mayLoad : Call τ (Option ChannelState))
  saveChannel : SavesChannel R
  loadCounter : Relates R Eq (callbackCounterItem.load : Call σ CallbackCounter)
    (callbackCounterItem.load : Call τ CallbackCounter)
  saveCounter : ∀ c, Relates R Eq (callbackCounterItem.save c : Call σ PUnit)
    (callbackCounterItem.save c : Call τ PUnit)

theorem relates_instantiate (h : ItemsAlike R) (msg : InstantiateMsg) :
    Relates R Eq (instantiate deps info msg) (instantiate deps info msg) := by
  refine (h.saveInfo _).bindEq fun _ => ?_
  have hrest (admin : Addr) : Relates R Eq (do
      stateItem.save (ContractState.new admin)
      callbackCounterItem.save CallbackCounter.default
      return {} : Call σ Response) (do
      stateItem.save (ContractState.new admin)
      callbackCounterItem.save CallbackCounter.default
      return {} : Call τ Response) :=
    (h.saveState _).bindEq fun _ => (h.saveCounter _).bindEq fun _ => .pure rfl
  cases msg.admin with
  | some admin => exact Relates.liftSame.bindEq hrest
  | none => exact hrest info.sender

/-- **The contract does the same on related stores whose items do.** -/
theorem relates_serve (h : ItemsAlike R) (i : Invocation) :
    Relates R Eq (serve serde i) (serve serde i) := by
  obtain ⟨deps, env, entry⟩ := i
  cases entry with
  | execute info msg => exact (relates_execute h.loadState msg).mapEq
  | query msg =>
      cases msg with
      | getContractState =>
          exact (h.loadState.bindEq fun _ => .pure rfl).mapEq
      | getChannel =>
          exact (h.loadChannel.bindEq fun _ => .pure rfl).mapEq
      | getCallbackCounter =>
          exact (h.loadCounter.bindEq fun _ => .pure rfl).mapEq
  | ibcChannelOpen msg =>
      cases msg with
      | openInit channel =>
          refine (relates_init h.mayLoadChannel fun _ s t hR => ?_).mapEq
          simp only [IcaMetadata.fromChannel, h.findChannel s t hR]
      | openTry channel cv => exact Relates.throw.mapEq
  | ibcChannelConnect msg =>
      cases msg with
      | openAck channel cv =>
          exact (relates_onAcknowledgement (Item.relates_update_eq h.loadState h.saveState)
            h.saveChannel).mapEq
      | openConfirm channel => exact Relates.throw.mapEq
  | ibcChannelClose msg =>
      cases msg with
      | closeInit channel => exact Relates.throw.mapEq
      | closeConfirm channel =>
          exact (relates_confirm h.loadChannel h.saveChannel).mapEq
  | ibcPacketAck msg =>
      exact (relates_ibcPacketAck (fun _ => Item.relates_update_eq h.loadCounter h.saveCounter _)
        msg).mapEq
  | ibcPacketTimeout msg =>
      exact (relates_ibcPacketTimeout (Item.relates_update_eq h.loadCounter h.saveCounter _)
        (Item.relates_update_eq h.loadChannel h.saveChannel) msg).mapEq
  | ibcPacketReceive msg => exact Relates.throw.mapEq

end IcaController
