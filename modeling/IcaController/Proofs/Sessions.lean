/-
A controller does not wear out.

A session is a whole life of a channel: it is offered, answered, sent on, and ends.
How it can end is the host's choice of answer.  `CloseConfirm` asks for the channel
as `OpenAck` stored it, version included, so it ends the sessions whose offer the host
gave back unchanged; where the host filled in the account's address, a session ends by
the timeout of one of its packets.

What a session leaves behind is what the next one needs, a closed channel on the same
terms.  So a run of a real chain goes on with as many sessions as there are fresh
channel ids and as the counter of timeouts has room for, one after the other.
-/
import IcaController.Proofs.Memory

namespace IcaController

variable {serde : SerdeJsonWasm} {past newer older : List ContractTurn} {s : Storage}
  {m : IcaMetadata} {admin : Addr}

/-! ### Sessions -/

/-- A call of the admin, with the packet it asks for. -/
structure Send where
  env : Env
  msg : ExecuteMsg
  message : IbcMsg

/-- How the channel of a session ends. -/
inductive Ending where
  /-- The host closes it, and the closing is confirmed. -/
  | confirmed
  /-- One of its packets times out. -/
  | expired (packet : IbcPacket)

/-- The ending is counted as a timeout. -/
def Ending.expires : Ending → Bool
  | .confirmed => false
  | .expired _ => true

structure Session where
  deps : Deps
  env : Env
  channel : IbcChannel
  offer : IcaMetadata
  answer : IcaMetadata
  sends : List Send
  ending : Ending

namespace Session

def id (x : Session) : String := x.channel.endpoint.channelId

/-- The account the host's answer names. -/
def account (x : Session) : IcaInfo := accountOf (x.channel, x.answer)

/-- The chain can play the session on the terms `m`. -/
structure Fits (m : IcaMetadata) (x : Session) : Prop where
  offered : Negotiable x.channel x.offer
  terms : SameTerms x.offer m
  answered : ValidFor x.answer x.channel.connectionId
  named : x.answer.address ≠ ""
  sends : ∀ y ∈ x.sends, y.msg.request y.env x.account = .ok y.message
  confirmed : x.ending = .confirmed → x.answer = x.offer
  expired : ∀ packet, x.ending = .expired packet → ∃ y ∈ x.sends, y.message = packet.message

/-- The call that ends the session: a confirmed channel carries the version of the answer. -/
def lastEntry (x : Session) : EntryPoint :=
  match x.ending with
  | .confirmed => .ibcChannelClose (.closeConfirm { x.channel with version := x.answer.toString })
  | .expired packet => .ibcPacketTimeout ⟨packet⟩

/-- The calls of the session in their order, each with its answer. -/
def script (admin : Addr) (x : Session) : List (Invocation × Except Fault Answer) :=
  [(⟨x.deps, x.env, .ibcChannelOpen (.openInit x.channel.offered)⟩,
      .ok (.channelOpen (some ⟨x.offer.toString⟩))),
    (⟨x.deps, x.env, .ibcChannelConnect (.openAck x.channel x.answer.toString)⟩,
      .ok (.basic {}))] ++
    x.sends.map (fun y => (⟨x.deps, y.env, .execute ⟨admin⟩ y.msg⟩,
      .ok (.response { messages := [y.message] }))) ++
    [(⟨x.deps, x.env, x.lastEntry⟩, .ok (.basic {}))]

end Session

/-- The calls of a run and their answers, oldest first. -/
def played (turns : List ContractTurn) : List (Invocation × Except Fault Answer) :=
  turns.reverse.map fun t => (t.call, t.answer)

theorem played_append : played (newer ++ older) = played older ++ played newer := by
  simp [played]

/-! ### One session -/

/-- The turn a call of the admin takes. -/
def Send.turn (deps : Deps) (s : Storage) (admin : Addr) (y : Send) : ContractTurn :=
  ⟨s, ⟨deps, y.env, .execute ⟨admin⟩ y.msg⟩, .ok (.response { messages := [y.message] }), s⟩

/-- A run of a real chain goes on with any packets of the admin. -/
theorem ContractRuns.sendAll {st : ContractState} {ica : IcaInfo}
    (h : ContractRuns serde ibcCore past s) (deps : Deps) (hst : s.state = some st)
    (hica : st.icaInfo = some ica) (sends : List Send)
    (hsends : ∀ y ∈ sends, y.msg.request y.env ica = .ok y.message) :
    ContractRuns serde ibcCore ((sends.map (Send.turn deps s st.admin)).reverse ++ past) s := by
  induction sends generalizing past with
  | nil => exact h
  | cons y rest ih =>
      obtain ⟨hy, hrest⟩ := List.forall_mem_cons.mp hsends
      have hlater := ih (h.send deps y.env hst hica hy) hrest
      simpa [Send.turn] using hlater

theorem history_sends (deps : Deps) (sends : List Send) :
    history (sends.map (Send.turn deps s admin)).reverse = [] := by
  simp [history, Send.turn, ContractTurn.peerEvent?]

theorem outcomes_sends (deps : Deps) (sends : List Send) :
    outcomes serde (sends.map (Send.turn deps s admin)).reverse = [] := by
  simp [outcomes, Send.turn, ContractTurn.outcome?, EntryPoint.outcome?]

/-- Between sessions: what the terms say may be proposed to the admin's contract. -/
structure Ready (serde : SerdeJsonWasm) (admin : Addr) (m : IcaMetadata)
    (past : List ContractTurn) (s : Storage) : Prop where
  run : ContractRuns serde ibcCore past s
  admin : AdminIs admin s
  follows : Follows serde s m

/-- The run up to the ending of a session. -/
def Session.upToEnding (s : Storage) (st : ContractState) (x : Session) : List ContractTurn :=
  (x.sends.map (Send.turn x.deps (s.opened st x.channel x.answer) st.admin)).reverse ++
    [⟨s, ⟨x.deps, x.env, .ibcChannelConnect (.openAck x.channel x.answer.toString)⟩,
        .ok (.basic {}), s.opened st x.channel x.answer⟩,
      ⟨s, ⟨x.deps, x.env, .ibcChannelOpen (.openInit x.channel.offered)⟩,
        .ok (.channelOpen (some ⟨x.offer.toString⟩)), s⟩]

theorem history_upToEnding (x : Session) (s : Storage) (st : ContractState) :
    history (x.upToEnding s st) = [.opened x.id] := by
  rw [Session.upToEnding, history_append, history_sends]
  rfl

theorem outcomes_upToEnding (x : Session) (s : Storage) (st : ContractState) :
    outcomes serde (x.upToEnding s st) = [] := by
  rw [Session.upToEnding, outcomes_append, outcomes_sends]
  rfl

/-- A session can be played as far as its ending. -/
theorem Ready.upToEnding {x : Session} {st : ContractState} (h : Ready serde admin m past s)
    (hinv : serde.InvertsToString) (hx : x.Fits m) (hfresh : .opened x.id ∉ history past)
    (hst : s.state = some st) :
    ContractRuns serde ibcCore (x.upToEnding s st ++ past) (s.opened st x.channel x.answer) := by
  have hfollows : Follows serde s x.offer := by
    intro cs hcs
    obtain ⟨hclosed, previous, hdec, hsame⟩ := h.follows cs hcs
    exact ⟨hclosed, previous, hdec, hx.terms.trans hsame⟩
  have hoffer := h.run.offer x.deps x.env hinv hx.offered hfollows
  have hanswer := hoffer.answer x.deps x.env hinv hx.offered hx.answered hx.named hst
    ⟨_, List.mem_cons_self, rfl⟩ hfresh
  have hsends := hanswer.sendAll x.deps rfl rfl x.sends hx.sends
  rw [Session.upToEnding, List.append_assoc]
  exact hsends

/-- The turns of a session after its ending. -/
structure Session.Played (serde : SerdeJsonWasm) (admin : Addr) (x : Session)
    (block : List ContractTurn) : Prop where
  script : played block = x.script admin
  opened : ∀ id, .opened id ∈ history block → id = x.id
  timeouts : (outcomes serde block).count .timeout = if x.ending.expires then 1 else 0

/-- The ending completes a session played so far. -/
theorem Session.played_of_last {x : Session} {st : ContractState} {t : ContractTurn}
    (hcall : t.call = ⟨x.deps, x.env, x.lastEntry⟩) (hanswer : t.answer = .ok (.basic {})) :
    x.Played serde st.admin (t :: x.upToEnding s st) := by
  obtain ⟨before, call, answer, after⟩ := t
  obtain rfl : call = _ := hcall
  obtain rfl : answer = _ := hanswer
  refine ⟨?_, ?_, ?_⟩
  · simp [played, upToEnding, script, Send.turn]
  · intro id hid
    rw [history_cons, history_upToEnding] at hid
    cases hending : x.ending <;>
      simpa [ContractTurn.peerEvent?, lastEntry, hending] using hid
  · rw [outcomes_cons, outcomes_upToEnding]
    cases hending : x.ending <;>
      simp [ContractTurn.outcome?, EntryPoint.outcome?, lastEntry, hending, Ending.expires]

/-- A session can be played, and the contract is ready again. -/
theorem Ready.session {x : Session} (h : Ready serde admin m past s)
    (hinv : serde.InvertsToString) (hx : x.Fits m) (hfresh : .opened x.id ∉ history past)
    (hroom : (outcomes serde past).count .timeout + (if x.ending.expires then 1 else 0) <
      UInt32.size) :
    ∃ block s', Ready serde admin m (block ++ past) s' ∧ x.Played serde admin block := by
  obtain ⟨st, hst, rfl⟩ := h.admin
  have hopen := h.upToEnding hinv hx hfresh hst
  -- the channel was stored with the offer as its version, and that is what the next offer meets
  have hdec : serde.fromStr x.channel.version = some x.offer := by
    rw [hx.offered.version]
    exact hinv x.offer
  have hstored : (s.opened st x.channel x.answer).channelState =
    some (.newOpenChannel x.channel) := rfl
  have hfollows (s' : Storage)
      (hcs' : s'.channelState = some (ChannelState.newOpenChannel x.channel).close) :
      Follows serde s' m := by
    intro cs hcs
    rw [hcs', Option.some.injEq] at hcs
    subst hcs
    exact ⟨rfl, x.offer, hdec, hx.terms.symm⟩
  cases hending : x.ending with
  | confirmed =>
      have hclose := hopen.hangUp x.deps x.env hstored
      have hlast : x.lastEntry = .ibcChannelClose (.closeConfirm x.channel) := by
        rw [Session.lastEntry, hending, hx.confirmed hending, ← hx.offered.version]
      exact ⟨_ :: x.upToEnding s st, _, ⟨hclose, ⟨_, rfl, rfl⟩, hfollows _ rfl⟩,
        Session.played_of_last (by rw [hlast]; rfl) rfl⟩
  | expired packet =>
      obtain ⟨y, hy, hmessage⟩ := hx.expired packet hending
      obtain ⟨c, hc, htally⟩ := hopen.tallies
      have hsent : packet.message ∈
          (y.turn x.deps (s.opened st x.channel x.answer) st.admin).sent := by
        rw [← hmessage]
        exact List.mem_cons_self
      have hcount : c.timeout.toNat + 1 < UInt32.size := by
        have hnone := htally .timeout
        rw [outcomes_append, outcomes_upToEnding, List.nil_append] at hnone
        rw [hending] at hroom
        exact hnone ▸ hroom
      obtain ⟨c', hinc⟩ := (exists_inc_iff (o := .timeout)).mpr hcount
      have hexpire := hopen.expire x.deps x.env packet ⟨_, ?_, hsent⟩ hstored hc hinc
      · have hlast : x.lastEntry = .ibcPacketTimeout ⟨packet⟩ := by
          rw [Session.lastEntry, hending]
        exact ⟨_ :: x.upToEnding s st, _, ⟨hexpire, ⟨_, rfl, rfl⟩, hfollows _ rfl⟩,
          Session.played_of_last (by rw [hlast]) rfl⟩
      · exact List.mem_append_left _ (List.mem_append_left _
          (List.mem_reverse.mpr (List.mem_map_of_mem hy)))

/-! ### Any number of sessions

One session leads from a contract that is ready to one that is ready again, on the same
terms.  The rest is induction on the list.
-/

/--
**Sessions can be held without end**: every run of a real chain that ends with nothing
stored, or with a closed channel on the same terms, goes on with one session after the
other, each on a fresh channel, as long as the counter of timeouts has room.  Every
call of the sessions is accepted, with the answer the sessions' scripts have for it.
-/
theorem sessions_repeat (hinv : serde.InvertsToString) (sessions : List Session)
    (hrun : ContractRuns serde ibcCore past s) (hadmin : AdminIs admin s)
    (hfollows : Follows serde s m) (hfits : ∀ x ∈ sessions, x.Fits m)
    (hdistinct : (sessions.map Session.id).Nodup)
    (hfresh : ∀ x ∈ sessions, .opened x.id ∉ history past)
    (hroom : (outcomes serde past).count .timeout +
      sessions.countP (·.ending.expires) < UInt32.size) :
    ∃ later s', ContractRuns serde ibcCore (later ++ past) s' ∧ Follows serde s' m ∧
      played later = sessions.flatMap (Session.script admin) := by
  induction sessions generalizing past s with
  | nil => exact ⟨[], s, hrun, hfollows, rfl⟩
  | cons x rest ih =>
      obtain ⟨hx, hrest⟩ := List.forall_mem_cons.mp hfits
      obtain ⟨hnew, hnews⟩ := List.forall_mem_cons.mp hfresh
      obtain ⟨hnotin, hdistinct⟩ := List.nodup_cons.mp hdistinct
      rw [List.countP_cons] at hroom
      obtain ⟨block, s₁, hready, hplayed⟩ :=
        Ready.session ⟨hrun, hadmin, hfollows⟩ hinv hx hnew (by omega)
      have hstill : ∀ y ∈ rest, .opened y.id ∉ history (block ++ past) := by
        intro y hy hmem
        rw [history_append] at hmem
        rcases List.mem_append.mp hmem with hmem | hmem
        · exact hnotin (List.mem_map.mpr ⟨y, hy, hplayed.opened y.id hmem⟩)
        · exact hnews y hy hmem
      have hleft : (outcomes serde (block ++ past)).count .timeout +
          rest.countP (·.ending.expires) < UInt32.size := by
        rw [outcomes_append, List.count_append, hplayed.timeouts]
        omega
      obtain ⟨later, s', hlater, hfollows', hscript⟩ :=
        ih hready.run hready.admin hready.follows hrest hdistinct hstill hleft
      refine ⟨later ++ block, s', ?_, hfollows', ?_⟩
      · rw [List.append_assoc]
        exact hlater
      · rw [played_append, hplayed.script, hscript, List.flatMap_cons]

/-- The host names the account, and the channel ends when the admin's packet times out. -/
def sampleSession : Session where
  deps := sampleDeps
  env := sampleEnv
  channel := sampleChannel "channel-0" blankMetadata
  offer := blankMetadata
  answer := sampleMetadata
  sends := [⟨sampleEnv, sampleMsg, samplePacket.message⟩]
  ending := .expired samplePacket

/-- The account is offered by name, and the host closes the channel. -/
def sampleResumed : Session where
  deps := sampleDeps
  env := sampleEnv
  channel := sampleChannel "channel-1" sampleMetadata
  offer := sampleMetadata
  answer := sampleMetadata
  sends := []
  ending := .confirmed

theorem sampleSession_fits : sampleSession.Fits sampleMetadata where
  offered := sampleChannel_negotiable "channel-0" blankMetadata_valid
  terms := ⟨rfl, rfl, rfl, rfl, rfl⟩
  answered := sampleMetadata_valid
  named := by decide
  sends := List.forall_mem_singleton.mpr sampleMsg_request
  confirmed := by simp [sampleSession]
  expired := by
    intro packet hpacket
    cases hpacket
    exact ⟨_, List.mem_cons_self, rfl⟩

theorem sampleResumed_fits : sampleResumed.Fits sampleMetadata where
  offered := sampleChannel_negotiable "channel-1" sampleMetadata_valid
  terms := .refl _
  answered := sampleMetadata_valid
  named := by decide
  sends := by simp [sampleResumed]
  confirmed := fun _ => rfl
  expired := by simp [sampleResumed]

/-- Two sessions of a new contract. -/
theorem sessions_repeat_sample :
    ∃ past s, ContractRuns jsonReader ibcCore past s ∧
      played past = sampleSession.script "admin" ++ sampleResumed.script "admin" := by
  obtain ⟨later, s', hrun, -, hplayed⟩ := sessions_repeat jsonReader_invertsToString
    [sampleSession, sampleResumed] (.fresh "admin") ⟨_, rfl, rfl⟩ (.of_none rfl)
    (List.forall_mem_cons.mpr
      ⟨sampleSession_fits, List.forall_mem_singleton.mpr sampleResumed_fits⟩)
    (by decide) (fun _ _ => List.not_mem_nil) (by decide)
  exact ⟨later ++ [], s', hrun, by rw [List.append_nil, hplayed]; rfl⟩

end IcaController
