import Mathlib.Data.List.Nodup
import ChatConsole.Proofs.Gateway.Settled
import ChatConsole.Proofs.Session.Requests

/-! # One channel at a time

A gateway that records keeps a line for every request that it accepts. `Core.Owns` ties the core of
a session to such a gateway: the lines stand in the order of their numbers, all of them used up, and
the one line that the session still holds is that of its channel. Whichever way a channel ends, by a
close of the session, by one that makes room for the next channel or by one that came in, its line
is over afterwards.
-/

namespace ChatConsole

/-- A gateway of this policy keeps a line for every request that it accepts. -/
def Policy.isRecording : Policy → Bool
  | .accept | .refuse _ => true
  | .ignore | .network => false

namespace Gateway

theorem eq_line_of_answer {g : Gateway} (hPolicy : g.policy.isRecording) {link : Link}
    (h : g.answer = .ok link) : link = .line := by
  unfold answer at h
  cases hCase : g.policy with
  | accept =>
    rw [hCase] at h
    exact (Except.ok.inj h).symm
  | refuse message =>
    rw [hCase] at h
    cases h
  | ignore =>
    rw [hCase] at hPolicy
    cases hPolicy
  | network =>
    rw [hCase] at hPolicy
    cases hPolicy

/-- The channels that the session has not ended, as a look at each of them tells. -/
def liveChannels (g : Gateway) : List ChannelId :=
  g.channels.filter fun id => !(g.closedByClient id).1

/-- The numbers of the lines grow. -/
def Increasing (g : Gateway) : Prop := g.channels.Pairwise fun i j => i.number < j.number

theorem Increasing.nodup {g : Gateway} (h : g.Increasing) : g.channels.Nodup :=
  h.imp fun hLt hEq => by rw [hEq] at hLt; exact Nat.lt_irrefl _ hLt

/-- A line with a number beyond all others goes to the end. -/
theorem Increasing.accept {g : Gateway} (h : g.Increasing) {request : OpenRequest}
    (hUsed : ∀ id ∈ g.channels, id.number < request.channel.number) :
    (g.accept request .line).Increasing := by
  unfold Increasing
  rw [channels_accept, List.pairwise_append]
  refine ⟨h, List.pairwise_singleton .., fun i hi j hj => ?_⟩
  rw [List.mem_singleton.mp hj]
  exact hUsed i hi

/-- With one line to a channel, a look at a channel finds the account of its line. -/
theorem closedByClient_of_mem {g : Gateway} (h : g.channels.Nodup) {a : Account}
    (ha : a ∈ g.accounts) : (g.closedByClient a.channel).1 = !a.live := by
  have hFind : g.accounts.find? (·.channel == a.channel) = some a := by
    rw [← map_channel_accounts] at h
    cases hFound : g.accounts.find? (·.channel == a.channel) with
    | none => exact absurd (List.find?_eq_none.mp hFound a ha) (by simp)
    | some b =>
      have hChannel : b.channel = a.channel := by simpa using List.find?_some hFound
      have hInj := List.inj_on_of_nodup_map h (List.mem_of_find?_eq_some hFound) ha hChannel
      rw [hInj]
  rw [closedByClient_fst, hFind]
  rfl

theorem liveChannels_eq {g : Gateway} (h : g.channels.Nodup) :
    g.liveChannels = (g.accounts.filter (·.live)).map Account.channel := by
  unfold liveChannels
  rw [← map_channel_accounts, List.filter_map]
  congr 1
  refine List.filter_congr fun a ha => ?_
  rw [Function.comp_apply, closedByClient_of_mem h ha, Bool.not_not]

theorem length_liveChannels {g : Gateway} (h : g.channels.Nodup) :
    g.liveChannels.length = g.liveCount.1 := by
  rw [liveChannels_eq h, List.length_map, liveCount_fst]

end Gateway

namespace Session

namespace Look

variable (g : Gateway) (l : Look)

theorem policy_after : (l.after g).policy = g.policy := by
  cases l <;> rfl

theorem listening_after {g : Gateway} (h : g.Listening) : (l.after g).Listening := by
  cases l with
  | live => exact h.map fun _ => rfl
  | sent id => exact h.onLine (f := Gateway.Line.collect) (fun _ => rfl) id
  | closed id => exact h.onLine (f := Gateway.Line.collect) (fun _ => rfl) id

end Look

namespace Core

/-- How the channel of a core stands in the books of a gateway that records. -/
structure Owns (c : Core) (g : Gateway) : Prop where
  listening : g.Listening
  increasing : g.Increasing
  used : ∀ id ∈ g.channels, id.number < c.nextId.number
  live_iff : ∀ a ∈ g.accounts, a.live ↔ c.activeId? = some a.channel
  held : ∀ held, c.channel = some held → held.link = .line ∧ held.id ∈ g.channels

namespace Owns

variable {c c' : Core} {g g' : Gateway}

theorem of_eq (h : c.Owns g) (hChannel : c'.channel = c.channel)
    (hNext : c.nextId.number ≤ c'.nextId.number) : c'.Owns g where
  listening := h.listening
  increasing := h.increasing
  used := fun id hId => Nat.lt_of_lt_of_le (h.used id hId) hNext
  live_iff := by
    unfold activeId?
    rw [hChannel]
    exact h.live_iff
  held := by
    rw [hChannel]
    exact h.held

/-- A change of the accounts that leaves each where it is. -/
theorem of_map (h : c.Owns g) (hNext : c'.nextId = c.nextId) (hListening : g'.Listening)
    {F : Gateway.Account → Gateway.Account} (hF : ∀ a, (F a).channel = a.channel)
    (hAccounts : g'.accounts = g.accounts.map F)
    (hLive : ∀ a ∈ g.accounts, (F a).live ↔ c'.activeId? = some a.channel)
    (hHeld : ∀ held, c'.channel = some held → c.channel = some held) : c'.Owns g' := by
  have hChannels : g'.channels = g.channels := by
    rw [← Gateway.map_channel_accounts, ← Gateway.map_channel_accounts, hAccounts, List.map_map]
    exact List.map_congr_left fun a _ => hF a
  refine ⟨hListening, ?_, ?_, ?_, ?_⟩
  · unfold Gateway.Increasing
    rw [hChannels]
    exact h.increasing
  · rw [hChannels, hNext]
    exact h.used
  · intro a' ha'
    rw [hAccounts] at ha'
    obtain ⟨a, ha, rfl⟩ := List.mem_map.mp ha'
    rw [hF]
    exact hLive a ha
  · intro held hSame
    rw [hChannels]
    exact h.held held (hHeld held hSame)

/-- A gateway with the same accounts is as good. -/
theorem of_accounts (h : c.Owns g) (hListening : g'.Listening)
    (hAccounts : g'.accounts = g.accounts) : c.Owns g' :=
  h.of_map rfl hListening (fun _ => rfl) (hAccounts.trans (List.map_id' _).symm) h.live_iff
    fun _ hHeld => hHeld

/-- An end leaves no line of the session's behind. -/
theorem ended (h : c.Owns g) {id : ChannelId} (hActive : c.activeId? = some id)
    (hChannel : c'.channel = none) (hNext : c'.nextId = c.nextId) (hListening : g'.Listening)
    (hAccounts : g'.accounts =
      g.accounts.map fun a => if a.channel = id then { a with live := false } else a) :
    c'.Owns g' := by
  refine h.of_map hNext hListening (fun a => ?_) hAccounts (fun a ha => ?_) fun held hHeld => ?_
  · split <;> rfl
  · rw [activeId?, hChannel]
    refine iff_of_false ?_ (Option.some_ne_none _).symm
    split
    · exact Bool.false_ne_true
    · next hOther =>
      -- a line of another channel was over before
      intro hLive
      have hSame := (h.live_iff a ha).mp hLive
      rw [hActive] at hSame
      exact hOther (Option.some.inj hSame).symm
  · rw [hChannel] at hHeld
    cases hHeld

theorem close (h : c.Owns g) {id : ChannelId} (hActive : c.activeId? = some id)
    (hChannel : c'.channel = none) (hNext : c'.nextId = c.nextId) : c'.Owns (g.close id) :=
  h.ended hActive hChannel hNext (h.listening.close id)
    (Gateway.accounts_close h.increasing.nodup id)

theorem drop (h : c.Owns g) {id : ChannelId} (hActive : c.activeId? = some id)
    (hChannel : c'.channel = none) (hNext : c'.nextId = c.nextId) : c'.Owns (g.drop id) :=
  h.ended hActive hChannel hNext (h.listening.drop id)
    (Gateway.accounts_drop h.increasing.nodup id)

/-- The end of the channel held, if there is one. -/
theorem ending (h : c.Owns g) (hChannel : c'.channel = none) (hNext : c'.nextId = c.nextId) :
    c'.Owns (c.ending.foldl Gateway.perform g) := by
  rcases Option.eq_none_or_eq_some c.activeId? with hNone | ⟨id, hActive⟩
  · rw [Core.ending, hNone]
    refine h.of_eq ?_ (Nat.le_of_eq (by rw [hNext]))
    rw [hChannel, Option.map_eq_none_iff.mp hNone]
  · rw [Core.ending, hActive]
    exact h.close hActive hChannel hNext

/-- A text that is sent leaves every line where it is. -/
theorem deliver (h : c.Owns g) (id : ChannelId) (text : String) : c.Owns (g.deliver id text) := by
  refine h.of_map rfl (h.listening.deliver id text) (fun a => ?_)
    (Gateway.accounts_deliver h.listening h.increasing.nodup id text) (fun a ha => ?_)
    fun _ hHeld => hHeld
  · split <;> rfl
  · split <;> exact h.live_iff a ha

/-- A line for the next channel, once no other is held. -/
theorem accept (h : c.Owns g) (hNone : c.channel = none) {request : OpenRequest} {held : Held}
    (hRequest : request.channel = c.nextId) (hId : held.id = c.nextId) (hLink : held.link = .line)
    (hChannel : c'.channel = some held) (hNext : c'.nextId = c.nextId.next) :
    c'.Owns (g.accept request .line) := by
  have hChannels := g.channels_accept request
  have hActive : c'.activeId? = some c.nextId := by rw [activeId?, hChannel, ← hId]; rfl
  refine ⟨h.listening.accept request, h.increasing.accept (hRequest ▸ h.used), ?_, ?_, ?_⟩
  · intro id hId
    rw [hChannels, hRequest] at hId
    rw [hNext]
    rcases List.mem_append.mp hId with hOld | hNew
    · exact Nat.lt_succ_of_lt (h.used id hOld)
    · rw [List.mem_singleton.mp hNew]
      exact Nat.lt_succ_self _
  · intro a ha
    rw [g.accounts_accept] at ha
    rw [hActive]
    rcases List.mem_append.mp ha with hOld | hNew
    · have hOver := h.live_iff a hOld
      rw [activeId?, hNone] at hOver
      refine ⟨fun hLive => ?_, fun hSame => ?_⟩
      · cases hOver.mp hLive
      · have hUsed := h.used a.channel (by
          rw [← Gateway.map_channel_accounts]
          exact List.mem_map_of_mem hOld)
        rw [Option.some.inj hSame] at hUsed
        exact absurd hUsed (Nat.lt_irrefl _)
    · rw [List.mem_singleton.mp hNew, hRequest]
      exact iff_of_true rfl rfl
  · intro held' hHeld
    rw [hChannel] at hHeld
    obtain rfl := Option.some.inj hHeld
    refine ⟨hLink, ?_⟩
    rw [hChannels, hRequest, hId]
    exact List.mem_append_right _ List.mem_cons_self

/-- The live lines are those of the channel held. -/
theorem mem_liveChannels (h : c.Owns g) (id : ChannelId) :
    id ∈ g.liveChannels ↔ c.activeId? = some id := by
  rw [Gateway.liveChannels_eq h.increasing.nodup]
  constructor
  · intro hId
    obtain ⟨a, ha, rfl⟩ := List.mem_map.mp hId
    exact (h.live_iff a (List.mem_filter.mp ha).1).mp (List.mem_filter.mp ha).2
  · intro hActive
    obtain ⟨held, hHeld, rfl⟩ := Option.map_eq_some_iff.mp hActive
    have hKnown := (h.held held hHeld).2
    rw [← Gateway.map_channel_accounts] at hKnown
    obtain ⟨a, ha, hSame⟩ := List.mem_map.mp hKnown
    rw [← hSame] at hActive ⊢
    exact List.mem_map_of_mem (List.mem_filter.mpr ⟨ha, (h.live_iff a ha).mpr hActive⟩)

theorem liveChannels (h : c.Owns g) : g.liveChannels = c.activeId?.toList := by
  have hNodup : g.liveChannels.Nodup := h.increasing.nodup.filter _
  cases hActive : c.activeId? with
  | none =>
    refine List.eq_nil_iff_forall_not_mem.mpr fun id hId => ?_
    rw [h.mem_liveChannels, hActive] at hId
    cases hId
  | some id =>
    refine List.perm_singleton.mp ((List.perm_ext_iff_of_nodup hNodup (List.nodup_singleton id)).mpr
      fun j => ?_)
    rw [h.mem_liveChannels, hActive, List.mem_singleton, Option.some.injEq, eq_comm]

/-! ## Each step keeps it -/

/-- What a step makes of the books: its orders are carried out. -/
abbrev After (g : Gateway) (step : Step) : Prop :=
  step.1.Owns ((orders step.2).foldl Gateway.perform g)

theorem disconnect (h : c.Owns g) : After g c.disconnect := by
  show c.disconnect.1.Owns _
  rw [orders_disconnect]
  exact h.ending c.disconnect_channel c.disconnect_nextId

theorem vacate (h : c.Owns g) : After g c.vacate := by
  show c.vacate.1.Owns _
  rw [orders_vacate]
  exact h.ending c.vacate_channel c.vacate_nextId

theorem openNext (h : c.Owns g) (hNone : c.channel = none) {w : Conditions}
    (hAnswer : ∀ request link, w.answer request = .ok link → link = .line) (role : Role) :
    After g (c.openNext w role) := by
  show (c.openNext w role).1.Owns _
  cases hMake : OpenRequest.make c.nextId w.endpoint role with
  | error e =>
    rw [openNext_of_rejected hMake]
    exact h.of_eq rfl (Nat.le_succ _)
  | ok request =>
    cases hAnswered : w.answer request with
    | ok link =>
      obtain rfl := hAnswer request link hAnswered
      rw [openNext_of_accepted hMake hAnswered]
      exact h.accept hNone (make_eq_ok hMake).1 rfl rfl rfl rfl
    | error e =>
      rw [openNext_of_refused hMake hAnswered]
      exact h.of_eq rfl (Nat.le_succ _)

theorem connect (h : c.Owns g) {w : Conditions}
    (hAnswer : ∀ request link, w.answer request = .ok link → link = .line) (role : Role) :
    After g (c.connect w role) := by
  show (c.connect w role).1.Owns _
  rw [connect_eq, orders_append, List.foldl_append]
  exact h.vacate.openNext c.vacate_channel hAnswer role

theorem changeRole (h : c.Owns g) (w : Conditions) (role : Role) (now : Time.Instant) :
    After g (c.changeRole w role now) := by
  show (c.changeRole w role now).1.Owns _
  rw [orders_changeRole]
  by_cases hAgain : c.isConnected ∨ c.pending.isSome
  · rw [if_pos hAgain, changeRole_of_again hAgain]
    exact h.ending (disconnect_channel { c with role }) (disconnect_nextId { c with role })
  · rw [if_neg hAgain]
    rw [not_or, Option.not_isSome_iff_eq_none] at hAgain
    rw [changeRole_of_quiet hAgain.1 hAgain.2]
    exact h.of_eq rfl (Nat.le_refl _)

theorem tick (h : c.Owns g) {w : Conditions}
    (hAnswer : ∀ request link, w.answer request = .ok link → link = .line) (now : Time.Instant) :
    After g (c.tick w now) := by
  show (c.tick w now).1.Owns _
  cases hDue : c.dueRole? now with
  | none =>
    rw [tick_of_not_due hDue]
    exact h
  | some role =>
    rw [tick_of_due hDue]
    exact h.connect hAnswer role

theorem sending (h : c.Owns g) (w : Conditions) (text : String) :
    After g (c, (c.sending w text).effects) := by
  show c.Owns _
  cases c.sending w text with
  | sent id text => exact h.deliver id text
  | _ => exact h

theorem onEvent (h : c.Owns g) (e : ChannelEvent) : After g (c.onEvent e) := by
  show (c.onEvent e).1.Owns _
  rw [orders_onEvent]
  split
  · next hEnd =>
    rw [onEvent_of_active e hEnd.1]
    cases e with
    | closed id reason => exact h.drop hEnd.1 rfl rfl
    | _ => cases hEnd.2
  · next hGoesOn =>
    refine h.of_eq ?_ (Nat.le_of_eq (by rw [onEvent_nextId]))
    by_cases hActive : c.activeId? = some e.channel
    · rw [onEvent_of_active e hActive]
      cases e with
      | message id raw => exact c.onMessage_channel raw
      | closed id reason => exact absurd ⟨hActive, rfl⟩ hGoesOn
      | _ => rfl
    · rw [onEvent_of_other hActive]

end Owns

end Core

/-! ## The acts of a run -/

/-- An act after which a gateway that records still does. -/
def Act.isRecording : Act → Bool
  | .answer policy _ => policy.isRecording
  | _ => true

/-- A session whose gateway records, and whose books are in order. -/
structure Recorded (s : Session) : Prop where
  recording : s.gateway.policy.isRecording
  lifecycle : s.core.Lifecycle
  owns : s.core.Owns s.gateway

theorem recorded_start (settings : Settings) (role : Role) {policy : Policy}
    (hPolicy : policy.isRecording) : (start settings role { policy }).Recorded where
  recording := hPolicy
  lifecycle := Core.lifecycle_fresh role
  owns :=
    { listening := List.forall_mem_nil _
      increasing := List.Pairwise.nil
      used := List.forall_mem_nil _
      live_iff := List.forall_mem_nil _
      held := by
        intro held hHeld
        cases hHeld }

namespace Recorded

variable {s : Session}

theorem answer_eq_line (h : s.Recorded) (request : OpenRequest) (link : Link)
    (hAnswer : s.conditions.answer request = .ok link) : link = .line :=
  Gateway.eq_line_of_answer h.recording hAnswer

theorem advance (h : s.Recorded) (now : Time.Instant) {step : Step} (hLifecycle : step.1.Lifecycle)
    (hOwns : Core.Owns.After s.gateway step) : (s.advance now step).Recorded where
  recording := by
    rw [advance_gateway, Gateway.foldl_perform_policy]
    exact h.recording
  lifecycle := by
    rw [advance_core]
    exact hLifecycle
  owns := by
    rw [advance_core, advance_gateway_orders]
    exact hOwns

theorem vacate (h : s.Recorded) (now : Time.Instant) : (s.vacate now).Recorded :=
  h.advance now (h.lifecycle.vacate_fst ▸ Core.lifecycle_idle s.core) h.owns.vacate

theorem look (h : s.Recorded) (l : Look) : Recorded { s with gateway := l.after s.gateway } where
  recording := by
    rw [Look.policy_after]
    exact h.recording
  lifecycle := h.lifecycle
  owns := h.owns.of_accounts (l.listening_after h.owns.listening)
    (Gateway.accounts_eq_of_settled (s.gateway.settled_after l))

theorem act (h : s.Recorded) (now : Time.Instant) {a : Act} (hPump : a ≠ .pump)
    (ha : a.isRecording) : (s.act now a).Recorded := by
  cases a with
  | connect role =>
    exact h.advance now (h.lifecycle.connect _ role) (h.owns.connect h.answer_eq_line role)
  | connectCurrent =>
    exact h.advance now (h.lifecycle.connect _ _) (h.owns.connect h.answer_eq_line _)
  | disconnect => exact h.advance now h.lifecycle.disconnect h.owns.disconnect
  | changeRole role changedAt =>
    exact h.advance now (h.lifecycle.changeRole _ role changedAt)
      (h.owns.changeRole _ role changedAt)
  | tick reading =>
    exact h.advance now (h.lifecycle.tick _ reading) (h.owns.tick h.answer_eq_line reading)
  | send text => exact h.advance now h.lifecycle (h.owns.sending _ text)
  | notify text => exact ⟨h.recording, h.lifecycle, h.owns⟩
  | handle e => exact h.advance now (h.lifecycle.onEvent e) (h.owns.onEvent e)
  | enqueue e => exact ⟨h.recording, h.lifecycle, h.owns⟩
  | emit e =>
    show (s.emit e).Recorded
    unfold emit
    split
    · exact ⟨h.recording, h.lifecycle, h.owns⟩
    · exact h
  | pump => exact absurd rfl hPump
  | answer policy running => exact ⟨ha, h.lifecycle, h.owns.of_accounts h.owns.listening rfl⟩
  | look l => exact h.look l

theorem run (h : s.Recorded) {acts : List Timed} (hActs : ∀ a ∈ acts, a.2.isRecording) :
    (s.run acts).Recorded :=
  run_keeps (A := fun a => a.isRecording) (fun _ => rfl)
    (fun _ _ h => ⟨h.recording, h.lifecycle, h.owns⟩)
    (fun now _ _ hPump ha h => h.act now hPump ha) acts hActs s h

theorem liveChannels (h : s.Recorded) : s.gateway.liveChannels = s.core.activeId?.toList :=
  h.owns.liveChannels

theorem liveCount (h : s.Recorded) :
    s.gateway.liveCount.1 = s.core.activeId?.toList.length := by
  rw [← Gateway.length_liveChannels h.owns.increasing.nodup, h.liveChannels]

/-- When a request is put to the gateway, no line of the session's is left. -/
theorem of_mem_attempts (h : s.Recorded) {acts : List Timed}
    (hActs : ∀ a ∈ acts, a.2.isRecording) {m : Attempt} (hm : m ∈ s.attempts acts) :
    m.session.core.channel = none ∧ m.session.gateway.liveChannels = [] ∧
      m.session.gateway.liveCount.1 = 0 := by
  obtain ⟨before, now, a, after, rfl, -, hSession⟩ := exists_act_of_mem_attempts hm
  have hBefore := h.run fun b hb => hActs b (List.mem_append_left _ hb)
  have hVacated := hBefore.vacate now
  rw [← hSession] at hVacated
  have hNone : m.session.core.channel = none := by
    rw [hSession, Session.vacate, advance_core, Core.vacate_channel]
  refine ⟨hNone, ?_, ?_⟩
  · rw [hVacated.liveChannels, Core.activeId?, hNone]
    rfl
  · rw [hVacated.liveCount, Core.activeId?, hNone]
    rfl

end Recorded

/-- **One channel at a time.** In a run with a gateway that records, the lines that the session has
not ended are that of its channel, or none; every attempt finds all earlier lines ended, as the act
that makes it orders the end of the channel held before it puts the request; and the attempts use up
the numbers from one on, of which the lines keep those that were accepted. -/
theorem one_channel_at_a_time (settings : Settings) (role : Role) (policy : Policy)
    (hPolicy : policy.isRecording) (acts : List Timed) (hActs : ∀ a ∈ acts, a.2.isRecording) :
    let s₀ := start settings role { policy }
    let s := s₀.run acts
    (s.gateway.liveChannels = s.core.activeId?.toList ∧
        s.gateway.liveCount.1 = s.core.activeId?.toList.length) ∧
      (∀ m ∈ s₀.attempts acts,
        m.session.core.channel = none ∧ m.session.gateway.liveChannels = [] ∧
          m.session.gateway.liveCount.1 = 0) ∧
      (∀ m ∈ s₀.attempts acts, ∃ before now a after,
        acts = before ++ (now, a) :: after ∧ m.MadeBy now (s₀.run before) a) ∧
      (∀ m ∈ s₀.attempts acts, ∀ request, m.request = .ok request → request.channel = m.id) ∧
      (s₀.attempts acts).map (·.id.number) = List.range' 1 (s₀.attempts acts).length ∧
      s.core.nextId.number = 1 + (s₀.attempts acts).length ∧
      s.gateway.requests = (s₀.attempts acts).filterMap Attempt.accepted? ∧
      s.gateway.Increasing := by
  intro s₀ s
  have hStart : s₀.Recorded := recorded_start settings role hPolicy
  have hRun : s.Recorded := hStart.run hActs
  obtain ⟨hNumbers, hNext⟩ := attempts_numbers acts s₀
  refine ⟨⟨hRun.liveChannels, hRun.liveCount⟩, fun m hm => hStart.of_mem_attempts hActs hm,
    fun m hm => exists_madeBy_of_mem_attempts hm,
    fun m _ request hRequest => (Core.make_eq_ok hRequest).1, hNumbers, hNext, ?_,
    hRun.owns.increasing⟩
  exact requests_run acts s₀

/-- The second of three attempts is refused; the channel of the first was closed to make room. -/
theorem one_channel_at_a_time_refused_between :
    let s₀ := start { endpoint := "ws://[::1]" } .client { policy := .accept }
    let acts : List Timed :=
      [(.zero, .connectCurrent), (.zero, .answer (.refuse "busy") true), (.zero, .connect .manager),
        (.zero, .answer .accept true), (.zero, .connectCurrent)]
    Policy.accept.isRecording ∧ (∀ a ∈ acts, a.2.isRecording) ∧
      (s₀.run acts).gateway.liveChannels = [⟨3⟩] ∧
      (s₀.run acts).gateway.requests.map OpenRequest.channel = [⟨1⟩, ⟨3⟩] ∧
      (s₀.attempts acts).map (·.id.number) = [1, 2, 3] := by
  intro s₀ acts
  have hActs : ∀ a ∈ acts, a.2.isRecording := by decide
  obtain ⟨⟨hLive, -⟩, -, -, -, hNumbers, -, hRequests, -⟩ :=
    one_channel_at_a_time { endpoint := "ws://[::1]" } .client .accept rfl acts hActs
  refine ⟨rfl, hActs, hLive.trans ?_, ?_, hNumbers.trans ?_⟩
  · decide +kernel
  · rw [hRequests]
    decide +kernel
  · decide +kernel

end Session

end ChatConsole
