import ChatConsole.Session.Core

/-! # What each step of the core does

One equation for each way in which a step of the core can go, with the new core and all the effects.
Later files cite these equations and never open a step again.
-/

namespace ChatConsole.Session.Core

variable {c : Core} {w : Conditions} {role : Role}

/-! ## Closing -/

/-- What is noted when a pending reconnect is given up. -/
def cancellation (c : Core) : List Effect :=
  if c.pending.isSome then [.say .debug "pending reconnect cancelled" []] else []

/-- The effects of closing a channel. -/
def closing (id : ChannelId) : List Effect :=
  [ .closed id,
    .say .info "disconnected" [("channel", id.text)],
    .remark .system "Disconnected." ]

/-- A core that neither holds nor awaits a channel. -/
def idle (c : Core) : Core :=
  { c with channel := none, phase := .disconnected, identity := none, pending := none }

theorem disconnect_of_none (h : c.channel = none) :
    c.disconnect = ({ c with pending := none }, c.cancellation) := by
  simp only [disconnect, h, cancellation]

theorem disconnect_of_some {held : Held} (h : c.channel = some held) :
    c.disconnect = (c.idle, c.cancellation ++ closing held.id) := by
  simp only [disconnect, h, cancellation, closing, idle]

/-- Gives up what is open or pending before another channel is opened. -/
def vacate (c : Core) : Step :=
  if c.channel.isSome then { c with pending := none }.disconnect
  else ({ c with pending := none }, [])

theorem vacate_of_none (h : c.channel = none) : c.vacate = ({ c with pending := none }, []) := by
  simp only [vacate, h, Option.isSome_none, Bool.false_eq_true, if_false]

theorem vacate_of_some {held : Held} (h : c.channel = some held) :
    c.vacate = (c.idle, closing held.id) := by
  unfold vacate
  rw [if_pos (by rw [h]; rfl)]
  exact disconnect_of_some (c := { c with pending := none }) h

/-! ## Opening -/

/-- The note of a request that is put to the gateway. -/
def asking (request : OpenRequest) : Effect :=
  .say .info "connecting"
    [("channel", request.channel.text), ("role", request.role.tag), ("url", request.url.text)]

theorem make_eq_ok {id : ChannelId} {endpoint : String} {request : OpenRequest}
    (h : OpenRequest.make id endpoint role = .ok request) :
    request.channel = id ∧ request.role = role := by
  unfold OpenRequest.make at h
  cases hRead : OpenRequest.readEndpoint endpoint with
  | error e =>
    rw [hRead] at h
    cases h
  | ok url =>
    rw [hRead] at h
    cases h
    exact ⟨rfl, rfl⟩

theorem openNext_of_rejected {e : ChannelError}
    (h : OpenRequest.make c.nextId w.endpoint role = .error e) :
    c.openNext w role =
      ({ c with role, nextId := c.nextId.next },
        [ .say .warn ("channel open rejected: " ++ e.message) [],
          .remark .error ("Failed to connect: " ++ e.message) ]) := by
  simp only [openNext, h]

theorem openNext_of_accepted {request : OpenRequest} {link : Link}
    (h : OpenRequest.make c.nextId w.endpoint role = .ok request)
    (hAnswer : w.answer request = .ok link) :
    c.openNext w role =
      ({ c with
          role, nextId := c.nextId.next, phase := .connecting,
          channel := some ⟨c.nextId, role, link⟩ },
        asking request :: acceptance w.endpoint request link) := by
  obtain ⟨hId, hRole⟩ := make_eq_ok h
  simp only [openNext, h, hAnswer, asking, hId, hRole]

theorem openNext_of_refused {request : OpenRequest} {e : ChannelError}
    (h : OpenRequest.make c.nextId w.endpoint role = .ok request)
    (hAnswer : w.answer request = .error e) :
    c.openNext w role =
      ({ c with role, nextId := c.nextId.next, phase := .disconnected },
        [ asking request,
          .say .warn ("channel open failed: " ++ e.message) [("channel", request.channel.text)],
          .remark .error ("Failed to connect: " ++ e.message) ]) := by
  obtain ⟨hId, hRole⟩ := make_eq_ok h
  simp only [openNext, h, hAnswer, asking, hId, hRole]

/-- Opening selects the role and uses up a number, whatever comes of it. -/
theorem openNext_core (c : Core) (w : Conditions) (role : Role) :
    ∃ channel phase, (c.openNext w role).1 =
      { c with role, nextId := c.nextId.next, channel, phase } := by
  cases hMake : OpenRequest.make c.nextId w.endpoint role with
  | error e => exact ⟨c.channel, c.phase, by rw [openNext_of_rejected hMake]⟩
  | ok request =>
    cases hAnswer : w.answer request with
    | ok link => exact ⟨_, _, by rw [openNext_of_accepted hMake hAnswer]⟩
    | error e => exact ⟨c.channel, _, by rw [openNext_of_refused hMake hAnswer]⟩

/-- To connect is to make room and then to open. -/
theorem connect_eq (c : Core) (w : Conditions) (role : Role) :
    c.connect w role =
      ((c.vacate.1.openNext w role).1, c.vacate.2 ++ (c.vacate.1.openNext w role).2) := by
  unfold connect vacate
  cases c.channel <;> rfl

/-! ## Changing the role -/

/-- What is noted when a reconnect is scheduled. -/
def scheduling (w : Conditions) (role : Role) : List Effect :=
  [.say .debug "reconnect scheduled" [("role", role.tag), ("delay", w.delay.text)]]

/-- The line of the activity log for a new role. -/
def roleNotice (role : Role) : Effect := .notice ("Role changed to: " ++ role.tag)

theorem changeRole_of_again {now : Time.Instant} (h : c.isConnected ∨ c.pending.isSome) :
    c.changeRole w role now =
      ({ ({ c with role } : Core).disconnect.1 with pending := some (.schedule role now w.delay) },
        roleNotice role :: ({ c with role } : Core).disconnect.2 ++ scheduling w role) := by
  unfold changeRole
  rw [if_pos (by simpa using h)]
  rfl

theorem changeRole_of_quiet {now : Time.Instant} (hPhase : ¬ c.isConnected)
    (hPending : c.pending = none) :
    c.changeRole w role now = ({ c with role }, [roleNotice role]) := by
  unfold changeRole
  rw [if_neg (by simp [hPhase, hPending])]
  rfl

/-! ## The reconnect -/

theorem tick_of_due {now : Time.Instant} (h : c.dueRole? now = some role) :
    c.tick w now = c.connect w role := by
  simp only [tick, h]

theorem tick_of_not_due {now : Time.Instant} (h : c.dueRole? now = none) :
    c.tick w now = (c, []) := by
  simp only [tick, h]

theorem dueRole?_eq_some {now : Time.Instant} :
    c.dueRole? now = some role ↔ ∃ r, c.pending = some r ∧ r.isDue now ∧ r.role = role := by
  unfold dueRole?
  cases c.pending with
  | none => simp
  | some r => by_cases h : r.isDue now <;> simp [Option.filter, h]

/-! ## Events -/

theorem onEvent_of_other {e : ChannelEvent} (h : c.activeId? ≠ some e.channel) :
    c.onEvent e =
      (c,
        [.say .debug "dropping event from inactive channel"
          [("channel", e.channel.text), ("event", e.description)]]) := by
  unfold onEvent
  rw [if_neg h]

theorem onEvent_of_active (e : ChannelEvent) : c.activeId? = some e.channel →
    c.onEvent e =
      match e with
      | .opened _ => c.onOpened
      | .message _ raw => c.onMessage raw
      | .closed _ reason => c.onClosed reason
      | .failed _ description => c.onFailed description := fun h => if_pos h

/-- A message changes at most the identity, and that only from nobody while connected. -/
theorem onMessage_core (c : Core) (raw : String) :
    (c.onMessage raw).1 = c ∨
      ∃ origin, c.identity = none ∧ c.isConnected ∧ (c.onMessage raw).1 =
        { c with identity := some origin } := by
  unfold onMessage
  cases Envelope.decode raw with
  | none => exact Or.inl rfl
  | some envelope =>
    simp only
    cases categoryOf envelope.messageTag with
    | none =>
      simp only
      split <;> exact Or.inl rfl
    | some category =>
      simp only
      by_cases hSent : category = .commandSent
      · rw [if_pos hSent]
        unfold adoptIdentity
        split
        · next h => exact Or.inr ⟨envelope.origin, by simpa using h.1, h.2.1, rfl⟩
        · exact Or.inl rfl
      · rw [if_neg hSent]
        exact Or.inl rfl

theorem onMessage_phase (c : Core) (raw : String) : (c.onMessage raw).1.phase = c.phase := by
  rcases onMessage_core c raw with hCore | ⟨origin, -, -, hCore⟩ <;> rw [hCore]

theorem onMessage_channel (c : Core) (raw : String) : (c.onMessage raw).1.channel = c.channel := by
  rcases onMessage_core c raw with hCore | ⟨origin, -, -, hCore⟩ <;> rw [hCore]

/-- An event is about the channel: it neither selects a role nor schedules anything. -/
theorem onEvent_core (c : Core) (e : ChannelEvent) :
    ∃ identity phase channel, (c.onEvent e).1 = { c with identity, phase, channel } := by
  by_cases hActive : c.activeId? = some e.channel
  · rw [onEvent_of_active e hActive]
    cases e with
    | message id raw =>
      rcases onMessage_core c raw with hCore | ⟨origin, -, -, hCore⟩
      · exact ⟨c.identity, c.phase, c.channel, hCore⟩
      · exact ⟨some origin, c.phase, c.channel, hCore⟩
    | _ => exact ⟨_, _, _, rfl⟩
  · exact ⟨c.identity, c.phase, c.channel, by rw [onEvent_of_other hActive]⟩

end ChatConsole.Session.Core
