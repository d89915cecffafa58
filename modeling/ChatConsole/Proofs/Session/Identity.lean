import Mathlib.Data.List.TakeWhile
import ChatConsole.Proofs.Session.Openings

/-! # Who the user of a channel is

The gateway sends a command back to its author only, so the author of the first command that comes
back on an open channel is the user. `firstEcho?` reads that author off the moments of a run without
looking at any identity: it takes the payloads handled since the channel was found open. `Known`
says that the identity of a session is what `firstEcho?` gives for its channel, and each moment of a
run keeps it. An author once found stays the first, so an identity lasts as long as its channel.
-/

namespace ChatConsole

namespace Envelope

theorem messageTag_eq_commandSent_iff (e : Envelope) :
    e.messageTag = .commandSent ↔ e.tag = some "command_sent" := by
  unfold messageTag
  cases e.tag with
  | none => simp
  | some tag =>
    simp only [Option.map_some, Option.getD_some, Option.some.injEq]
    unfold MessageTag.ofWire
    split <;> simp_all

end Envelope

namespace Session

/-! ## Commands that come back -/

/-- The author of the command that a payload sends back; the gateway itself is no author. -/
def echoed? (raw : String) : Option String :=
  ((Envelope.decode raw).filter fun e =>
    e.tag = some "command_sent" ∧ e.origin ≠ systemOrigin).map Envelope.origin

theorem echoed?_ne_system (raw : String) : echoed? raw ≠ some systemOrigin := by
  intro h
  obtain ⟨e, he, hOrigin⟩ := Option.map_eq_some_iff.mp h
  have hOther := (Option.filter_eq_some_iff.mp he).2
  simp [hOrigin] at hOther

namespace Core

theorem adoptIdentity_identity (c : Core) (origin : String) :
    (c.adoptIdentity origin).1.identity =
      if c.isConnected then c.identity.or (if origin ≠ systemOrigin then some origin else none)
      else c.identity := by
  unfold adoptIdentity
  by_cases hConnected : c.isConnected
  · by_cases hSystem : origin = systemOrigin
    · simp [hSystem]
    · cases hIdentity : c.identity <;> simp [hIdentity, hConnected, hSystem]
  · simp [hConnected]

theorem categoryOf_eq_commandSent_iff (tag : MessageTag) :
    categoryOf tag = some .commandSent ↔ tag = .commandSent := by
  cases tag <;> simp [categoryOf]

/-- A payload names the user of an open channel that has none yet. -/
theorem onMessage_identity (c : Core) (raw : String) :
    (c.onMessage raw).1.identity =
      if c.isConnected then c.identity.or (echoed? raw) else c.identity := by
  unfold onMessage echoed?
  cases Envelope.decode raw with
  | none => simp
  | some e =>
    have hTag := (categoryOf_eq_commandSent_iff _).trans e.messageTag_eq_commandSent_iff
    by_cases hEcho : categoryOf e.messageTag = some .commandSent
    · simp only [hEcho, if_pos, adoptIdentity_identity]
      by_cases hSystem : e.origin = systemOrigin <;>
        simp [Option.filter, hTag.mp hEcho, hSystem]
    · have hNobody : e.tag ≠ some "command_sent" := mt hTag.mpr hEcho
      simp only [Option.filter, hNobody, false_and, decide_false, Bool.false_eq_true, if_false,
        Option.map_none, Option.or_none, ite_self]
      split
      · next category hCategory =>
        have hOther : category ≠ .commandSent := by
          rintro rfl
          exact hEcho hCategory
        rw [if_neg hOther]
      · split <;> rfl

end Core

/-- The author of the command that is sent back on the channel of the session. -/
def Act.echo? (s : Session) : Act → Option String
  | .handle (.message id raw) => if s.core.activeId? = some id then echoed? raw else none
  | _ => none

/-- The author of the command that is sent back at this moment on a channel. -/
def Moment.echo? (id : ChannelId) (m : Moment) : Option String :=
  if m.session.core.activeId? = some id then m.act.echo? m.session else none

theorem Moment.echo?_of_opens {id : ChannelId} {m : Moment} (h : m.opens id) :
    m.echo? id = none := by
  unfold echo?
  rw [(of_decide_eq_true h).1]
  exact ite_self none

theorem Moment.echo?_ne_system (id : ChannelId) (m : Moment) :
    m.echo? id ≠ some systemOrigin := by
  unfold echo? Act.echo?
  repeat' split
  · exact echoed?_ne_system _
  all_goals simp

/-- The author of the first command that was sent back on a channel since it was found open. -/
def firstEcho? (id : ChannelId) (ms : List Moment) : Option String :=
  ((ms.dropWhile (!·.opens id)).filterMap (·.echo? id)).head?

theorem firstEcho?_snoc (id : ChannelId) (ms : List Moment) (m : Moment) :
    firstEcho? id (ms ++ [m]) =
      (firstEcho? id ms).or (if opened id ms then m.echo? id else none) := by
  unfold firstEcho?
  rw [filterMap_since_opened_snoc (fun _ => Moment.echo?_of_opens) ms m, List.head?_append]
  congr 1
  split
  · cases m.echo? id <;> rfl
  · rfl

/-- An author that was the first one stays it. -/
theorem firstEcho?_append {id : ChannelId} {ms : List Moment} {u : String}
    (h : firstEcho? id ms = some u) (ms' : List Moment) : firstEcho? id (ms ++ ms') = some u := by
  induction ms' generalizing ms with
  | nil => rwa [List.append_nil]
  | cons m ms' ih =>
    rw [List.append_cons]
    exact ih (by rw [firstEcho?_snoc, h, Option.some_or])

/-- Nobody is known on a channel that was not found open. -/
theorem opened_of_firstEcho? {id : ChannelId} {ms : List Moment} {u : String}
    (h : firstEcho? id ms = some u) : opened id ms := by
  obtain ⟨m, hm, -⟩ := List.mem_filterMap.mp (List.mem_of_head? h)
  have hSome : ∃ m ∈ ms, m.opens id := by
    by_cases hNone : ∀ m ∈ ms, (!m.opens id) = true
    · rw [List.dropWhile_eq_nil_iff.mpr hNone] at hm
      cases hm
    · simpa using hNone
  simpa [opened] using hSome

theorem firstEcho?_ne_system (id : ChannelId) (ms : List Moment) :
    firstEcho? id ms ≠ some systemOrigin := by
  intro h
  obtain ⟨m, -, hEcho⟩ := List.mem_filterMap.mp (List.mem_of_head? h)
  exact m.echo?_ne_system id hEcho

/-! ## What an act does to the identity -/

namespace Core

/-- The identity after an event that leaves a session connected. -/
theorem onEvent_identity {s : Session} {e : ChannelEvent}
    (hConnected : (s.core.onEvent e).1.isConnected) :
    (s.core.onEvent e).1.identity =
      s.core.identity.or (if s.core.isConnected then (Act.handle e).echo? s else none) := by
  by_cases hActive : s.core.activeId? = some e.channel
  · rw [onEvent_of_active e hActive] at hConnected ⊢
    cases e with
    | opened id => simp [onOpened, Act.echo?]
    | message id raw =>
      have hBefore : s.core.isConnected := by
        rwa [isConnected, onMessage_phase, ← isConnected] at hConnected
      have hEcho : (Act.handle (.message id raw)).echo? s = echoed? raw := if_pos hActive
      rw [onMessage_identity, if_pos hBefore, if_pos hBefore, hEcho]
    | closed id reason => cases hConnected
    | failed id description => simp [onFailed, Act.echo?]
  · have hEcho : (Act.handle e).echo? s = none := by
      cases e with
      | message id raw => exact if_neg hActive
      | _ => rfl
    rw [onEvent_of_other hActive, hEcho, ite_self, Option.or_none]

end Core

/-- A connected session knows who it knew, or else who is named by what it takes in. -/
theorem act_identity (now : Time.Instant) {s : Session} {a : Act} (h : s.core.Lifecycle)
    (hPump : a ≠ .pump) (hConnected : (s.act now a).core.isConnected) :
    (s.act now a).core.identity =
      s.core.identity.or (if s.core.isConnected then a.echo? s else none) := by
  have hBecomes := act_becomes now h hPump
  generalize (s.act now a).core = c at hBecomes hConnected ⊢
  cases hBecomes with
  | attempted w hOpens =>
    exact absurd (eq_of_beq hConnected) (Core.openNext_idle_fresh s.core w _).1
  | closed => cases hConnected
  | scheduled hAgain => cases hConnected
  | selected hNot hNone => exact absurd hConnected hNot
  | handled e => exact Core.onEvent_identity hConnected
  | kept hRole hEvent =>
    have hEcho : a.echo? s = none := by
      cases a with
      | handle e => exact absurd rfl (hEvent e)
      | _ => rfl
    rw [hEcho, ite_self, Option.or_none]

/-- The channel of a connected session is not a new one. -/
theorem act_activeId?_of_connected (now : Time.Instant) {s : Session} {a : Act}
    (h : s.core.Lifecycle) (hPump : a ≠ .pump) (hConnected : (s.act now a).core.isConnected) :
    (s.act now a).core.activeId? = s.core.activeId? := by
  have hPhase : (s.act now a).core.phase = .connected := eq_of_beq hConnected
  have hSame : (s.act now a).core.channel = s.core.channel := by
    rcases act_channel now h hPump with
      ⟨-, hNot, -⟩ | ⟨-, -, -, -, hSame⟩ | ⟨hNot, -⟩ | ⟨-, hSame, -⟩
    · exact absurd hPhase hNot
    · exact hSame
    · rw [hNot] at hPhase
      cases hPhase
    · exact hSame
  rw [Core.activeId?, hSame, Core.activeId?]

/-! ## Whole runs -/

/-- How the identity of a session stands to the moments that led to it. -/
structure Known (s : Session) (ms : List Moment) : Prop where
  traced : Traced s ms
  identity_eq : s.core.identity = s.core.activeId?.bind fun id => firstEcho? id ms

namespace Known

variable {s : Session} {ms : List Moment}

theorem identity_act (h : Known s ms) (now : Time.Instant) {a : Act} (hPump : a ≠ .pump) :
    (s.act now a).core.identity =
      (s.act now a).core.activeId?.bind fun id => firstEcho? id (ms ++ [⟨s, now, a⟩]) := by
  have hAfter : Traced (s.act now a) (ms ++ [⟨s, now, a⟩]) := h.traced.act hPump
  by_cases hConnected : (s.act now a).core.isConnected
  · obtain ⟨id, hId, -⟩ := hAfter.connected_iff.mp hConnected
    have hActive : s.core.activeId? = some id :=
      (act_activeId?_of_connected now h.traced.lifecycle hPump hConnected).symm.trans hId
    -- the channel was found open before this moment just when the session is connected by now
    have hOpened : opened id ms ↔ s.core.isConnected := by
      rw [h.traced.connected_iff]
      refine ⟨fun hBefore => ⟨id, hActive, hBefore⟩, fun ⟨id', hId', hBefore⟩ => ?_⟩
      obtain rfl := Option.some.inj (hActive.symm.trans hId')
      exact hBefore
    have hEcho : Moment.echo? id ⟨s, now, a⟩ = a.echo? s := if_pos hActive
    have hIdentity := h.identity_eq
    rw [hActive, Option.bind_some] at hIdentity
    rw [act_identity now h.traced.lifecycle hPump hConnected, hIdentity, hId, Option.bind_some,
      firstEcho?_snoc, hEcho]
    simp only [hOpened]
  · rw [hAfter.lifecycle.identity_eq_none fun hPhase => hConnected (beq_iff_eq.mpr hPhase)]
    symm
    rw [Option.bind_eq_none_iff]
    intro id hId
    cases hFirst : firstEcho? id (ms ++ [⟨s, now, a⟩]) with
    | none => rfl
    | some u =>
      exact absurd (hAfter.connected_iff.mpr ⟨id, hId, opened_of_firstEcho? hFirst⟩) hConnected

theorem act (h : Known s ms) (now : Time.Instant) {a : Act} (hPump : a ≠ .pump) :
    Known (s.act now a) (ms ++ [⟨s, now, a⟩]) :=
  ⟨h.traced.act hPump, h.identity_act now hPump⟩

theorem run (h : Known s ms) (acts : List Timed) : Known (s.run acts) (ms ++ s.moments acts) :=
  run_keeps_moments (A := fun _ => True) (fun _ => trivial)
    (fun _ _ queue h => ⟨h.traced.queue queue, h.identity_eq⟩)
    (fun now _ _ _ hPump _ h => h.act now hPump) acts (fun _ _ => trivial) s ms h

theorem identity_iff (h : Known s ms) (u : String) :
    s.core.identity = some u ↔
      ∃ id, s.core.activeId? = some id ∧ opened id ms ∧ firstEcho? id ms = some u := by
  rw [h.identity_eq, Option.bind_eq_some_iff]
  exact exists_congr fun id => and_congr_right fun _ =>
    ⟨fun hFirst => ⟨opened_of_firstEcho? hFirst, hFirst⟩, And.right⟩

end Known

theorem known_start (settings : Settings) (role : Role) (gateway : Gateway) :
    Known (start settings role gateway) [] :=
  ⟨traced_start settings role gateway, rfl⟩

/-- Once known, a user stays known for as long as the channel is held. -/
theorem identity_kept (settings : Settings) (role : Role) (gateway : Gateway) (acts : List Timed) :
    let s₀ := start settings role gateway
    ∀ m ∈ s₀.moments acts, ∀ u, m.session.core.identity = some u →
      (s₀.run acts).core.activeId? = m.session.core.activeId? →
      (s₀.run acts).core.identity = some u := by
  intro s₀ m hm u hIdentity hSame
  obtain ⟨before, after, hSplit⟩ := List.append_of_mem hm
  have hThen : Known m.session before :=
    moments_keep (A := fun _ => True) (fun _ => trivial)
      (fun _ _ queue h => ⟨h.traced.queue queue, h.identity_eq⟩)
      (fun now _ _ _ hPump _ h => h.act now hPump) (fun _ _ => trivial)
      (known_start settings role gateway) hSplit
  have hNow : Known (s₀.run acts) (before ++ m :: after) :=
    hSplit ▸ (known_start settings role gateway).run acts
  obtain ⟨id, hId, -, hFirst⟩ := (hThen.identity_iff u).mp hIdentity
  have hLater := firstEcho?_append hFirst (m :: after)
  exact (hNow.identity_iff u).mpr ⟨id, hSame.trans hId, opened_of_firstEcho? hLater, hLater⟩

/-- Nobody is known on a channel that was taken up or given up at this moment. -/
theorem identity_of_other_channel (settings : Settings) (role : Role) (gateway : Gateway)
    (acts : List Timed) :
    ∀ m ∈ (start settings role gateway).moments acts,
      (m.session.act m.now m.act).core.activeId? ≠ m.session.core.activeId? →
        (m.session.act m.now m.act).core.identity = none := by
  refine And.right (run_keeps_moments (A := fun _ => True)
    (P := fun s ms => s.core.Lifecycle ∧ ∀ m ∈ ms,
      (m.session.act m.now m.act).core.activeId? ≠ m.session.core.activeId? →
        (m.session.act m.now m.act).core.identity = none)
    (fun _ => trivial) (fun _ _ _ h => h) ?_ acts (fun _ _ => trivial) _ []
    ⟨Core.lifecycle_fresh role, List.forall_mem_nil _⟩)
  rintro now s ms a hPump - ⟨hLife, hBefore⟩
  have hAfter := act_lifecycle now s a hPump hLife
  refine ⟨hAfter, fun m hm => ?_⟩
  rcases List.mem_append.mp hm with hOld | hNew
  · exact hBefore m hOld
  · rw [List.mem_singleton.mp hNew]
    intro hOther
    refine hAfter.identity_eq_none fun hPhase => hOther ?_
    exact act_activeId?_of_connected now hLife hPump (beq_iff_eq.mpr hPhase)

/-- **Who the user is.** In every run the identity of a session is the author of the first command
that was sent back on its channel since the channel was found open, and there is none otherwise. So
it is never the gateway, it lasts as long as the channel and no longer, and the label of an author
tells the gateway, the user and everybody else apart. -/
theorem identity_of_run (settings : Settings) (role : Role) (gateway : Gateway)
    (acts : List Timed) :
    let s₀ := start settings role gateway
    let s := s₀.run acts
    let ms := s₀.moments acts
    (∀ u, s.core.identity = some u ↔
        ∃ id, s.core.activeId? = some id ∧ opened id ms ∧ firstEcho? id ms = some u) ∧
      s.core.identity ≠ some systemOrigin ∧
      (∀ m ∈ ms, ∀ u, m.session.core.identity = some u →
        s.core.activeId? = m.session.core.activeId? → s.core.identity = some u) ∧
      (∀ m ∈ ms, (m.session.act m.now m.act).core.activeId? ≠ m.session.core.activeId? →
        (m.session.act m.now m.act).core.identity = none) ∧
      ∀ origin, (s.label origin = .system ↔ origin = systemOrigin) ∧
        (s.label origin = .you ↔ s.core.identity = some origin) ∧
        (origin ≠ systemOrigin → s.core.identity ≠ some origin →
          s.label origin = .peer origin) := by
  intro s₀ s ms
  have hKnown : Known s ms := (known_start settings role gateway).run acts
  have hSystem : s.core.identity ≠ some systemOrigin := by
    intro h
    obtain ⟨id, -, -, hFirst⟩ := (hKnown.identity_iff _).mp h
    exact firstEcho?_ne_system id ms hFirst
  refine ⟨hKnown.identity_iff, hSystem, identity_kept settings role gateway acts,
    identity_of_other_channel settings role gateway acts, fun origin => ?_⟩
  unfold label AuthorLabel.resolve
  by_cases hOrigin : origin = systemOrigin
  · subst hOrigin
    simp [hSystem]
  · by_cases hYou : s.core.identity = some origin <;> simp [hOrigin, hYou]

/-- What comes back before the channel is found open names nobody, and neither does the gateway. -/
example :
    let echo (author : String) : ChannelEvent :=
      .message ⟨1⟩ ("\x7b\"type\":\"command_sent\",\"user_id\":\"" ++ author ++ "\"\x7d")
    let acts : List Timed :=
      [(.zero, .connectCurrent), (.zero, .handle (echo "early")), (.zero, .enqueue (.opened ⟨1⟩)),
        (.zero, .enqueue (echo "system")), (.zero, .enqueue (echo "ann")), (.zero, .pump),
        (.zero, .handle (.opened ⟨1⟩)), (.zero, .handle (echo "bob"))]
    ((start { endpoint := "ws://[::1]" } .client { policy := .accept }).run acts).core.identity =
      some "ann" := by
  decide +kernel

end Session

end ChatConsole
