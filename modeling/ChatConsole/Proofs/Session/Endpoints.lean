import Mathlib.Data.List.Basic
import ChatConsole.Proofs.Config.Validation
import ChatConsole.Proofs.Session.Roles

/-! # Sessions of a checked configuration

Validation looks at the endpoint once, under a number and for a role of its own; a session makes its
requests under numbers that grow and for any role that is selected. Both find the same. At an
endpoint that passed, every attempt of a run is put to the gateway, which alone decides what comes
of it. At one that did not, a session is `Shut`: no attempt gets as far as the gateway, and each
leaves one entry that says what validation said.
-/

namespace ChatConsole.Session

variable {s : Session} {a : Act} {role : Role}

/-- An attempt is made at the endpoint of the settings. -/
theorem endpoint_of_mem_attempts {m : Attempt} {acts : List Timed} (h : m ∈ s.attempts acts) :
    m.session.settings.endpoint = s.settings.endpoint := by
  obtain ⟨before, now, a, after, -, -, hSession⟩ := exists_act_of_mem_attempts h
  rw [hSession, vacate, advance_settings, run_settings]

/-! ## Good endpoints -/

section Good

variable {url : Url} (hEndpoint : OpenRequest.readEndpoint s.settings.endpoint = .ok url)

include hEndpoint

theorem exists_request_of_mem_attempts {m : Attempt} {acts : List Timed}
    (h : m ∈ s.attempts acts) : ∃ request, m.request = .ok request := by
  rw [Attempt.request, endpoint_of_mem_attempts h]
  exact OpenRequest.exists_make_eq_ok_iff.mpr ⟨url, hEndpoint⟩

/-- The request of an attempt, which a gateway that answers it with a line keeps. -/
theorem exists_request_of_opens (now : Time.Instant) (hOpens : a.opens? s = some role) :
    ∃ request, Moment.request? ⟨s, now, a⟩ = some request ∧ request.channel = s.core.nextId ∧
      request.role = role ∧
      (s.gateway.answer = .ok .line →
        (s.act now a).gateway.requests = s.gateway.requests ++ [request]) := by
  obtain ⟨request, hMake⟩ : ∃ request,
      OpenRequest.make s.core.nextId s.settings.endpoint role = .ok request :=
    OpenRequest.exists_make_eq_ok_iff.mpr ⟨url, hEndpoint⟩
  obtain ⟨hChannel, hRole⟩ := Core.make_eq_ok hMake
  exact ⟨request, Moment.request?_eq_some.mpr ⟨role, hOpens, hMake⟩, hChannel, hRole,
    (madeBy_of_opens now hOpens).requests_of_line ((request_vacate now s role).trans hMake)⟩

/-- A gateway that accepts the request gets the session to wait for its channel. -/
theorem core_of_accepted (now : Time.Instant) (h : s.core.Lifecycle)
    (hOpens : a.opens? s = some role) {link : Link} (hAnswer : s.gateway.answer = .ok link) :
    (s.act now a).core.phase = .connecting ∧
      (s.act now a).core.channel = some ⟨s.core.nextId, role, link⟩ := by
  obtain ⟨request, hMake⟩ : ∃ request,
      OpenRequest.make s.core.idle.nextId s.settings.endpoint role = .ok request :=
    OpenRequest.exists_make_eq_ok_iff.mpr ⟨url, hEndpoint⟩
  rw [core_of_opens now h hOpens, Core.openNext_of_accepted (w := s.conditions) hMake hAnswer]
  exact ⟨rfl, rfl⟩

end Good

/-! ## Bad endpoints -/

/-- The entry for an attempt that was not put to the gateway. -/
def rejectionEntry (now : Time.Instant) (reason : String) : Entry :=
  ⟨.error, systemOrigin, "Failed to connect: " ++ reason, now⟩

theorem openNext_of_rejected (now : Time.Instant) {e : ChannelError}
    (h : OpenRequest.make s.core.nextId s.settings.endpoint role = .error e) :
    (s.openNext now role).gateway = s.gateway ∧
      (s.openNext now role).transcript = s.transcript.append (rejectionEntry now e.message) := by
  rw [openNext, Core.openNext_of_rejected (w := s.conditions) h]
  exact ⟨rfl, rfl⟩

/-- A session that can open nothing, and so never held a channel. -/
structure Shut (e : ChannelError) (s : Session) : Prop where
  endpoint : OpenRequest.readEndpoint s.settings.endpoint = .error e
  lifecycle : s.core.Lifecycle
  channel : s.core.channel = none

namespace Shut

variable {e : ChannelError}

theorem start {settings : Settings} (h : OpenRequest.readEndpoint settings.endpoint = .error e)
    (role : Role) (gateway : Gateway) : Shut e (start settings role gateway) :=
  ⟨h, Core.lifecycle_fresh role, rfl⟩

theorem request?_eq_none (h : Shut e s) (now : Time.Instant) (a : Act) :
    Moment.request? ⟨s, now, a⟩ = none := by
  cases hRequest : Moment.request? ⟨s, now, a⟩ with
  | none => rfl
  | some request =>
    obtain ⟨role, -, hMake⟩ := Moment.request?_eq_some.mp hRequest
    have hFault : OpenRequest.make s.core.nextId s.settings.endpoint role = .error e :=
      OpenRequest.make_eq_error_iff.mpr h.endpoint
    rw [hFault] at hMake
    cases hMake

theorem act (h : Shut e s) (now : Time.Instant) (hPump : a ≠ .pump) : Shut e (s.act now a) where
  endpoint := by rw [act_settings, h.endpoint]
  lifecycle := act_lifecycle now s a hPump h.lifecycle
  channel := by
    rcases act_held now h.lifecycle hPump with hSame | hNone | ⟨request, link, hRequest, -⟩
    · rw [hSame, h.channel]
    · exact hNone
    · rw [h.request?_eq_none now a] at hRequest
      cases hRequest

theorem run (h : Shut e s) (acts : List Timed) : Shut e (s.run acts) :=
  run_keeps (P := Shut e) (A := fun _ => True) (fun _ => trivial)
    (fun _ _ h => ⟨h.endpoint, h.lifecycle, h.channel⟩)
    (fun now _ _ hPump _ h => h.act now hPump) acts (fun _ _ => trivial) s h

theorem request_of_mem_attempts (h : Shut e s) {m : Attempt} {acts : List Timed}
    (hMem : m ∈ s.attempts acts) : m.request = .error e := by
  rw [Attempt.request, endpoint_of_mem_attempts hMem]
  exact OpenRequest.make_eq_error_iff.mpr h.endpoint

theorem requests_run (h : Shut e s) (acts : List Timed) :
    (s.run acts).gateway.requests = s.gateway.requests := by
  have hNone : (s.attempts acts).filterMap Attempt.accepted? = [] := by
    refine List.filterMap_eq_nil_iff.mpr fun m hMem => ?_
    rw [Attempt.accepted?, h.request_of_mem_attempts hMem]
  rw [Session.requests_run, hNone, List.append_nil]

/-- An attempt leaves an entry and nothing else that shows. -/
theorem act_of_opens (h : Shut e s) (now : Time.Instant) (hOpens : a.opens? s = some role) :
    (s.act now a).core.phase = .disconnected ∧ (s.act now a).core.channel = none ∧
      (s.act now a).gateway = s.gateway ∧
      (s.act now a).transcript = s.transcript.append (rejectionEntry now e.message) := by
  have hPump : a ≠ .pump := by
    rintro rfl
    cases hOpens
  have hAfter := h.act now hPump
  have hMake : OpenRequest.make (s.vacate now).core.nextId (s.vacate now).settings.endpoint role =
      .error e := by
    rw [vacate, advance_settings]
    exact OpenRequest.make_eq_error_iff.mpr h.endpoint
  have hVacant : (s.vacate now).gateway = s.gateway ∧
      (s.vacate now).transcript = s.transcript := by
    rw [vacate, Core.vacate_of_none h.channel]
    exact ⟨rfl, rfl⟩
  obtain ⟨hGateway, hTranscript⟩ := openNext_of_rejected now hMake
  refine ⟨hAfter.lifecycle.disconnected_iff.mpr hAfter.channel, hAfter.channel, ?_⟩
  rw [Session.act_of_opens hOpens, hGateway, hTranscript, hVacant.1, hVacant.2]
  exact ⟨rfl, rfl⟩

end Shut

/-- **Validation and connecting agree.** At an endpoint that passed validation, every attempt of a
run is put to the gateway, whoever asks for it, whatever its number and role; a gateway that answers
it with a line keeps the request; and if the gateway accepts, the session holds the channel and
waits for it to be open. At an endpoint that validation reported, no attempt is put to the gateway:
each one ends without a channel and leaves just one more entry, with the reason that was
reported. -/
theorem openings_of_config (c : Config) (role : Role) (gateway : Gateway) (acts : List Timed) :
    let s₀ := start c.settings role gateway
    let s := s₀.run acts
    (c.validate = .ok () →
      (∀ id r, ∃ request, OpenRequest.make id c.endpoint r = .ok request) ∧
        (∀ m ∈ s₀.attempts acts, ∃ request, m.request = .ok request) ∧
        ∀ now a r, a.opens? s = some r →
          (∃ request, Moment.request? ⟨s, now, a⟩ = some request ∧
              request.channel = s.core.nextId ∧ request.role = r ∧
              (s.gateway.answer = .ok .line →
                (s.act now a).gateway.requests = s.gateway.requests ++ [request])) ∧
            ∀ link, s.gateway.answer = .ok link →
              (s.act now a).core.phase = .connecting ∧
                (s.act now a).core.channel = some ⟨s.core.nextId, r, link⟩) ∧
      ∀ reason, c.validate = .error (.invalid "endpoint" reason) →
        (∀ m ∈ s₀.attempts acts, ∃ e, m.request = .error e) ∧
          s.gateway.requests = gateway.requests ∧
          ∀ now a r, a.opens? s = some r →
            Moment.request? ⟨s, now, a⟩ = none ∧
              (s.act now a).core.phase = .disconnected ∧ (s.act now a).core.channel = none ∧
              (s.act now a).gateway = s.gateway ∧
              (s.act now a).transcript = s.transcript.append (rejectionEntry now reason) := by
  intro s₀ s
  have hSettings : s.settings = c.settings := run_settings acts s₀
  constructor
  · intro hValid
    obtain ⟨url, hRead⟩ := (Config.validate_eq_ok_iff.mp hValid).endpoint
    have hLife : s.core.Lifecycle := run_lifecycle acts s₀ (Core.lifecycle_fresh role)
    have hEndpoint : OpenRequest.readEndpoint s.settings.endpoint = .ok url := by
      rw [hSettings]
      exact hRead
    refine ⟨fun id r => OpenRequest.exists_make_eq_ok_iff.mpr ⟨url, hRead⟩, ?_, ?_⟩
    · intro m hMem
      exact exists_request_of_mem_attempts (s := s₀) hRead hMem
    · intro now a r hOpens
      refine ⟨exists_request_of_opens hEndpoint now hOpens, fun link hAnswer => ?_⟩
      exact core_of_accepted hEndpoint now hLife hOpens hAnswer
  · intro reason hInvalid
    obtain ⟨e, hRead, rfl⟩ := Config.validate_eq_endpoint_iff.mp hInvalid
    have hShut₀ : Shut e s₀ := by
      refine Shut.start ?_ role gateway
      exact hRead
    have hShut : Shut e s := hShut₀.run acts
    refine ⟨fun m hMem => ⟨e, hShut₀.request_of_mem_attempts hMem⟩, hShut₀.requests_run acts, ?_⟩
    intro now a r hOpens
    exact ⟨hShut.request?_eq_none now a, hShut.act_of_opens now hOpens⟩

/-- A reconnect for a role that looks like a query of its own is put to the gateway, and at an
endpoint of another scheme not even the second attempt is. -/
theorem openings_of_config_reconnect_and_rejection :
    let good : Config := { endpoint := "ws://[::1]/gate?role=x" }
    let bad : Config := { endpoint := "http://[::1]" }
    let acts : List Timed :=
      [(.zero, .connectCurrent), (.zero, .handle (.opened ⟨1⟩)),
        (.zero, .changeRole (.other "a&role=b") .zero)]
    let s := (start good.settings .client { policy := .accept }).run acts
    let t := (start bad.settings .client { policy := .accept }).run acts
    let reason := "unsupported endpoint scheme 'http' (expected ws or wss)"
    (good.validate = .ok () ∧
        Act.opens? s (.tick (.ofMillis 1000)) = some (.other "a&role=b") ∧
        (s.act .zero (.tick (.ofMillis 1000))).core.phase = .connecting ∧
        (s.act .zero (.tick (.ofMillis 1000))).core.channel =
          some ⟨⟨2⟩, .other "a&role=b", .line⟩) ∧
      bad.validate = .error (.invalid "endpoint" reason) ∧
      Act.opens? t (.connect .manager) = some .manager ∧
      (t.act .zero (.connect .manager)).core.phase = .disconnected ∧
      (t.act .zero (.connect .manager)).transcript =
        t.transcript.append (rejectionEntry .zero reason) := by
  intro good bad acts s t reason
  have hValid : good.validate = .ok () := by decide +kernel
  have hInvalid : bad.validate = .error (.invalid "endpoint" reason) := by decide +kernel
  have hDue : Act.opens? s (.tick (.ofMillis 1000)) = some (.other "a&role=b") := by
    decide +kernel
  obtain ⟨-, -, hOpened⟩ := (openings_of_config good .client { policy := .accept } acts).1 hValid
  obtain ⟨-, -, hRejected⟩ :=
    (openings_of_config bad .client { policy := .accept } acts).2 reason hInvalid
  obtain ⟨-, hAccepted⟩ := hOpened .zero (.tick (.ofMillis 1000)) (.other "a&role=b") hDue
  obtain ⟨-, hPhase, -, -, hTranscript⟩ := hRejected .zero (.connect .manager) .manager rfl
  obtain ⟨hConnecting, hChannel⟩ := hAccepted .line (by decide +kernel)
  have hNext : s.core.nextId = ⟨2⟩ := by decide +kernel
  refine ⟨⟨hValid, hDue, ?_, ?_⟩, hInvalid, rfl, ?_, hTranscript⟩
  · rw [hConnecting]
  · rw [hChannel, hNext]
  · rw [hPhase]

end ChatConsole.Session
