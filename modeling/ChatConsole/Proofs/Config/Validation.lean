import ChatConsole.Config
import ChatConsole.Proofs.Gateway.OpenRequests

/-! # What validation finds

A configuration is valid just when a request can be made at its endpoint, its role names one and
both limits are at least one. The endpoint is looked at first, so whatever is wrong with it is what
is reported. As a request can be made on every channel and for every role if it can be made at all,
validation says of an endpoint what any session would find out when it connects.
-/

namespace ChatConsole

namespace OpenRequest

variable {channel : ChannelId} {endpoint : String} {role : Role}

/-- What is wrong with an endpoint is so on every channel and for every role. -/
theorem make_eq_error_iff {e : ChannelError} :
    make channel endpoint role = .error e ↔ readEndpoint endpoint = .error e := by
  unfold make
  cases readEndpoint endpoint with
  | error e' => rw [Except.map, Except.error.injEq, Except.error.injEq]
  | ok url =>
    constructor
    · intro h
      cases h
    · intro h
      cases h

theorem exists_make_eq_ok_iff :
    (∃ request, make channel endpoint role = .ok request) ↔
      ∃ url, readEndpoint endpoint = .ok url := by
  constructor
  · rintro ⟨request, hMake⟩
    obtain ⟨url, hRead, -⟩ := exists_ok_of_map hMake
    exact ⟨url, hRead⟩
  · rintro ⟨url, hRead⟩
    refine ⟨⟨channel, role, withRole url role⟩, ?_⟩
    rw [make, hRead, Except.map]

end OpenRequest

namespace Config

theorem checkLimit_eq_ok_iff {key : String} {limit : Nat} :
    checkLimit key limit = .ok () ↔ 1 ≤ limit := by
  unfold checkLimit
  split
  · next hZero =>
    rw [hZero]
    constructor
    · intro h
      cases h
    · intro h
      cases h
  · next hPositive => exact ⟨fun _ => Nat.pos_of_ne_zero hPositive, fun _ => rfl⟩

theorem key_of_checkLimit {key key' reason : String} {limit : Nat}
    (h : checkLimit key limit = .error (.invalid key' reason)) : key' = key := by
  unfold checkLimit at h
  split at h
  · cases h
    rfl
  · cases h

theorem key_of_parsedRole {c : Config} {key reason : String}
    (h : c.parsedRole = .error (.invalid key reason)) : key = "default_role" := by
  unfold parsedRole at h
  cases hParse : Role.parse c.role with
  | ok role =>
    rw [hParse] at h
    cases h
  | error e =>
    rw [hParse] at h
    cases h
    rfl

/-- Fit to start with. -/
structure Sound (c : Config) : Prop where
  endpoint : ∃ url, OpenRequest.readEndpoint c.endpoint = .ok url
  role : ∃ role, c.parsedRole = .ok role
  transcriptLimit : 1 ≤ c.transcriptLimit
  activityLimit : 1 ≤ c.activityLimit

/-- The checks in their order, the first one being about the endpoint. -/
theorem validate_eq (c : Config) :
    c.validate =
      match OpenRequest.readEndpoint c.endpoint with
      | .error e => .error (.invalid "endpoint" e.message)
      | .ok _ =>
        c.parsedRole >>= fun _ =>
          checkLimit "max_transcript_entries" c.transcriptLimit >>= fun _ =>
            checkLimit "max_activity_entries" c.activityLimit := by
  unfold validate OpenRequest.make
  cases OpenRequest.readEndpoint c.endpoint <;> rfl

theorem validate_eq_ok_iff {c : Config} : c.validate = .ok () ↔ c.Sound := by
  rw [validate_eq]
  constructor
  · intro h
    split at h
    · cases h
    · next url hRead =>
      obtain ⟨role, hRole, h⟩ := exists_ok_of_bind h
      obtain ⟨⟨⟩, hTranscript, hActivity⟩ := exists_ok_of_bind h
      exact ⟨⟨url, hRead⟩, ⟨role, hRole⟩, checkLimit_eq_ok_iff.mp hTranscript,
        checkLimit_eq_ok_iff.mp hActivity⟩
  · rintro ⟨⟨url, hRead⟩, ⟨role, hRole⟩, hTranscript, hActivity⟩
    rw [hRead, hRole, checkLimit_eq_ok_iff.mpr hTranscript, checkLimit_eq_ok_iff.mpr hActivity]
    rfl

/-- An endpoint that is no good is what is reported, and no other fault is reported as one. -/
theorem validate_eq_endpoint_iff {c : Config} {reason : String} :
    c.validate = .error (.invalid "endpoint" reason) ↔
      ∃ e, OpenRequest.readEndpoint c.endpoint = .error e ∧ reason = e.message := by
  rw [validate_eq]
  constructor
  · intro h
    split at h
    · next e hRead =>
      cases h
      exact ⟨e, hRead, rfl⟩
    · -- each of the other checks names a key of its own
      exfalso
      cases hRole : c.parsedRole with
      | error e =>
        rw [hRole] at h
        obtain rfl : e = .invalid "endpoint" reason := Except.error.inj h
        exact absurd (key_of_parsedRole hRole) (by decide)
      | ok role =>
        rw [hRole] at h
        cases hTranscript : checkLimit "max_transcript_entries" c.transcriptLimit with
        | error e =>
          rw [hTranscript] at h
          obtain rfl : e = .invalid "endpoint" reason := Except.error.inj h
          exact absurd (key_of_checkLimit hTranscript) (by decide)
        | ok =>
          rw [hTranscript] at h
          have hKey : "endpoint" = "max_activity_entries" := key_of_checkLimit h
          exact absurd hKey (by decide)
  · rintro ⟨e, hRead, rfl⟩
    rw [hRead]

end Config

end ChatConsole
