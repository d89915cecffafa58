import Mathlib.Data.List.Basic
import ChatConsole.Proofs.Config.Validation
import ChatConsole.Proofs.Role.Words
import ChatConsole.Proofs.Session.Deeds
import ChatConsole.Proofs.Session.Retention
import ChatConsole.Proofs.Session.Roles

/-! # Lines of the activity log

A line of the activity log is meant to be one line. What a session has to say on its own account
always is: it speaks of its endpoint, of roles, and of what the gateway had against a request. An
event is another matter, as the entry of a notable category is mirrored with its author and the
beginning of its body, and these are whatever the gateway sent. So the lines of a log are all single
lines just when every notable entry that an event leaves has an author and a preview without a line
break; one break among the first fifty characters is enough to break the log.
-/

namespace ChatConsole

namespace Text

/-- A text without a line break. -/
def IsLine (s : String) : Prop := '\n' ∉ s.toList

instance : DecidablePred IsLine := fun s => inferInstanceAs (Decidable ('\n' ∉ s.toList))

theorem isLine_append {s t : String} : IsLine (s ++ t) ↔ IsLine s ∧ IsLine t := by
  rw [IsLine, String.toList_append, List.mem_append, not_or]
  rfl

theorem isLine_toString (n : Nat) : IsLine (toString n) := by
  intro hMem
  have hDigits : '\n' ∈ Nat.toDigits 10 n := Nat.toList_repr ▸ hMem
  have hDigit : '\n'.isDigit := Nat.isDigit_of_mem_toDigits (by decide) (by decide) hDigits
  exact absurd hDigit (by decide)

end Text

open Text (IsLine isLine_append isLine_toString)

theorem Role.isLine_tag {word : String} {role : Role} (h : Role.parse word = .ok role) :
    IsLine role.tag := by
  obtain ⟨hTag, rfl⟩ := Role.parse_eq_ok_iff.mp h
  rw [Role.tag_ofTag, IsLine, String.toList_ofList]
  intro hMem
  exact absurd (hTag.isTagChar '\n' hMem) (by decide)

/-- A preview is cut before what it leaves out. -/
theorem Activity.isLine_preview_iff {s : String} :
    IsLine (Activity.preview s) ↔ '\n' ∉ s.toList.take Activity.previewLength := by
  unfold Activity.preview
  simp only
  split
  · next hShort => rw [List.take_of_length_le hShort, IsLine]
  · rw [IsLine, String.toList_ofList, List.mem_append, not_or]
    exact and_iff_left (by decide)

theorem Activity.isLine_preview {s : String} (h : IsLine s) : IsLine (Activity.preview s) :=
  Activity.isLine_preview_iff.mpr fun hMem => h (List.mem_of_mem_take hMem)

theorem ChannelId.isLine_text (id : ChannelId) : IsLine id.text :=
  isLine_append.mpr ⟨by simp [IsLine], isLine_toString id.number⟩

theorem ChannelError.isLine_message_gone (id : ChannelId) :
    IsLine (ChannelError.gone id).message := by
  show IsLine ("channel " ++ id.text ++ " is no longer running")
  rw [isLine_append, isLine_append]
  exact ⟨⟨by simp [IsLine], id.isLine_text⟩, by simp [IsLine]⟩

namespace Session

/-! ## Effects -/

/-- An effect that adds no broken line to the activity log. -/
def Effect.IsPlain : Effect → Prop
  | .entry category origin body =>
    category.isNotable → IsLine origin ∧ IsLine (Activity.preview body)
  | .notice text => IsLine text
  | _ => True

theorem isLine_entryNotice {origin body : String} :
    IsLine (entryNotice origin body) ↔ IsLine origin ∧ IsLine (Activity.preview body) := by
  have hHead : IsLine "ChatOps [" := by simp [IsLine]
  have hMiddle : IsLine "]: " := by simp [IsLine]
  simp only [entryNotice, isLine_append, hHead, hMiddle, true_and, and_true]

theorem Effect.isPlain_remark {category : Category} {body : String} (h : IsLine body) :
    (Effect.remark category body).IsPlain :=
  fun _ => ⟨by simp [IsLine, systemOrigin], Activity.isLine_preview h⟩

theorem Deed.isPlain_iff (d : Deed) :
    d.effect.IsPlain ↔ ∀ line, d.line? = some line → IsLine line.text := by
  obtain ⟨now, e⟩ := d
  cases e with
  | entry category origin body =>
    by_cases hNotable : category.isNotable
    · simp [Effect.IsPlain, Deed.line?, hNotable, isLine_entryNotice]
    · simp [Effect.IsPlain, Deed.line?, hNotable]
  | notice text => simp [Effect.IsPlain, Deed.line?]
  | _ => simp [Effect.IsPlain, Deed.line?]

/-- The lines of a log are single lines just when all that was done was plain. -/
theorem forall_linesOf_iff (ds : List Deed) :
    (∀ line ∈ linesOf ds, IsLine line.text) ↔ ∀ d ∈ ds, d.effect.IsPlain := by
  simp only [linesOf, List.mem_filterMap, Deed.isPlain_iff]
  constructor
  · intro h d hd line hLine
    exact h line ⟨d, hd, hLine⟩
  · rintro h line ⟨d, hd, hLine⟩
    exact h d hd line hLine

/-! ## Steps -/

namespace Core

variable {c : Core} {w : Conditions} {role : Role}

theorem isPlain_of_mem_disconnect : ∀ e ∈ c.disconnect.2, e.IsPlain := by
  have hCancel : ∀ e ∈ c.cancellation, e.IsPlain := by
    intro e he
    unfold cancellation at he
    split at he
    · rw [List.mem_singleton.mp he]
      trivial
    · cases he
  rcases Option.eq_none_or_eq_some c.channel with hNone | ⟨held, hHeld⟩
  · rw [disconnect_of_none hNone]
    exact hCancel
  · rw [disconnect_of_some hHeld]
    intro e he
    rcases List.mem_append.mp he with hFirst | hClosing
    · exact hCancel e hFirst
    · simp only [closing, List.mem_cons, List.not_mem_nil, or_false] at hClosing
      rcases hClosing with rfl | rfl | rfl
      · trivial
      · trivial
      · exact Effect.isPlain_remark (by simp [IsLine])

theorem isPlain_of_mem_vacate : ∀ e ∈ c.vacate.2, e.IsPlain := by
  rcases Option.eq_none_or_eq_some c.channel with hNone | ⟨held, hHeld⟩
  · rw [vacate_of_none hNone]
    exact List.forall_mem_nil _
  · intro e he
    -- a channel that makes room is closed as by a disconnect
    have hDisconnect : e ∈ ({ c with pending := none } : Core).disconnect.2 := by
      rw [vacate_of_some hHeld] at he
      rw [disconnect_of_some (c := { c with pending := none }) hHeld]
      exact List.mem_append_right _ he
    exact isPlain_of_mem_disconnect e hDisconnect

theorem isPlain_of_mem_acceptance {endpoint : String} (hEndpoint : IsLine endpoint)
    {request : OpenRequest} (hRole : IsLine request.role.tag) (link : Link) :
    ∀ e ∈ acceptance endpoint request link, e.IsPlain := by
  intro e he
  rcases List.mem_append.mp he with hNetwork | hRest
  · split at hNetwork
    · rw [List.mem_singleton.mp hNetwork]
      trivial
    · cases hNetwork
  · simp only [List.mem_cons, List.not_mem_nil, or_false] at hRest
    rcases hRest with rfl | rfl
    · trivial
    · have hStart : IsLine "Connecting to " := by simp [IsLine]
      have hAs : IsLine " as " := by simp [IsLine]
      have hDots : IsLine "..." := by simp [IsLine]
      simp only [Effect.IsPlain, isLine_append, hStart, hEndpoint, hAs, hRole, hDots, and_self]

theorem isPlain_of_mem_openNext (hEndpoint : IsLine w.endpoint)
    (hReadable : ∃ url, OpenRequest.readEndpoint w.endpoint = .ok url) (hRole : IsLine role.tag)
    (hRefusal : ∀ request e, w.answer request = .error e → IsLine e.message) :
    ∀ e ∈ (c.openNext w role).2, e.IsPlain := by
  obtain ⟨request, hMake⟩ : ∃ request, OpenRequest.make c.nextId w.endpoint role = .ok request :=
    OpenRequest.exists_make_eq_ok_iff.mpr hReadable
  have hRequest : IsLine request.role.tag := by
    rw [(make_eq_ok hMake).2]
    exact hRole
  intro e he
  cases hAnswer : w.answer request with
  | ok link =>
    rw [openNext_of_accepted hMake hAnswer] at he
    rcases List.mem_cons.mp he with rfl | hRest
    · trivial
    · exact isPlain_of_mem_acceptance hEndpoint hRequest link e hRest
  | error reason =>
    rw [openNext_of_refused hMake hAnswer] at he
    simp only [List.mem_cons, List.not_mem_nil, or_false] at he
    have hBody : IsLine ("Failed to connect: " ++ reason.message) :=
      isLine_append.mpr ⟨by simp [IsLine], hRefusal request reason hAnswer⟩
    rcases he with rfl | rfl | rfl
    · trivial
    · trivial
    · exact Effect.isPlain_remark hBody

theorem isPlain_of_mem_changeRole (hRole : IsLine role.tag) (now : Time.Instant) :
    ∀ e ∈ (c.changeRole w role now).2, e.IsPlain := by
  have hNotice : (roleNotice role).IsPlain := isLine_append.mpr ⟨by simp [IsLine], hRole⟩
  intro e he
  by_cases hAgain : c.isConnected ∨ c.pending.isSome
  · rw [changeRole_of_again hAgain] at he
    rcases List.mem_append.mp he with hFirst | hScheduling
    · rcases List.mem_cons.mp hFirst with rfl | hDisconnect
      · exact hNotice
      · exact isPlain_of_mem_disconnect e hDisconnect
    · rw [List.mem_singleton.mp hScheduling]
      trivial
  · rw [not_or, Option.not_isSome_iff_eq_none] at hAgain
    rw [changeRole_of_quiet hAgain.1 hAgain.2] at he
    rw [List.mem_singleton.mp he]
    exact hNotice

/-- What goes wrong when a text is sent is told without the text. -/
theorem isPlain_of_mem_sending (text : String) :
    ∀ e ∈ (c.sending w text).effects, e.IsPlain := by
  intro e he
  unfold sending at he
  simp only at he
  split at he
  · rw [List.mem_singleton.mp he]
    exact Effect.isPlain_remark (by simp [IsLine])
  split at he
  · cases he
  split at he
  · cases he
  · next held _ =>
    split at he
    · simp only [Sending.effects, List.mem_cons, List.not_mem_nil, or_false] at he
      rcases he with rfl | rfl <;> trivial
    · simp only [Sending.effects, List.mem_cons, List.not_mem_nil, or_false] at he
      have hBody : IsLine ("Send failed: " ++ (ChannelError.gone held.id).message) :=
        isLine_append.mpr ⟨by simp [IsLine], ChannelError.isLine_message_gone held.id⟩
      rcases he with rfl | rfl
      · trivial
      · exact Effect.isPlain_remark hBody

/-- The only line that an event writes by itself is the one for an open channel. -/
theorem eq_of_notice_mem_onEvent {event : ChannelEvent} {text : String}
    (h : Effect.notice text ∈ (c.onEvent event).2) :
    text = "Channel connected as " ++ c.activeRole.tag := by
  have hMessage : ∀ raw, Effect.notice text ∉ (c.onMessage raw).2 := by
    intro raw
    unfold onMessage
    cases Envelope.decode raw with
    | none => simp [Effect.say]
    | some envelope =>
      simp only
      cases categoryOf envelope.messageTag with
      | none =>
        simp only
        split <;> simp [Effect.remark]
      | some category =>
        simp only [adoptIdentity]
        split
        · split <;> simp [Effect.say]
        · simp
  by_cases hActive : c.activeId? = some event.channel
  · rw [onEvent_of_active event hActive] at h
    cases event with
    | opened id => simpa [onOpened, Effect.say, Effect.remark] using h
    | message id raw => exact absurd h (hMessage raw)
    | closed id reason => simp [onClosed, Effect.say, Effect.remark] at h
    | failed id description => simp [onFailed, Effect.say, Effect.remark] at h
  · rw [onEvent_of_other hActive] at h
    simp [Effect.say] at h

end Core

end Session

/-! ## Acts -/

/-- A gateway that refuses in one line, if it refuses. -/
def Policy.IsPlain : Policy → Prop
  | .refuse message => IsLine message
  | _ => True

theorem Gateway.isLine_of_answer {g : Gateway} (h : g.policy.IsPlain) {e : ChannelError}
    (hAnswer : g.answer = .error e) : IsLine e.message := by
  unfold Gateway.answer at hAnswer
  cases hPolicy : g.policy with
  | refuse message =>
    rw [hPolicy] at h hAnswer
    obtain rfl := Except.error.inj hAnswer
    show IsLine ("failed to open channel: " ++ message)
    exact isLine_append.mpr ⟨by simp [IsLine], h⟩
  | _ =>
    rw [hPolicy] at hAnswer
    cases hAnswer

namespace Session

/-- The gateway answers in the same way until the next act that says otherwise. -/
theorem act_policy (now : Time.Instant) (s : Session) {a : Act} (hPump : a ≠ .pump) :
    (s.act now a).gateway.policy = s.gateway.policy ∨
      ∃ policy running, a = .answer policy running ∧ (s.act now a).gateway.policy = policy := by
  cases hTaken : a.step? s with
  | some step =>
    rw [act_of_step hTaken, advance_gateway, Gateway.foldl_perform_policy]
    exact Or.inl rfl
  | none =>
    cases a with
    | answer policy running => exact Or.inr ⟨policy, running, rfl, rfl⟩
    | emit e =>
      refine Or.inl ?_
      show (s.emit e).gateway.policy = _
      rw [emit_gateway]
    | look l => exact Or.inl (by cases l <;> rfl)
    | pump => exact absurd rfl hPump
    | notify text => exact Or.inl rfl
    | enqueue e => exact Or.inl rfl
    | _ => cases hTaken

/-- An act with roles that were read from words, and with texts of one line for the log. -/
def Act.IsPlain : Act → Prop
  | .connect role => ∃ word, Role.parse word = .ok role
  | .changeRole role _ => ∃ word, Role.parse word = .ok role
  | .notify text => IsLine text
  | .answer policy _ => policy.IsPlain
  | _ => True

theorem Act.IsPlain.isLine_of_selects {a : Act} (ha : a.IsPlain) {role : Role}
    (h : a.selects? = some role) : IsLine role.tag := by
  cases a with
  | connect r =>
    obtain ⟨word, hParse⟩ := ha
    obtain rfl := Option.some.inj h
    exact Role.isLine_tag hParse
  | changeRole r changedAt =>
    obtain ⟨word, hParse⟩ := ha
    obtain rfl := Option.some.inj h
    exact Role.isLine_tag hParse
  | _ => cases h

/-- A session that has nothing to say that takes more than a line. -/
structure Tidy (s : Session) : Prop where
  lifecycle : s.core.Lifecycle
  endpoint : IsLine s.settings.endpoint
  readable : ∃ url, OpenRequest.readEndpoint s.settings.endpoint = .ok url
  role : IsLine s.core.role.tag
  held : ∀ held, s.core.channel = some held → IsLine held.role.tag
  policy : s.gateway.policy.IsPlain

namespace Tidy

variable {s : Session} {a : Act}

theorem isLine_selected (h : Tidy s) (ha : a.IsPlain) :
    IsLine (a.selects?.getD s.core.role).tag := by
  cases hSelects : a.selects? with
  | none => exact h.role
  | some role => exact ha.isLine_of_selects hSelects

theorem activeRole (h : Tidy s) : IsLine s.core.activeRole.tag := by
  unfold Core.activeRole
  cases hHeld : s.core.channel with
  | none => exact h.role
  | some held => exact h.held held hHeld

theorem act (h : Tidy s) (now : Time.Instant) (hPump : a ≠ .pump) (ha : a.IsPlain) :
    Tidy (s.act now a) where
  lifecycle := act_lifecycle now s a hPump h.lifecycle
  endpoint := by rw [act_settings]; exact h.endpoint
  readable := by rw [act_settings]; exact h.readable
  role := by
    rw [act_role now h.lifecycle hPump]
    exact h.isLine_selected ha
  held := by
    intro held hHeld
    rcases act_held now h.lifecycle hPump with hSame | hNone | ⟨request, link, hRequest, hNew⟩
    · exact h.held held (hSame ▸ hHeld)
    · rw [hNone] at hHeld
      cases hHeld
    · obtain rfl := Option.some.inj (hNew.symm.trans hHeld)
      obtain ⟨role, hOpens, hMake⟩ := Moment.request?_eq_some.mp hRequest
      show IsLine request.role.tag
      rw [(Core.make_eq_ok hMake).2, role_of_opens h.lifecycle hOpens]
      exact h.isLine_selected ha
  policy := by
    rcases act_policy now s hPump with hSame | ⟨policy, running, rfl, hPolicy⟩
    · rw [hSame]
      exact h.policy
    · rw [hPolicy]
      exact ha

theorem isPlain_of_mem_connect (h : Tidy s) {role : Role} (hRole : IsLine role.tag) :
    ∀ e ∈ (s.core.connect s.conditions role).2, e.IsPlain := by
  intro e he
  rw [Core.connect_eq] at he
  rcases List.mem_append.mp he with hVacate | hOpen
  · exact Core.isPlain_of_mem_vacate e hVacate
  · exact Core.isPlain_of_mem_openNext (w := s.conditions) h.endpoint h.readable hRole
      (fun _ _ hAnswer => Gateway.isLine_of_answer h.policy hAnswer) e hOpen

/-- What breaks a line is a notable entry that an event leaves. -/
theorem entry_of_leaves (h : Tidy s) (ha : a.IsPlain) {effect : Effect} (hLeaves : Leaves s a effect)
    (hBroken : ¬ effect.IsPlain) :
    ∃ e category origin body, a = .handle e ∧
      .entry category origin body ∈ (s.core.onEvent e).2 ∧
      effect = .entry category origin body := by
  cases hLeaves with
  | attempted hOpens hMem =>
    have hRole := role_of_opens h.lifecycle hOpens
    exact absurd (h.isPlain_of_mem_connect (hRole ▸ h.isLine_selected ha) effect hMem) hBroken
  | closed hMem => exact absurd (Core.isPlain_of_mem_disconnect effect hMem) hBroken
  | changed hMem =>
    exact absurd (Core.isPlain_of_mem_changeRole (h.isLine_selected ha) _ effect hMem) hBroken
  | spoken hMem => exact absurd (Core.isPlain_of_mem_sending _ effect hMem) hBroken
  | noted => exact absurd ha hBroken
  | handled hMem =>
    cases effect with
    | entry category origin body => exact ⟨_, category, origin, body, rfl, hMem, rfl⟩
    | notice text =>
      -- the line for an open channel names a role
      refine absurd ?_ hBroken
      rw [Core.eq_of_notice_mem_onEvent hMem]
      exact isLine_append.mpr ⟨by simp [IsLine], h.activeRole⟩
    | _ => exact absurd trivial hBroken

end Tidy

/-! ## Runs -/

theorem tidy_start {settings : Settings} {role : Role} {gateway : Gateway}
    (hReadable : ∃ url, OpenRequest.readEndpoint settings.endpoint = .ok url)
    (hEndpoint : IsLine settings.endpoint) (hRole : ∃ word, Role.parse word = .ok role)
    (hPolicy : gateway.policy.IsPlain) : Tidy (start settings role gateway) where
  lifecycle := Core.lifecycle_fresh role
  endpoint := hEndpoint
  readable := hReadable
  role := by
    obtain ⟨word, hParse⟩ := hRole
    exact Role.isLine_tag hParse
  held := by
    intro held hHeld
    cases hHeld
  policy := hPolicy

theorem tidy_of_mem_moments {s : Session} (h : Tidy s) {acts : List Timed}
    (hActs : ∀ a ∈ acts, a.2.IsPlain) {m : Moment} (hMem : m ∈ s.moments acts) :
    Tidy m.session ∧ m.act.IsPlain ∧ m.act ≠ .pump :=
  moment_keeps (P := Tidy) (A := Act.IsPlain) (fun _ => trivial)
    (fun _ _ h => ⟨h.lifecycle, h.endpoint, h.readable, h.role, h.held, h.policy⟩)
    (fun now _ _ hPump ha h => h.act now hPump ha) hActs h hMem

/-- **When the activity log breaks.** At an endpoint that validation lets pass, with roles that were
read from words, and as long as neither the endpoint, nor a refusal of the gateway, nor a text that
is written to the log breaks a line: a broken line of the log is the one for a notable entry that an
event left, and the lines written in a run are all single lines just when each of these entries has
an author, and among the first fifty characters of its body, no line break. -/
theorem activity_lines_of_run (settings : Settings) (role : Role) (gateway : Gateway)
    (acts : List Timed) (hReadable : ∃ url, OpenRequest.readEndpoint settings.endpoint = .ok url)
    (hEndpoint : IsLine settings.endpoint) (hRole : ∃ word, Role.parse word = .ok role)
    (hPolicy : gateway.policy.IsPlain) (hActs : ∀ a ∈ acts, a.2.IsPlain) :
    let s₀ := start settings role gateway
    (∀ line ∈ (s₀.run acts).activity.entries, ¬ IsLine line.text →
        ∃ m ∈ s₀.moments acts, ∃ e category origin body, m.act = .handle e ∧
          .entry category origin body ∈ (m.session.core.onEvent e).2 ∧ category.isNotable ∧
          line = ⟨m.now, entryNotice origin body⟩) ∧
      ((∀ line ∈ linesOf (s₀.deeds acts), IsLine line.text) ↔
        ∀ m ∈ s₀.moments acts, ∀ e, m.act = .handle e → ∀ category origin body,
          .entry category origin body ∈ (m.session.core.onEvent e).2 → category.isNotable →
          IsLine origin ∧ '\n' ∉ body.toList.take Activity.previewLength) := by
  intro s₀
  have hTidy : Tidy s₀ := tidy_start hReadable hEndpoint hRole hPolicy
  constructor
  · intro line hLine hBroken
    have hKept : Kept settings (s₀.run acts) (s₀.deeds acts) := by
      rw [← calls_ofAct, ← chronicle_ofAct]
      exact (kept_start settings role gateway).calls _
    have hWritten : line ∈ linesOf (s₀.deeds acts) := by
      rw [hKept.activity_eq] at hLine
      exact List.mem_of_mem_drop hLine
    obtain ⟨d, hDeed, hLine⟩ := List.mem_filterMap.mp hWritten
    obtain ⟨m, hMem, hd⟩ := List.mem_flatMap.mp hDeed
    obtain ⟨hMoment, ha, hPump⟩ := tidy_of_mem_moments hTidy hActs hMem
    have hNot : ¬ d.effect.IsPlain := fun hPlain => hBroken (d.isPlain_iff.mp hPlain line hLine)
    obtain ⟨hNow, hLeaves⟩ := leaves_of_mem_deeds hPump hd
    obtain ⟨e, category, origin, body, hAct, hEntry, hEffect⟩ :=
      hMoment.entry_of_leaves ha hLeaves hNot
    refine ⟨m, hMem, e, category, origin, body, hAct, hEntry, ?_⟩
    unfold Deed.line? at hLine
    rw [hEffect] at hLine
    simp only at hLine
    split at hLine
    · next hNotable => exact ⟨hNotable, by rw [← Option.some.inj hLine, hNow]⟩
    · cases hLine
  · rw [forall_linesOf_iff]
    constructor
    · intro hPlain m hMem e hAct category origin body hEntry hNotable
      have hTaken : (Call.act m.act).step? m.session = some (m.session.core.onEvent e) := by
        rw [hAct]
        rfl
      have hd : ⟨m.now, .entry category origin body⟩ ∈ m.deeds :=
        (Moment.mem_deeds hTaken).mpr ⟨rfl, hEntry⟩
      have hEffect : (Effect.entry category origin body).IsPlain :=
        hPlain _ (List.mem_flatMap.mpr ⟨m, hMem, hd⟩)
      obtain ⟨hOrigin, hPreview⟩ := hEffect hNotable
      exact ⟨hOrigin, Activity.isLine_preview_iff.mp hPreview⟩
    · intro hEntries d hDeed
      refine Classical.byContradiction fun hBroken => ?_
      obtain ⟨m, hMem, hd⟩ := List.mem_flatMap.mp hDeed
      obtain ⟨hMoment, ha, hPump⟩ := tidy_of_mem_moments hTidy hActs hMem
      obtain ⟨-, hLeaves⟩ := leaves_of_mem_deeds hPump hd
      obtain ⟨e, category, origin, body, hAct, hEntry, hEffect⟩ :=
        hMoment.entry_of_leaves ha hLeaves hBroken
      refine hBroken ?_
      rw [hEffect]
      intro hNotable
      obtain ⟨hOrigin, hBody⟩ :=
        hEntries m hMem e hAct category origin body hEntry hNotable
      exact ⟨hOrigin, Activity.isLine_preview_iff.mpr hBody⟩

theorem exists_url_of_loopback : ∃ url, OpenRequest.readEndpoint "ws://[::1]" = .ok url :=
  (Config.validate_eq_ok_iff (c := { endpoint := "ws://[::1]" }).mp (by decide +kernel)).endpoint

/-- A break in the body of a message that is not notable, and one after the fiftieth character,
leave the log as it should be. -/
theorem activity_lines_of_run_late_breaks :
    let settings : Settings := { endpoint := "ws://[::1]" }
    let acts : List Timed :=
      [(.zero, .connectCurrent), (.zero, .handle (.opened ⟨1⟩)),
        (.zero, .handle (.message ⟨1⟩
          "\x7b\"type\":\"command_response\",\"message\":\"one\\ntwo\"\x7d")),
        (.zero, .handle (.closed ⟨1⟩
          (some "the gateway has been stopped by its operator\nuntil tomorrow")))]
    let s₀ := start settings .client {}
    (∃ url, OpenRequest.readEndpoint settings.endpoint = .ok url) ∧ IsLine settings.endpoint ∧
      (∃ word, Role.parse word = .ok .client) ∧ ({} : Gateway).policy.IsPlain ∧
      (∀ a ∈ acts, a.2.IsPlain) ∧
      ((s₀.run acts).transcript.entries.filter fun entry => '\n' ∈ entry.body.toList).length = 2 ∧
      ∀ m ∈ s₀.moments acts, ∀ e, m.act = .handle e → ∀ category origin body,
        .entry category origin body ∈ (m.session.core.onEvent e).2 → category.isNotable →
        IsLine origin ∧ '\n' ∉ body.toList.take Activity.previewLength := by
  intro settings acts s₀
  have hReadable : ∃ url, OpenRequest.readEndpoint settings.endpoint = .ok url :=
    exists_url_of_loopback
  have hEndpoint : IsLine settings.endpoint := by decide +kernel
  have hRole : ∃ word, Role.parse word = .ok .client := ⟨"client", by decide +kernel⟩
  have hPolicy : ({} : Gateway).policy.IsPlain := trivial
  have hActs : ∀ a ∈ acts, a.2.IsPlain := by simp [acts, Act.IsPlain]
  have hLines : ∀ line ∈ linesOf (s₀.deeds acts), IsLine line.text := by decide +kernel
  obtain ⟨-, hIff⟩ :=
    activity_lines_of_run settings .client {} acts hReadable hEndpoint hRole hPolicy hActs
  exact ⟨hReadable, hEndpoint, hRole, hPolicy, hActs, by decide +kernel, hIff.mp hLines⟩

/-- A line break in the message of a notable entry breaks the log. -/
theorem activity_line_broken :
    ¬ ∀ (settings : Settings) (role : Role) (gateway : Gateway) (acts : List Timed),
      (∃ url, OpenRequest.readEndpoint settings.endpoint = .ok url) → IsLine settings.endpoint →
      (∃ word, Role.parse word = .ok role) → gateway.policy.IsPlain → (∀ a ∈ acts, a.2.IsPlain) →
      ∀ line ∈ ((start settings role gateway).run acts).activity.entries, IsLine line.text := by
  intro hAll
  let acts : List Timed :=
    [(.zero, .connectCurrent),
      (.zero, .handle (.message ⟨1⟩ "\x7b\"type\":\"system\",\"message\":\"one\\ntwo\"\x7d"))]
  have hLines := hAll { endpoint := "ws://[::1]" } .client {} acts exists_url_of_loopback
    (by decide +kernel) ⟨"client", by decide +kernel⟩ trivial (by simp [acts, Act.IsPlain])
  exact absurd hLines (by decide +kernel)

end Session

end ChatConsole
