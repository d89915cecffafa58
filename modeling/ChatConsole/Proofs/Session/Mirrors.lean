import ChatConsole.Proofs.Session.Deeds
import ChatConsole.Proofs.Session.Reconnects
import ChatConsole.Proofs.Session.Requests
import ChatConsole.Proofs.Session.Retention

/-! # Where the lines of the activity log come from

Every entry of a notable category is mirrored in the activity log, with its author and a preview of
its body, whatever becomes of the entry itself. All other lines are the log's own, and each answers
to one occasion: a channel that was accepted, a change of the role, a channel that was found open,
or a text that was written to the log. `occasions` lists the calls of a chronicle with the sessions
they are made to, where events that are taken in together count one by one.
-/

namespace ChatConsole

/-! ## Previews -/

namespace Activity

theorem preview_of_short {body : String} (h : body.toList.length ≤ 50) : preview body = body :=
  if_pos h

theorem preview_of_long {body : String} (h : 50 < body.toList.length) :
    preview body = String.ofList (body.toList.take 50 ++ ['.', '.', '.']) :=
  if_neg (Nat.not_le_of_gt h)

/-- What is cut stays as it is: its first fifty characters are those of the body. -/
theorem preview_preview (body : String) : preview (preview body) = preview body := by
  rcases Nat.lt_or_ge 50 body.toList.length with hLong | hShort
  · have hTake : (body.toList.take 50).length = 50 := by
      rw [List.length_take, Nat.min_eq_left (Nat.le_of_lt hLong)]
    have hCut : 50 < (preview body).toList.length := by
      rw [preview_of_long hLong, String.toList_ofList, List.length_append, hTake]
      decide
    rw [preview_of_long hCut, preview_of_long hLong, String.toList_ofList,
      List.take_append_of_le_length (Nat.le_of_eq hTake.symm), List.take_take, Nat.min_self]
  · rw [preview_of_short hShort, preview_of_short hShort]

end Activity

/-- The line of the activity log for an entry. -/
def Entry.mirror (entry : Entry) : ActivityLine :=
  ⟨entry.createdAt, "ChatOps [" ++ entry.origin ++ "]: " ++ Activity.preview entry.body⟩

namespace Session

/-! ## Occasions -/

/-- A call and the session that it is made to. -/
structure Occasion where
  session : Session
  now : Time.Instant
  call : Call

namespace Occasion

def ofMoment (m : Moment) : Occasion := ⟨m.session, m.now, .act m.act⟩

/-- What is done on behalf of the call. -/
def deeds (o : Occasion) : List Deed := o.call.deeds o.now o.session

end Occasion

/-- The occasions of some calls. -/
def occasions : Session → List TimedCall → List Occasion
  | _, [] => []
  | s, (now, c) :: cs =>
    (if c = .act .pump then (momentsOf now { s with queue := [] } s.queue).map .ofMoment
      else [⟨s, now, c⟩]) ++ (s.call now c).occasions cs

theorem chronicle_eq (cs : List TimedCall) (s : Session) :
    s.chronicle cs = (s.occasions cs).flatMap Occasion.deeds := by
  induction cs generalizing s with
  | nil => rfl
  | cons c cs ih =>
    obtain ⟨now, c⟩ := c
    rw [chronicle, occasions, List.flatMap_append, ← ih]
    congr 1
    by_cases hPump : c = .act .pump
    · subst hPump
      rw [if_pos rfl, List.flatMap_map]
      exact deedsOfEvents_eq now s.queue _
    · rw [if_neg hPump, List.flatMap_singleton]
      rfl

/-- No occasion takes in all events that wait. -/
theorem call_ne_pump_of_mem_occasions {o : Occasion} {cs : List TimedCall} {s : Session}
    (h : o ∈ s.occasions cs) : o.call ≠ .act .pump := by
  induction cs generalizing s with
  | nil => cases h
  | cons c cs ih =>
    obtain ⟨now, c⟩ := c
    rcases List.mem_append.mp h with hHere | hLater
    · split at hHere
      · obtain ⟨m, hMem, rfl⟩ := List.mem_map.mp hHere
        obtain ⟨e, he⟩ := exists_of_mem_momentsOf hMem
        simp [Occasion.ofMoment, he]
      · next hPump =>
        rw [List.mem_singleton.mp hHere]
        exact hPump
    · exact ih hLater

/-! ## Lines of the log's own -/

def Effect.isEntry : Effect → Bool
  | .entry .. => true
  | _ => false

def Effect.notice? : Effect → Option String
  | .notice text => some text
  | _ => none

/-- The lines that some effects write without an entry. -/
def notices (es : List Effect) : List String := es.filterMap Effect.notice?

theorem notices_append (es es' : List Effect) : notices (es ++ es') = notices es ++ notices es' :=
  List.filterMap_append

/-- The line for a channel that was asked for in this role, if the gateway accepts it. -/
def acceptance? (s : Session) (role : Role) : Option String :=
  match OpenRequest.make s.core.nextId s.settings.endpoint role, s.gateway.answer with
  | .ok _, .ok _ => some ("Connecting to " ++ s.settings.endpoint ++ " as " ++ role.tag ++ "...")
  | _, _ => none

/-- The line that a call writes without an entry: an accepted channel, a new role, a channel that
was found open, or a text of the caller. -/
def Occasion.notice? (o : Occasion) : Option String :=
  match o.call with
  | .act (.connect role) => o.session.acceptance? role
  | .act .connectCurrent => o.session.acceptance? o.session.core.role
  | .act (.tick reading) => (o.session.core.dueRole? reading).bind o.session.acceptance?
  | .act (.changeRole role _) => some ("Role changed to: " ++ role.tag)
  | .act (.handle (.opened id)) =>
    if o.session.core.activeId? = some id then
      some ("Channel connected as " ++ o.session.activeRole.tag)
    else none
  | .opened => some ("Channel connected as " ++ o.session.activeRole.tag)
  | .act (.notify text) => some text
  | _ => none

/-- The line with its time. -/
def Occasion.line? (o : Occasion) : Option ActivityLine := o.notice?.map (.mk o.now)

namespace Core

variable (c : Core) (w : Conditions)

theorem notices_disconnect : notices c.disconnect.2 = [] := by
  have hCancel : notices c.cancellation = [] := by
    unfold cancellation
    split <;> rfl
  rcases Option.eq_none_or_eq_some c.channel with hNone | ⟨held, hHeld⟩
  · rw [disconnect_of_none hNone, hCancel]
  · rw [disconnect_of_some hHeld, notices_append, hCancel]
    rfl

theorem notices_vacate : notices c.vacate.2 = [] := by
  rcases Option.eq_none_or_eq_some c.channel with hNone | ⟨held, hHeld⟩
  · rw [vacate_of_none hNone]
    rfl
  · rw [vacate_of_some hHeld]
    rfl

theorem notices_acceptance (endpoint : String) (request : OpenRequest) (link : Link) :
    notices (acceptance endpoint request link) =
      ["Connecting to " ++ endpoint ++ " as " ++ request.role.tag ++ "..."] := by
  cases link <;> rfl

theorem notices_changeRole (role : Role) (now : Time.Instant) :
    notices (c.changeRole w role now).2 = ["Role changed to: " ++ role.tag] := by
  by_cases hAgain : c.isConnected ∨ c.pending.isSome
  · rw [changeRole_of_again hAgain, notices_append]
    show ["Role changed to: " ++ role.tag] ++ notices (Core.disconnect { c with role }).2 ++ [] = _
    rw [notices_disconnect, List.append_nil, List.append_nil]
  · rw [not_or, Option.not_isSome_iff_eq_none] at hAgain
    rw [changeRole_of_quiet hAgain.1 hAgain.2]
    rfl

theorem notices_sending (text : String) : notices (c.sending w text).effects = [] := by
  cases c.sending w text <;> rfl

theorem notices_onMessage (raw : String) : notices (c.onMessage raw).2 = [] := by
  unfold onMessage
  cases Envelope.decode raw with
  | none => rfl
  | some envelope =>
    simp only
    cases categoryOf envelope.messageTag with
    | none =>
      simp only
      split <;> rfl
    | some category =>
      simp only [adoptIdentity]
      split
      · split <;> rfl
      · rfl

theorem notices_onClosed (reason : Option String) : notices (c.onClosed reason).2 = [] := by
  unfold onClosed
  cases c.activeId? <;> rfl

theorem notices_onEvent (e : ChannelEvent) :
    notices (c.onEvent e).2 =
      if c.activeId? = some e.channel ∧ e = .opened e.channel then
        ["Channel connected as " ++ c.activeRole.tag]
      else [] := by
  by_cases hActive : c.activeId? = some e.channel
  · rw [onEvent_of_active e hActive]
    cases e with
    | opened id =>
      rw [if_pos ⟨hActive, rfl⟩]
      rfl
    | message id raw =>
      rw [if_neg (by simp)]
      exact c.notices_onMessage raw
    | closed id reason =>
      rw [if_neg (by simp)]
      exact c.notices_onClosed reason
    | failed id description =>
      rw [if_neg (by simp)]
      rfl
  · rw [onEvent_of_other hActive, if_neg fun h => hActive h.1]
    rfl

end Core

theorem notices_connect (s : Session) (role : Role) :
    notices (s.core.connect s.conditions role).2 = (s.acceptance? role).toList := by
  rw [Core.connect_eq, notices_append, Core.notices_vacate, List.nil_append, acceptance?]
  have hId : s.core.vacate.1.nextId = s.core.nextId := Core.vacate_nextId s.core
  cases hMake : OpenRequest.make s.core.nextId s.settings.endpoint role with
  | error e =>
    rw [Core.openNext_of_rejected (w := s.conditions) (hId.symm ▸ hMake)]
    rfl
  | ok request =>
    cases hAnswer : s.gateway.answer with
    | error e =>
      rw [Core.openNext_of_refused (w := s.conditions) (hId.symm ▸ hMake) hAnswer]
      rfl
    | ok link =>
      rw [Core.openNext_of_accepted (w := s.conditions) (hId.symm ▸ hMake) hAnswer]
      show notices (Core.acceptance s.settings.endpoint request link) = _
      rw [Core.notices_acceptance, (Core.make_eq_ok hMake).2]
      rfl

/-- A step writes the line of its occasion, apart from those of its entries. -/
theorem Occasion.notices_of_step {o : Occasion} {step : Step}
    (h : o.call.step? o.session = some step) : notices step.2 = o.notice?.toList := by
  obtain ⟨s, now, c⟩ := o
  cases c with
  | act a =>
    cases a with
    | connect role =>
      obtain rfl := Option.some.inj h
      exact notices_connect s role
    | connectCurrent =>
      obtain rfl := Option.some.inj h
      exact notices_connect s s.core.role
    | disconnect =>
      obtain rfl := Option.some.inj h
      exact s.core.notices_disconnect
    | changeRole role changedAt =>
      obtain rfl := Option.some.inj h
      exact s.core.notices_changeRole s.conditions role changedAt
    | tick reading =>
      obtain rfl := Option.some.inj h
      show _ = ((s.core.dueRole? reading).bind s.acceptance?).toList
      cases hDue : s.core.dueRole? reading with
      | none =>
        rw [Core.tick_of_not_due hDue]
        rfl
      | some role =>
        rw [Core.tick_of_due hDue]
        exact notices_connect s role
    | send text =>
      obtain rfl := Option.some.inj h
      exact s.core.notices_sending s.conditions text
    | handle e =>
      obtain rfl := Option.some.inj h
      rw [Core.notices_onEvent]
      cases e with
      | opened id =>
        simp only [notice?, ChannelEvent.channel, and_true]
        split <;> rfl
      | _ => exact if_neg (by simp)
    | notify text =>
      obtain rfl := Option.some.inj h
      rfl
    | _ => cases h
  | opened =>
    obtain rfl := Option.some.inj h
    rfl
  | message raw =>
    obtain rfl := Option.some.inj h
    exact s.core.notices_onMessage raw
  | closed reason =>
    obtain rfl := Option.some.inj h
    exact s.core.notices_onClosed reason
  | failed description =>
    obtain rfl := Option.some.inj h
    rfl

/-- Where nothing is done, there is nothing to tell either. -/
theorem Occasion.notice?_of_no_step {o : Occasion} (h : o.call.step? o.session = none) :
    o.notice? = none := by
  obtain ⟨s, now, c⟩ := o
  cases c with
  | act a =>
    cases a with
    | enqueue e => rfl
    | emit e => rfl
    | pump => rfl
    | answer policy running => rfl
    | look l => rfl
    | _ => cases h
  | _ => cases h

/-! ## All lines -/

theorem linesOf_others (now : Time.Instant) (es : List Effect) :
    linesOf ((es.map (Deed.mk now)).filter (!·.effect.isEntry)) =
      (notices es).map (ActivityLine.mk now) := by
  induction es with
  | nil => rfl
  | cons e es ih =>
    cases e with
    | notice text => exact congrArg (ActivityLine.mk now text :: ·) ih
    | _ => exact ih

theorem Occasion.linesOf_others {o : Occasion} (h : o.call ≠ .act .pump) :
    linesOf (o.deeds.filter (!·.effect.isEntry)) = o.line?.toList := by
  cases hTaken : o.call.step? o.session with
  | some step =>
    rw [deeds, Call.deeds_of_step hTaken, Session.linesOf_others, notices_of_step hTaken, line?]
    cases o.notice? <;> rfl
  | none =>
    have hNone : o.deeds = [] := by
      unfold deeds Call.deeds
      split
      · next hPump => exact absurd hPump h
      · rw [hTaken]
        rfl
    rw [hNone, line?, notice?_of_no_step hTaken]
    rfl

/-- The lines without an entry are those of the occasions. -/
theorem linesOf_others_of_calls (s : Session) (cs : List TimedCall) :
    linesOf ((s.chronicle cs).filter (!·.effect.isEntry)) =
      (s.occasions cs).filterMap Occasion.line? := by
  have hEach : ∀ o ∈ s.occasions cs,
      linesOf (o.deeds.filter (!·.effect.isEntry)) = o.line?.toList :=
    fun _ hMem => Occasion.linesOf_others (call_ne_pump_of_mem_occasions hMem)
  rw [chronicle_eq]
  generalize s.occasions cs = os at hEach
  induction os with
  | nil => rfl
  | cons o os ih =>
    rw [List.flatMap_cons, List.filter_append, linesOf, List.filterMap_append,
      ← linesOf, ← linesOf, hEach o List.mem_cons_self,
      ih fun o' hMem => hEach o' (List.mem_cons_of_mem o hMem)]
    cases hLine : o.line? <;> simp [hLine]

/-- The lines of entries are the mirrors of those of notable categories. -/
theorem linesOf_entries (ds : List Deed) :
    linesOf (ds.filter (·.effect.isEntry)) =
      ((ds.filterMap Deed.appended?).filter (·.category.isNotable)).map Entry.mirror := by
  induction ds with
  | nil => rfl
  | cons d ds ih =>
    obtain ⟨now, e⟩ := d
    cases e with
    | entry category origin body =>
      cases category with
      | system | error | systemBroadcast =>
        exact congrArg (Entry.mirror ⟨_, origin, body, now⟩ :: ·) ih
      | commandSent | commandReceived | commandResponse => exact ih
    | _ => exact ih

theorem entriesOf_suffix (ds : List Deed) : entriesOf ds <:+ ds.filterMap Deed.appended? := by
  have hSuffix : sinceWipe ds <:+ ds := by
    rw [sinceWipe, ← List.reverse_prefix, List.reverse_reverse]
    exact List.takeWhile_prefix _
  exact hSuffix.filterMap _

/-- **Where the lines of the activity log come from.** Let `T` be all entries that some calls append
to the transcript: it holds the last of those that came after it was emptied. The activity log holds
the last of all its lines. Those of entries are the mirrors of the entries of `T` of three
categories, in the order of `T`; the others are one line for each occasion that has one. A mirror
shows a body of up to fifty characters as it is, and a longer one up to there with three dots, which
a second preview leaves as it is. -/
theorem activity_of_calls (settings : Settings) (role : Role) (gateway : Gateway)
    (cs : List TimedCall) :
    let s₀ := start settings role gateway
    let s := s₀.calls cs
    let ds := s₀.chronicle cs
    let T := ds.filterMap Deed.appended?
    (s.transcript.entries = lastOf (max settings.transcriptLimit 1) (entriesOf ds) ∧
        entriesOf ds <:+ T) ∧
      s.activity.entries = lastOf (max settings.activityLimit 1) (linesOf ds) ∧
      linesOf (ds.filter (·.effect.isEntry)) =
        (T.filter (·.category ∈ [.system, .error, .systemBroadcast])).map Entry.mirror ∧
      linesOf (ds.filter (!·.effect.isEntry)) = (s₀.occasions cs).filterMap Occasion.line? ∧
      ∀ body : String,
        (body.toList.length ≤ 50 → Activity.preview body = body) ∧
          (50 < body.toList.length →
            Activity.preview body = String.ofList (body.toList.take 50) ++ "...") ∧
          Activity.preview (Activity.preview body) = Activity.preview body := by
  intro s₀ s ds T
  have hKept : Kept settings s ds := (kept_start settings role gateway).calls cs
  have hNotable : (fun entry : Entry => entry.category.isNotable) =
      fun entry => decide (entry.category ∈ [.system, .error, .systemBroadcast]) := by
    funext entry
    cases entry.category <;> rfl
  refine ⟨⟨hKept.transcript_eq, entriesOf_suffix ds⟩, hKept.activity_eq, ?_,
    linesOf_others_of_calls s₀ cs, fun body =>
    ⟨Activity.preview_of_short, fun hLong => ?_, Activity.preview_preview body⟩⟩
  · rw [linesOf_entries, hNotable]
  · rw [Activity.preview_of_long hLong, String.ofList_append]

end Session

end ChatConsole
