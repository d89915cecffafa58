import ChatConsole.Proofs.Session.Chronicle
import ChatConsole.Proofs.Session.Views

/-! # What a session keeps

The transcript and the activity log keep the end of something longer. `entriesOf` and `linesOf` read
that off a chronicle: the entries since the last wipe and all lines of the log, whatever became of
them. `Kept` says that both stores hold the end of these as far as their limits allow, and each
effect keeps it. The limits bear on nothing else: two sessions that differ in them alone do the same
all along, and of what they keep the shorter one is the end of the longer.
-/

namespace ChatConsole

/-! ## The end of a list -/

/-- Whatever was dropped from the front stays dropped when something is added at the end. -/
theorem lastOf_lastOf_append (n : Nat) (xs ys : List α) :
    lastOf n (lastOf n xs ++ ys) = lastOf n (xs ++ ys) := by
  have hFront : xs.length - n ≤ xs.length := Nat.sub_le ..
  have hMove : lastOf n xs ++ ys = (xs ++ ys).drop (xs.length - n) :=
    (List.drop_append_of_le_length hFront).symm
  rw [hMove, lastOf, lastOf, List.drop_drop, List.length_drop]
  congr 1
  rw [List.length_append]
  omega

theorem lastOf_lastOf (n m : Nat) (xs : List α) :
    lastOf m (lastOf n xs) = lastOf (min n m) xs := by
  unfold lastOf
  rw [List.drop_drop, List.length_drop]
  congr 1
  omega

namespace Retained

/-- The log holds the end of a history, as far as its limit allows. -/
def Holds (log : Retained α) (history : List α) : Prop := log.entries = lastOf log.limit history

theorem holds_empty (capacity : Nat) : (empty capacity : Retained α).Holds [] :=
  List.drop_nil.symm

theorem holds_clear (log : Retained α) : log.clear.Holds [] := List.drop_nil.symm

theorem Holds.append {log : Retained α} {history : List α} (h : log.Holds history) (entry : α) :
    (log.append entry).Holds (history ++ [entry]) := by
  show lastOf log.limit (log.entries ++ [entry]) = lastOf log.limit (history ++ [entry])
  rw [h, lastOf_lastOf_append]

/-- Adds an entry if there is one. -/
def appendAny (log : Retained α) (newest? : Option α) : Retained α := newest?.elim log log.append

@[simp] theorem limit_appendAny (log : Retained α) (newest? : Option α) :
    (log.appendAny newest?).limit = log.limit := by
  cases newest? <;> rfl

theorem Holds.appendAny {log : Retained α} {history : List α} (h : log.Holds history)
    (newest? : Option α) : (log.appendAny newest?).Holds (history ++ newest?.toList) := by
  cases newest? with
  | none =>
    rw [Option.toList_none, List.append_nil]
    exact h
  | some entry => exact h.append entry

end Retained

namespace Session

/-! ## What a chronicle tells of the stores -/

/-- The entry that is appended to the transcript. -/
def Deed.appended? (d : Deed) : Option Entry :=
  match d.effect with
  | .entry category origin body => some ⟨category, origin, body, d.now⟩
  | _ => none

/-- The line that is appended to the activity log: an entry of a notable category has one, too. -/
def Deed.line? (d : Deed) : Option ActivityLine :=
  match d.effect with
  | .entry category origin body =>
    if category.isNotable then some ⟨d.now, entryNotice origin body⟩ else none
  | .notice text => some ⟨d.now, text⟩
  | _ => none

/-- What was done since the transcript was last emptied. -/
def sinceWipe (ds : List Deed) : List Deed := (ds.reverse.takeWhile (·.effect ≠ .wipe)).reverse

/-- The entries appended to the transcript since it was last emptied, oldest first. -/
def entriesOf (ds : List Deed) : List Entry := (sinceWipe ds).filterMap Deed.appended?

/-- All lines ever appended to the activity log, oldest first. -/
def linesOf (ds : List Deed) : List ActivityLine := ds.filterMap Deed.line?

theorem entriesOf_snoc_wipe (ds : List Deed) {d : Deed} (h : d.effect = .wipe) :
    entriesOf (ds ++ [d]) = [] := by
  simp [entriesOf, sinceWipe, h]

theorem entriesOf_snoc (ds : List Deed) {d : Deed} (h : d.effect ≠ .wipe) :
    entriesOf (ds ++ [d]) = entriesOf ds ++ d.appended?.toList := by
  cases hEntry : d.appended? <;> simp [entriesOf, sinceWipe, h, hEntry]

theorem linesOf_snoc (ds : List Deed) (d : Deed) :
    linesOf (ds ++ [d]) = linesOf ds ++ d.line?.toList := by
  cases hLine : d.line? <;> simp [linesOf, hLine]

/-! ## What an effect does to the stores -/

variable (now : Time.Instant) (s : Session)

theorem perform_transcript {e : Effect} (h : e ≠ .wipe) :
    (s.perform now e).transcript = s.transcript.appendAny (Deed.mk now e).appended? := by
  cases e with
  | entry category origin body => exact addEntry_transcript now s _
  | wipe => exact absurd rfl h
  | _ => rfl

theorem perform_activity (e : Effect) :
    (s.perform now e).activity = s.activity.appendAny (Deed.mk now e).line? := by
  cases e with
  | entry category origin body =>
    show (s.addEntry now ⟨category, origin, body, now⟩).activity = _
    by_cases hNotable : category.isNotable
    · simp only [addEntry, Deed.line?, hNotable, if_true]
      rfl
    · simp only [addEntry, Deed.line?, hNotable]
      rfl
  | _ => rfl

/-- How the stores of a session stand to its settings and to what was done so far. -/
structure Kept (settings : Settings) (s : Session) (ds : List Deed) : Prop where
  transcript_limit : s.transcript.limit = max settings.transcriptLimit 1
  transcript : s.transcript.Holds (entriesOf ds)
  activity_limit : s.activity.limit = max settings.activityLimit 1
  activity : s.activity.Holds (linesOf ds)

theorem kept_start (settings : Settings) (role : Role) (gateway : Gateway) :
    Kept settings (start settings role gateway) [] where
  transcript_limit := rfl
  transcript := Retained.holds_empty _
  activity_limit := rfl
  activity := Retained.holds_empty _

variable {s}

namespace Kept

variable {settings : Settings} {ds : List Deed}

theorem transcript_eq (h : Kept settings s ds) :
    s.transcript.entries = lastOf (max settings.transcriptLimit 1) (entriesOf ds) := by
  rw [h.transcript, h.transcript_limit]

theorem activity_eq (h : Kept settings s ds) :
    s.activity.entries = lastOf (max settings.activityLimit 1) (linesOf ds) := by
  rw [h.activity, h.activity_limit]

theorem perform (h : Kept settings s ds) (e : Effect) :
    Kept settings (s.perform now e) (ds ++ [⟨now, e⟩]) := by
  have hActivity : (s.perform now e).activity.Holds (linesOf (ds ++ [⟨now, e⟩])) := by
    rw [perform_activity, linesOf_snoc]
    exact h.activity.appendAny _
  have hActivityLimit : (s.perform now e).activity.limit = max settings.activityLimit 1 := by
    rw [perform_activity, Retained.limit_appendAny, h.activity_limit]
  by_cases hWipe : e = .wipe
  · subst hWipe
    refine ⟨h.transcript_limit, ?_, hActivityLimit, hActivity⟩
    rw [entriesOf_snoc_wipe ds rfl]
    exact s.transcript.holds_clear
  · refine ⟨?_, ?_, hActivityLimit, hActivity⟩
    · rw [perform_transcript now s hWipe, Retained.limit_appendAny, h.transcript_limit]
    · rw [perform_transcript now s hWipe, entriesOf_snoc ds hWipe]
      exact h.transcript.appendAny _

theorem calls (h : Kept settings s ds) (cs : List TimedCall) :
    Kept settings (s.calls cs) (ds ++ s.chronicle cs) :=
  calls_keep (P := Kept settings) (fun _ _ _ h => ⟨h.1, h.2, h.3, h.4⟩)
    (fun _ _ _ h => ⟨h.1, h.2, h.3, h.4⟩) (fun _ _ _ h => ⟨h.1, h.2, h.3, h.4⟩)
    (fun now _ _ e h => h.perform now e) cs s ds h

end Kept

/-! ## Sessions without their stores -/

/-- The session with nothing in its stores and without a say on how much they keep. -/
def storeless (s : Session) : Session :=
  { s with
    settings := { s.settings with transcriptLimit := 0, activityLimit := 0 }
    transcript := .empty 0
    activity := .empty 0 }

theorem storeless_isView : IsView storeless where
  core := fun _ => rfl
  conditions := fun _ => rfl
  withCore := fun _ _ => rfl
  perform := by
    intro now s e
    cases e with
    | entry category origin body =>
      simp only [Session.perform, addEntry]
      split <;> rfl
    | _ => rfl

variable {t : Session}

theorem gateway_eq_of_storeless (h : s.storeless = t.storeless) : s.gateway = t.gateway :=
  show s.storeless.gateway = t.storeless.gateway from congrArg gateway h

theorem queue_eq_of_storeless (h : s.storeless = t.storeless) : s.queue = t.queue :=
  show s.storeless.queue = t.storeless.queue from congrArg queue h

theorem records_eq_of_storeless (h : s.storeless = t.storeless) : s.records = t.records :=
  show s.storeless.records = t.storeless.records from congrArg records h

theorem storeless_call (h : s.storeless = t.storeless) (c : Call) :
    (s.call now c).storeless = (t.call now c).storeless := by
  have hStep := Call.step?_congr (storeless_isView.core_eq h) (storeless_isView.conditions_eq h) c
  cases hTaken : c.step? s with
  | some step =>
    rw [call_of_step hTaken, call_of_step (hStep ▸ hTaken)]
    exact storeless_isView.advance now h step
  | none =>
    cases c with
    | act a =>
      cases a with
      | enqueue e => exact congrArg (enqueue e) h
      | emit e =>
        show (s.emit e).storeless = (t.emit e).storeless
        unfold emit
        rw [gateway_eq_of_storeless h]
        split
        · exact congrArg (enqueue e) h
        · exact h
      | pump =>
        show (handleAll now { s with queue := [] } s.queue).storeless =
          (handleAll now { t with queue := [] } t.queue).storeless
        rw [queue_eq_of_storeless h]
        exact storeless_isView.handleAll now t.queue (congrArg (fun s => { s with queue := [] }) h)
      | answer policy running =>
        exact congrArg (fun s => { s with gateway := { s.gateway with policy, running } }) h
      | look l => exact congrArg (fun s => { s with gateway := l.after s.gateway }) h
      | _ => cases hTaken
    | _ => cases hTaken

/-- The same is done on behalf of a call. -/
theorem deeds_eq_of_storeless (h : s.storeless = t.storeless) (c : Call) :
    c.deeds now s = c.deeds now t := by
  have hEvents : ∀ (es : List ChannelEvent) {s t : Session}, s.storeless = t.storeless →
      deedsOfEvents now s es = deedsOfEvents now t es := by
    intro es
    induction es with
    | nil => exact fun _ => rfl
    | cons e es ih =>
      intro s t h
      rw [deedsOfEvents, deedsOfEvents, storeless_isView.core_eq h,
        ih (storeless_isView.handle now h e)]
  have hStep := Call.step?_congr (storeless_isView.core_eq h) (storeless_isView.conditions_eq h) c
  unfold Call.deeds
  split
  · rw [queue_eq_of_storeless h]
    exact hEvents t.queue (congrArg (fun s => { s with queue := [] }) h)
  · rw [hStep]

theorem storeless_calls (cs : List TimedCall) {s t : Session} (h : s.storeless = t.storeless) :
    (s.calls cs).storeless = (t.calls cs).storeless ∧ s.chronicle cs = t.chronicle cs := by
  induction cs generalizing s t with
  | nil => exact ⟨h, rfl⟩
  | cons c cs ih =>
    obtain ⟨hCalls, hChronicle⟩ := ih (storeless_call c.1 h c.2)
    refine ⟨hCalls, ?_⟩
    rw [chronicle, chronicle, deeds_eq_of_storeless c.1 h, hChronicle]

/-- **What a session keeps.** After any calls the transcript holds the last of the entries appended
since it was emptied, and the activity log the last of all its lines, as many as the limits allow.
With other limits the same calls lead to the same core, events, gateway and journal on behalf of the
same deeds, and each of both stores, cut to the limit of the other session, is what the other one
holds, cut to its own. -/
theorem retention_of_calls (settings : Settings) (role : Role) (gateway : Gateway)
    (cs : List TimedCall) (transcriptLimit activityLimit : Nat) :
    let s₀ := start settings role gateway
    let t₀ := start { settings with transcriptLimit, activityLimit } role gateway
    let s := s₀.calls cs
    let t := t₀.calls cs
    s.transcript.entries =
        lastOf (max settings.transcriptLimit 1) (entriesOf (s₀.chronicle cs)) ∧
      s.activity.entries = lastOf (max settings.activityLimit 1) (linesOf (s₀.chronicle cs)) ∧
      (t.core = s.core ∧ t.queue = s.queue ∧ t.gateway = s.gateway ∧ t.records = s.records ∧
        t₀.chronicle cs = s₀.chronicle cs) ∧
      lastOf (max transcriptLimit 1) s.transcript.entries =
        lastOf (max settings.transcriptLimit 1) t.transcript.entries ∧
      lastOf (max activityLimit 1) s.activity.entries =
        lastOf (max settings.activityLimit 1) t.activity.entries := by
  intro s₀ t₀ s t
  have hKept : Kept settings s (s₀.chronicle cs) := (kept_start settings role gateway).calls cs
  have hOther : Kept { settings with transcriptLimit, activityLimit } t (t₀.chronicle cs) :=
    (kept_start _ role gateway).calls cs
  obtain ⟨hCalls, hChronicle⟩ := storeless_calls cs (s := t₀) (t := s₀) rfl
  refine ⟨hKept.transcript_eq, hKept.activity_eq, ⟨storeless_isView.core_eq hCalls,
    queue_eq_of_storeless hCalls, gateway_eq_of_storeless hCalls, records_eq_of_storeless hCalls,
    hChronicle⟩, ?_, ?_⟩
  · rw [hKept.transcript_eq, hOther.transcript_eq, hChronicle, lastOf_lastOf, lastOf_lastOf,
      Nat.min_comm]
  · rw [hKept.activity_eq, hOther.activity_eq, hChronicle, lastOf_lastOf, lastOf_lastOf,
      Nat.min_comm]

/-- A limit of zero counts as one, and a wipe empties the transcript but not the activity log. -/
example :
    let cs : List TimedCall :=
      [(.zero, .act (.send "x")), (.zero, .message "\x7b\"type\":\"clear_chat\"\x7d"),
        (.zero, .failed "late")]
    let s := (start { transcriptLimit := 0, activityLimit := 2 } .client {}).calls cs
    s.transcript.entries.map Entry.body = ["Channel error: late. Check if the server is running."] ∧
      (entriesOf ((start {} .client {}).chronicle cs)).map Entry.body =
        ["Transcript cleared.", "Channel error: late. Check if the server is running."] ∧
      s.activity.entries.length = 2 := by
  decide +kernel

end Session

end ChatConsole
