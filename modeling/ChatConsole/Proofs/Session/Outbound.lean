import ChatConsole.Proofs.Session.Looks
import ChatConsole.Proofs.Session.Openings
import ChatConsole.Proofs.Session.Ownership

/-! # What goes out

`outgoing` reads off the moments of a run what should have gone out on a channel: the texts of the
calls to send that were made after the session found the channel open, while it was still the
session's channel. It knows nothing of phases, pipes or lines. `Ledger` ties it to what the gateway
finds on its lines, and each moment of a run keeps it: a session is connected just when its channel
was found open, so that a call to send gets through just when `outgoing` counts it.
-/

namespace ChatConsole

namespace Gateway

variable (g : Gateway)

theorem sent_eq (id : ChannelId) :
    (g.sent id).1 = ((g.line? id).map fun line => line.account.texts).getD [] := by
  rw [sent_fst, find?_accounts, Option.map_map]
  rfl

theorem line?_onPipe (id : ChannelId) (f : Pipe → Pipe) :
    (g.onPipe id f).line? id =
      (g.line? id).map fun line => { line with pipe := f line.pipe } :=
  line?_onLine g (f := fun line => { line with pipe := f line.pipe }) (fun _ => rfl) id

theorem line?_onPipe_of_ne {id k : ChannelId} (hne : k ≠ id) (f : Pipe → Pipe) :
    (g.onPipe k f).line? id = g.line? id := by
  unfold line? onPipe onLine
  induction g.lines with
  | nil => rfl
  | cons line ls ih =>
    rw [onLine.go]
    by_cases hk : line.request.channel = k
    · simp [hk, hne]
    · rw [if_neg hk, List.find?_cons, List.find?_cons, ih]

/-- What adds no text to the account of a line adds none to what went out. -/
theorem sent_onPipe {f : Pipe → Pipe} (k id : ChannelId)
    (hf : ∀ line : Line,
      (Line.account { line with pipe := f line.pipe }).texts = line.account.texts) :
    ((g.onPipe k f).sent id).1 = (g.sent id).1 := by
  rw [sent_eq, sent_eq]
  by_cases hk : k = id
  · rw [hk, line?_onPipe, Option.map_map]
    congr 2
    exact funext hf
  · rw [line?_onPipe_of_ne g hk]

theorem sent_accept (request : OpenRequest) (link : Link) (id : ChannelId) :
    ((g.accept request link).sent id).1 = (g.sent id).1 := by
  cases link with
  | line =>
    have hLine : (g.accept request .line).line? id =
        (g.line? id).or ([Line.ofRequest request].find? (·.request.channel == id)) :=
      List.find?_append
    rw [sent_eq, sent_eq, hLine]
    cases g.line? id with
    | some line => rfl
    | none =>
      rw [Option.none_or, List.find?_singleton]
      split <;> rfl
  | deaf => rfl
  | network => rfl

/-- A text goes out on the line of its channel. -/
theorem sent_deliver (h : g.Listening) {k : ChannelId} (hk : k ∈ g.channels) (text : String)
    (id : ChannelId) :
    ((g.deliver k text).sent id).1 = (g.sent id).1 ++ if k = id then [text] else [] := by
  rw [sent_eq, sent_eq, deliver]
  by_cases hId : k = id
  · subst hId
    obtain ⟨line, hLine⟩ := Option.isSome_iff_exists.mp ((g.knows_iff k).mpr hk)
    rw [line?_onPipe, hLine, if_pos rfl, Option.map_some, Option.map_some]
    have hListening := h line (List.mem_of_find?_eq_some hLine)
    exact congrArg Account.texts (line.account_send hListening text)
  · rw [line?_onPipe_of_ne g hId, if_neg hId, List.append_nil]

/-- Ends send nothing. -/
theorem sent_ends {es : List Session.Effect} (h : ∀ e ∈ es, e.isEnd) (g : Gateway)
    (id : ChannelId) : ((es.foldl perform g).sent id).1 = (g.sent id).1 := by
  induction es generalizing g with
  | nil => rfl
  | cons e es ih =>
    rw [List.foldl_cons, ih fun e' he' => h e' (List.mem_cons_of_mem _ he')]
    cases e with
    | closed k => exact g.sent_onPipe k id fun line => by rw [line.account_close]
    | dropped k => exact g.sent_onPipe k id fun line => by rw [line.account_drop]
    | _ => cases h _ List.mem_cons_self

end Gateway

namespace Session

/-! ## What should go out -/

namespace Moment

variable (id : ChannelId) (m : Moment)

/-- The text of a call to send made while the channel is the session's, unless it is blank. -/
def text? : Option String :=
  match m.act with
  | .send text =>
    if m.session.core.activeId? = some id ∧ Text.trim text ≠ "" then some (Text.trim text) else none
  | _ => none

theorem text?_of_opens {id : ChannelId} {m : Moment} (h : m.opens id) : m.text? id = none := by
  unfold text?
  rw [(of_decide_eq_true h).1]

theorem text?_of_not_send (h : ∀ text, m.act ≠ .send text) : m.text? id = none := by
  unfold text?
  split
  · next text hSend => exact absurd hSend (h text)
  · rfl

end Moment

/-- What should have gone out on a channel. -/
def outgoing (id : ChannelId) (ms : List Moment) : List String :=
  (ms.dropWhile (!·.opens id)).filterMap (·.text? id)

theorem outgoing_snoc (id : ChannelId) (ms : List Moment) (m : Moment) :
    outgoing id (ms ++ [m]) =
      outgoing id ms ++ if opened id ms then (m.text? id).toList else [] :=
  filterMap_since_opened_snoc (fun _ => Moment.text?_of_opens) ms m

/-! ## The ledger of a run -/

/-- How a session and its gateway stand to the moments that led to them. -/
structure Ledger (s : Session) (ms : List Moment) : Prop where
  recorded : s.Recorded
  past : ∀ id, opened id ms → id.number < s.core.nextId.number
  connected_iff : s.core.isConnected ↔ ∃ id, s.core.activeId? = some id ∧ opened id ms
  sent : ∀ id, (s.gateway.sent id).1 = outgoing id ms

theorem ledger_start (settings : Settings) (role : Role) {policy : Policy}
    (hPolicy : policy.isRecording) : Ledger (start settings role { policy }) [] where
  recorded := recorded_start settings role hPolicy
  past := (traced_start settings role _).past
  connected_iff := (traced_start settings role _).connected_iff
  sent := fun _ => rfl

/-- Making room for a channel sends nothing. -/
theorem sent_vacate (now : Time.Instant) (s : Session) (id : ChannelId) :
    ((s.vacate now).gateway.sent id).1 = (s.gateway.sent id).1 := by
  rw [vacate, advance_gateway_orders, Core.orders_vacate,
    Gateway.sent_ends s.core.isEnd_of_mem_ending]

/-- An attempt to open a channel sends nothing. -/
theorem sent_openNext (now : Time.Instant) (role : Role) (s : Session) (id : ChannelId) :
    ((s.openNext now role).gateway.sent id).1 = (s.gateway.sent id).1 := by
  rw [openNext, advance_gateway_orders]
  cases hMake : OpenRequest.make s.core.nextId s.conditions.endpoint role with
  | error e =>
    rw [Core.openNext_of_rejected hMake]
    rfl
  | ok request =>
    cases hAnswer : s.conditions.answer request with
    | ok link =>
      rw [Core.openNext_of_accepted hMake hAnswer]
      cases link with
      | line => exact s.gateway.sent_accept request .line id
      | _ => rfl
    | error e =>
      rw [Core.openNext_of_refused hMake hAnswer]
      rfl

/-- Nothing but a call to send makes a text go out. -/
theorem sent_act (now : Time.Instant) {s : Session} {a : Act} (hPump : a ≠ .pump)
    (hSend : ∀ text, a ≠ .send text) (id : ChannelId) :
    ((s.act now a).gateway.sent id).1 = (s.gateway.sent id).1 := by
  cases hOpens : a.opens? s with
  | some role => rw [act_of_opens hOpens, sent_openNext, sent_vacate]
  | none =>
    rcases act_gateway now hPump hOpens with
      ⟨policy, running, rfl⟩ | ⟨l, rfl⟩ | ⟨text, rfl⟩ | ⟨es, hEnds, hGateway⟩
    · rfl
    · exact Gateway.sent_eq_of_settled (s.gateway.settled_after l) id
    · exact absurd rfl (hSend text)
    · rw [hGateway, Gateway.sent_ends hEnds]

/-- What goes out does not change in a run without a call to send. -/
theorem sent_run {acts : List Timed} (hSend : ∀ a ∈ acts, ∀ text, a.2 ≠ .send text)
    (s : Session) (id : ChannelId) :
    ((s.run acts).gateway.sent id).1 = (s.gateway.sent id).1 :=
  run_keeps (P := fun t => (t.gateway.sent id).1 = (s.gateway.sent id).1)
    (A := fun a => ∀ text, a ≠ .send text) (by simp) (fun _ _ ht => ht)
    (fun now _ _ hPump ha ht => (sent_act now hPump ha id).trans ht) acts hSend s rfl

namespace Ledger

variable {s : Session} {ms : List Moment}

theorem traced (h : Ledger s ms) : Traced s ms :=
  ⟨h.recorded.lifecycle, h.past, h.connected_iff⟩

theorem queue (h : Ledger s ms) (queue : List ChannelEvent) : Ledger { s with queue } ms :=
  ⟨⟨h.recorded.recording, h.recorded.lifecycle, h.recorded.owns⟩, h.past, h.connected_iff, h.sent⟩

/-- A connected session holds a channel of the gateway's that was found open. -/
theorem of_connected (h : Ledger s ms) (hConnected : s.core.isConnected) :
    ∃ held, s.core.channel = some held ∧ held.link = .line ∧ held.id ∈ s.gateway.channels ∧
      opened held.id ms := by
  obtain ⟨held, hHeld⟩ := h.recorded.lifecycle.channel_of_connected hConnected
  obtain ⟨hLink, hMem⟩ := h.recorded.owns.held held hHeld
  obtain ⟨id, hActive, hOpened⟩ := h.connected_iff.mp hConnected
  rw [Core.activeId?, hHeld] at hActive
  obtain rfl := Option.some.inj hActive
  exact ⟨held, hHeld, hLink, hMem, hOpened⟩

/-- A call to send gets through just when the channel was found open and the text is not blank. -/
theorem sending_eq (h : Ledger s ms) (text : String) :
    (¬ s.core.isConnected ∧ s.core.sending s.conditions text = .offline) ∨
      (s.core.isConnected ∧ Text.trim text = "" ∧ s.core.sending s.conditions text = .blank) ∨
      (∃ held, s.core.channel = some held ∧ held.id ∈ s.gateway.channels ∧ opened held.id ms ∧
        Text.trim text ≠ "" ∧
        s.core.sending s.conditions text = .sent held.id (Text.trim text)) := by
  by_cases hConnected : s.core.isConnected
  · by_cases hText : Text.trim text = ""
    · exact Or.inr (Or.inl ⟨hConnected, hText, Core.sending_of_blank _ _ hConnected hText⟩)
    · obtain ⟨held, hHeld, hLink, hMem, hOpened⟩ := h.of_connected hConnected
      have hTakes : s.conditions.takes held.link := by rw [hLink]; rfl
      exact Or.inr (Or.inr ⟨held, hHeld, hMem, hOpened, hText,
        Core.sending_of_held _ _ hConnected hHeld hTakes hText⟩)
  · exact Or.inl ⟨hConnected, Core.sending_of_offline _ _ hConnected text⟩

/-! ### A moment keeps it -/

variable {now : Time.Instant} {a : Act}

theorem sent_send (h : Ledger s ms) (text : String) (id : ChannelId) :
    ((s.act now (.send text)).gateway.sent id).1 =
      outgoing id (ms ++ [⟨s, now, .send text⟩]) := by
  have hGateway : (s.act now (.send text)).gateway =
      (s.core.sending s.conditions text).effects.foldl Gateway.perform s.gateway :=
    advance_gateway now s _
  rw [hGateway, outgoing_snoc, ← h.sent id]
  rcases h.sending_eq text with
    ⟨hNot, hSending⟩ | ⟨-, hText, hSending⟩ | ⟨held, hHeld, hMem, hOpened, hText, hSending⟩
  · -- no channel that was found open is the session's
    have hNone :
        (if opened id ms then (Moment.text? id ⟨s, now, .send text⟩).toList else []) = [] := by
      split
      · next hOpened =>
        have hOther : ¬ (s.core.activeId? = some id ∧ Text.trim text ≠ "") := fun hActive =>
          hNot (h.connected_iff.mpr ⟨id, hActive.1, hOpened⟩)
        simp only [Moment.text?, if_neg hOther, Option.toList_none]
      · rfl
    rw [hSending, hNone, List.append_nil]
    rfl
  · have hNone : Moment.text? id ⟨s, now, .send text⟩ = none := if_neg fun hOut => hOut.2 hText
    rw [hSending, hNone, Option.toList_none, ite_self, List.append_nil]
    rfl
  · rw [hSending]
    show ((s.gateway.deliver held.id (Text.trim text)).sent id).1 = _
    rw [Gateway.sent_deliver s.gateway h.recorded.owns.listening hMem]
    congr 1
    by_cases hId : held.id = id
    · have hActive : s.core.activeId? = some id := by rw [Core.activeId?, hHeld, ← hId]; rfl
      rw [if_pos hId, if_pos (hId ▸ hOpened)]
      simp only [Moment.text?, if_pos (And.intro hActive hText), Option.toList_some]
    · have hOther : s.core.activeId? ≠ some id := by
        rw [Core.activeId?, hHeld]
        exact fun hSame => hId (Option.some.inj hSame)
      have hNone : Moment.text? id ⟨s, now, .send text⟩ = none := if_neg fun hOut => hOther hOut.1
      rw [if_neg hId, hNone, Option.toList_none, ite_self]

theorem sent_act_of_not_send (h : Ledger s ms) (hPump : a ≠ .pump) (hSend : ∀ text, a ≠ .send text)
    (id : ChannelId) :
    ((s.act now a).gateway.sent id).1 = outgoing id (ms ++ [⟨s, now, a⟩]) := by
  rw [outgoing_snoc, Moment.text?_of_not_send id _ hSend, Option.toList_none, ite_self,
    List.append_nil, ← h.sent id, sent_act now hPump hSend]

theorem act (h : Ledger s ms) (hPump : a ≠ .pump) (ha : a.isRecording) :
    Ledger (s.act now a) (ms ++ [⟨s, now, a⟩]) where
  recorded := h.recorded.act now hPump ha
  past := h.traced.past_act
  connected_iff := h.traced.connected_iff_act hPump
  sent := fun id => by
    by_cases hSend : ∃ text, a = .send text
    · obtain ⟨text, rfl⟩ := hSend
      exact h.sent_send text id
    · exact h.sent_act_of_not_send hPump (fun text hText => hSend ⟨text, hText⟩) id

theorem run (h : Ledger s ms) {acts : List Timed} (hActs : ∀ a ∈ acts, a.2.isRecording) :
    Ledger (s.run acts) (ms ++ s.moments acts) :=
  run_keeps_moments (A := fun a => a.isRecording) (fun _ => rfl) (fun _ _ queue h => h.queue queue)
    (fun _ _ _ _ hPump ha h => h.act hPump ha) acts hActs s ms h

end Ledger

/-! ## Calls to send -/

/-- The entry for a text that could not be sent because the session is not connected. -/
def offlineEntry (now : Time.Instant) : Entry :=
  ⟨.error, systemOrigin, "Not connected. Use /connect first.", now⟩

theorem send_of_offline {s : Session} (h : ¬ s.core.isConnected) (now : Time.Instant)
    (text : String) : s.send now text = (false, s.addEntry now (offlineEntry now)) := by
  rw [send, Core.sending_of_offline _ _ h]
  rfl

theorem send_of_blank {s : Session} (h : s.core.isConnected) (now : Time.Instant) {text : String}
    (hText : Text.trim text = "") : s.send now text = (false, s) := by
  rw [send, Core.sending_of_blank _ _ h hText]
  rfl

/-- What a call to send does in a session at the end of these moments. -/
structure Sends (s : Session) (ms : List Moment) (now : Time.Instant) (text : String) : Prop where
  succeeds_iff : (s.send now text).1 = true ↔
    (∃ id, s.core.activeId? = some id ∧ opened id ms) ∧ Text.trim text ≠ ""
  of_success : (s.send now text).1 = true →
    (s.send now text).2.transcript = s.transcript ∧ (s.send now text).2.activity = s.activity
  gateway_of_failure : (s.send now text).1 = false → (s.send now text).2.gateway = s.gateway
  of_offline : ¬ s.isConnected → (s.send now text).1 = false ∧
    (s.send now text).2.transcript = s.transcript.append (offlineEntry now)
  of_blank : s.isConnected → Text.trim text = "" → s.send now text = (false, s)
  of_connected : s.isConnected → Text.trim text ≠ "" → (s.send now text).1 = true

theorem Ledger.sends {s : Session} {ms : List Moment} (h : Ledger s ms) (now : Time.Instant)
    (text : String) : Sends s ms now text := by
  have hOpen : (∃ id, s.core.activeId? = some id ∧ opened id ms) ↔ s.isConnected :=
    h.connected_iff.symm
  rcases h.sending_eq text with
    ⟨hNot, -⟩ | ⟨hConnected, hText, -⟩ | ⟨held, hHeld, -, hOpened, hText, hSending⟩
  · have hSend := send_of_offline hNot now text
    refine ⟨?_, ?_, ?_, ?_, fun hConnected => absurd hConnected hNot,
      fun hConnected => absurd hConnected hNot⟩
    · rw [hSend, hOpen]
      exact iff_of_false Bool.false_ne_true fun hBoth => hNot hBoth.1
    · rw [hSend]
      exact fun hTrue => absurd hTrue Bool.false_ne_true
    · rw [hSend]
      exact fun _ => addEntry_gateway now s _
    · rw [hSend]
      exact fun _ => ⟨rfl, addEntry_transcript now s _⟩
  · have hSend := send_of_blank hConnected now hText
    refine ⟨?_, ?_, ?_, fun hNot => absurd hConnected hNot, fun _ _ => hSend,
      fun _ hOut => absurd hText hOut⟩
    · rw [hSend]
      exact iff_of_false Bool.false_ne_true fun hBoth => hBoth.2 hText
    · rw [hSend]
      exact fun _ => ⟨rfl, rfl⟩
    · rw [hSend]
      exact fun _ => rfl
  · have hActive : s.core.activeId? = some held.id := by rw [Core.activeId?, hHeld]; rfl
    have hConnected : s.isConnected := hOpen.mp ⟨held.id, hActive, hOpened⟩
    have hTrue : (s.send now text).1 = true := by
      rw [send, hSending]
      rfl
    refine ⟨iff_of_true hTrue ⟨⟨held.id, hActive, hOpened⟩, hText⟩, fun _ => ?_, ?_,
      fun hNot => absurd hConnected hNot, fun _ hBlank => absurd hBlank hText, fun _ _ => hTrue⟩
    · rw [send, hSending]
      exact ⟨rfl, rfl⟩
    · rw [hTrue]
      exact fun hFalse => absurd hFalse.symm Bool.false_ne_true

/-- **What goes out in a run.** With a gateway that records, the texts that came in on a channel are
those of the calls to send made after the channel was found open, while it was the session's; a call
at the end of the run gets through, or fails, by the same measure; and looks, however many were made
in between, never change what a look finds. -/
theorem outbound_of_run (settings : Settings) (role : Role) (policy : Policy)
    (hPolicy : policy.isRecording) (acts : List Timed) (hActs : ∀ a ∈ acts, a.2.isRecording) :
    let s₀ := start settings role { policy }
    let s := s₀.run acts
    let unseen := s₀.run (acts.filter fun a => !a.2.isLook)
    (∀ id, (s.gateway.sent id).1 = outgoing id (s₀.moments acts)) ∧
      (∀ now text, Sends s (s₀.moments acts) now text) ∧
      ((∀ id, (s.gateway.sent id).1 = (unseen.gateway.sent id).1) ∧
        (∀ id, (s.gateway.closedByClient id).1 = (unseen.gateway.closedByClient id).1) ∧
        s.gateway.liveCount.1 = unseen.gateway.liveCount.1) := by
  intro s₀ s unseen
  have hLedger : Ledger s (s₀.moments acts) := (ledger_start settings role hPolicy).run hActs
  have hSettled : s.gateway.settled = unseen.gateway.settled :=
    gateway_settled (settled_run acts rfl)
  exact ⟨hLedger.sent, hLedger.sends, Gateway.sent_eq_of_settled hSettled,
    Gateway.closedByClient_eq_of_settled hSettled, Gateway.liveCount_eq_of_settled hSettled⟩

/-- What is sent before the first channel is open, or once it was replaced, goes out nowhere. -/
theorem outbound_of_run_reconnected :
    let s₀ := start { endpoint := "ws://[::1]" } .client { policy := .accept }
    let acts : List Timed :=
      [(.zero, .connectCurrent), (.zero, .send "early"), (.zero, .handle (.opened ⟨1⟩)),
        (.zero, .send " one "), (.zero, .look (.sent ⟨1⟩)), (.zero, .send " "),
        (.zero, .connect .manager), (.zero, .handle (.opened ⟨1⟩)), (.zero, .send "late"),
        (.zero, .enqueue (.opened ⟨2⟩)), (.zero, .pump), (.zero, .send "two")]
    Policy.accept.isRecording ∧ (∀ a ∈ acts, a.2.isRecording) ∧
      ((s₀.run acts).gateway.sent ⟨1⟩).1 = ["one"] ∧
      ((s₀.run acts).gateway.sent ⟨2⟩).1 = ["two"] ∧
      ((s₀.run acts).send .zero "three").1 = true := by
  intro s₀ acts
  have hActs : ∀ a ∈ acts, a.2.isRecording := by decide
  obtain ⟨hSent, hSends, -⟩ :=
    outbound_of_run { endpoint := "ws://[::1]" } .client .accept rfl acts hActs
  refine ⟨rfl, hActs, (hSent ⟨1⟩).trans ?_, (hSent ⟨2⟩).trans ?_, ?_⟩
  · decide +kernel
  · decide +kernel
  · refine (hSends .zero "three").succeeds_iff.mpr ⟨⟨⟨2⟩, ?_, ?_⟩, ?_⟩
    · decide +kernel
    · decide +kernel
    · decide +kernel

end Session

end ChatConsole
