import ChatConsole.Proofs.Gateway.Accounts
import ChatConsole.Proofs.Session.Orders

/-! # The requests of a run

What a gateway keeps of the requests that were put to it: one line for each attempt whose request
it accepted as one, in the order of the attempts. Nothing else in a run adds a line. `MadeBy` puts
together what an act does that attempts to open a channel.
-/

namespace ChatConsole

/-- The request that a step leaves a line for. -/
def Session.Effect.lined? : Session.Effect → Option OpenRequest
  | .opened request .line => some request
  | _ => none

namespace Gateway

variable (g : Gateway)

/-- The requests that have a line, oldest first. -/
def requests : List OpenRequest := g.lines.map Line.request

theorem requests_onLine {f : Line → Line} (hf : ∀ line, (f line).request = line.request)
    (id : ChannelId) : (g.onLine id f).requests = g.requests :=
  map_go Line.request hf id g.lines

theorem requests_onPipe (id : ChannelId) (f : Pipe → Pipe) :
    (g.onPipe id f).requests = g.requests :=
  g.requests_onLine (f := fun line => { line with pipe := f line.pipe }) (fun _ => rfl) id

theorem requests_after (l : Session.Look) : (l.after g).requests = g.requests := by
  cases l with
  | sent id => exact g.requests_onLine Line.collect_request id
  | closed id => exact g.requests_onLine Line.collect_request id
  | live =>
    show (g.lines.map Line.collect).map Line.request = _
    rw [List.map_map]
    exact List.map_congr_left fun line _ => line.collect_request

theorem requests_perform (e : Session.Effect) :
    (g.perform e).requests = g.requests ++ e.lined?.toList := by
  cases e with
  | opened request link =>
    cases link with
    | line => exact List.map_append
    | deaf => exact (List.append_nil _).symm
    | network => exact (List.append_nil _).symm
  | sent id text => exact (g.requests_onPipe id _).trans (List.append_nil _).symm
  | closed id => exact (g.requests_onPipe id _).trans (List.append_nil _).symm
  | dropped id => exact (g.requests_onPipe id _).trans (List.append_nil _).symm
  | _ => exact (List.append_nil _).symm

theorem requests_foldl_perform (es : List Session.Effect) (g : Gateway) :
    (es.foldl perform g).requests = g.requests ++ es.filterMap Session.Effect.lined? := by
  induction es generalizing g with
  | nil => exact (List.append_nil _).symm
  | cons e es ih =>
    rw [List.foldl_cons, ih, requests_perform, List.append_assoc]
    cases hLined : e.lined? with
    | none => rw [List.filterMap_cons_none hLined, Option.toList_none, List.nil_append]
    | some request =>
      rw [List.filterMap_cons_some hLined, Option.toList_some, List.singleton_append]

end Gateway

namespace Session

variable (now : Time.Instant) (s : Session)

/-- The request of an attempt, if the gateway answers it with a line. -/
def Attempt.accepted? (m : Attempt) : Option OpenRequest :=
  match m.request, m.session.gateway.answer with
  | .ok request, .ok .line => some request
  | _, _ => none

theorem requests_ends {es : List Effect} (h : ∀ e ∈ es, e.isEnd) (g : Gateway) :
    (es.foldl Gateway.perform g).requests = g.requests := by
  rw [Gateway.requests_foldl_perform, List.filterMap_eq_nil_iff.mpr, List.append_nil]
  intro e he
  cases e with
  | closed id => rfl
  | dropped id => rfl
  | _ => cases h _ he

theorem requests_vacate : (s.vacate now).gateway.requests = s.gateway.requests := by
  rw [vacate, advance_gateway_orders, Core.orders_vacate, requests_ends s.core.isEnd_of_mem_ending]

theorem requests_openNext (role : Role) :
    (s.openNext now role).gateway.requests =
      s.gateway.requests ++ (Attempt.accepted? ⟨s, role⟩).toList := by
  rw [openNext, advance_gateway_orders, Gateway.requests_foldl_perform]
  congr 1
  unfold Attempt.accepted?
  cases hMake : OpenRequest.make s.core.nextId s.settings.endpoint role with
  | error e =>
    rw [Core.openNext_of_rejected (w := s.conditions) hMake,
      show Attempt.request ⟨s, role⟩ = _ from hMake]
    rfl
  | ok request =>
    rw [show Attempt.request ⟨s, role⟩ = _ from hMake]
    cases hAnswer : s.gateway.answer with
    | error e =>
      rw [Core.openNext_of_refused (w := s.conditions) hMake hAnswer]
      rfl
    | ok link =>
      rw [Core.openNext_of_accepted (w := s.conditions) hMake hAnswer]
      cases link <;> rfl

theorem requests_handle (e : ChannelEvent) :
    (s.handle now e).gateway.requests = s.gateway.requests := by
  rw [handle, advance_gateway_orders, requests_ends (s.core.isEnd_of_mem_orders_onEvent e)]

theorem requests_send (text : String) :
    (s.send now text).2.gateway.requests = s.gateway.requests := by
  show (s.advance now (s.core, (s.core.sending s.conditions text).effects)).gateway.requests = _
  rw [advance_gateway, Gateway.requests_foldl_perform]
  cases s.core.sending s.conditions text <;> exact List.append_nil _

/-- Nothing but an attempt leaves a line. -/
theorem requests_act {now : Time.Instant} {s : Session} {a : Act} (h : a.opens? s = none) :
    (s.act now a).gateway.requests = s.gateway.requests := by
  by_cases hPump : a = .pump
  · rw [hPump, act_pump]
    exact handleAll_keeps (P := fun t => t.gateway.requests = s.gateway.requests) now
      (fun t e ht => (requests_handle now t e).trans ht) s.queue _ rfl
  · rcases act_gateway now hPump h with
      ⟨policy, running, rfl⟩ | ⟨l, rfl⟩ | ⟨text, rfl⟩ | ⟨es, hEnds, hGateway⟩
    · rfl
    · exact s.gateway.requests_after l
    · exact requests_send now s text
    · rw [hGateway, requests_ends hEnds]

/-! ## What becomes of an attempt -/

theorem vacate_answer : (s.vacate now).gateway.answer = s.gateway.answer := by
  unfold Gateway.answer
  rw [vacate, advance_gateway, Gateway.foldl_perform_policy]

variable {now s}

/-- What an act does that attempts to open a channel: the end of the channel that is held is ordered
first, then the request is put to the gateway. The attempt uses up one number, and leaves a line if
the gateway answers its request with one. -/
structure Attempt.MadeBy (m : Attempt) (now : Time.Instant) (s : Session) (a : Act) : Prop where
  room : m.session = s.vacate now
  ended : m.session.gateway = s.core.ending.foldl Gateway.perform s.gateway
  opened : s.act now a = m.session.openNext now m.role
  nextId : (s.act now a).core.nextId = s.core.nextId.next
  requests : (s.act now a).gateway.requests = s.gateway.requests ++ m.accepted?.toList

theorem madeBy_of_opens (now : Time.Instant) {a : Act} {role : Role}
    (h : a.opens? s = some role) : Attempt.MadeBy ⟨s.vacate now, role⟩ now s a where
  room := rfl
  ended := by rw [vacate, advance_gateway_orders, Core.orders_vacate]
  opened := act_of_opens h
  nextId := act_nextId_of_opens now h
  requests := by rw [act_of_opens h, requests_openNext, requests_vacate]

theorem exists_madeBy_of_mem_attempts {m : Attempt} {acts : List Timed}
    (h : m ∈ s.attempts acts) : ∃ before now a after,
      acts = before ++ (now, a) :: after ∧ m.MadeBy now (s.run before) a := by
  obtain ⟨before, now, a, after, hActs, hOpens, hSession⟩ := exists_act_of_mem_attempts h
  have hMade := madeBy_of_opens now hOpens
  rw [← hSession] at hMade
  exact ⟨before, now, a, after, hActs, hMade⟩

/-- A request that is answered with a line is kept. -/
theorem Attempt.MadeBy.requests_of_line {m : Attempt} {a : Act} (h : m.MadeBy now s a)
    {request : OpenRequest} (hRequest : m.request = .ok request)
    (hAnswer : s.gateway.answer = .ok .line) :
    (s.act now a).gateway.requests = s.gateway.requests ++ [request] := by
  have hAccepted : m.accepted? = some request := by
    rw [accepted?, hRequest, h.room, vacate_answer, hAnswer]
  rw [h.requests, hAccepted, Option.toList_some]

/-! ## Whole runs -/

/-- The lines of a gateway are those of the attempts that it accepted. -/
theorem requests_run (acts : List Timed) (s : Session) :
    (s.run acts).gateway.requests =
      s.gateway.requests ++ (s.attempts acts).filterMap Attempt.accepted? := by
  induction acts generalizing s with
  | nil => exact (List.append_nil _).symm
  | cons a acts ih =>
    obtain ⟨now, a⟩ := a
    rw [run_cons, ih, attempts, List.filterMap_append, ← List.append_assoc]
    congr 1
    cases hOpens : a.opens? s with
    | none => exact (requests_act hOpens).trans (List.append_nil _).symm
    | some role =>
      rw [(madeBy_of_opens now hOpens).requests, Option.toList_some, List.map_cons, List.map_nil,
        List.filterMap_cons, List.filterMap_nil]
      cases Attempt.accepted? ⟨s.vacate now, role⟩ <;> rfl

/-- A run without an attempt uses up no number and leaves no line. -/
theorem run_of_no_attempts {acts : List Timed} (h : s.attempts acts = []) :
    (s.run acts).core.nextId = s.core.nextId ∧
      (s.run acts).gateway.requests = s.gateway.requests := by
  have hNumber := (attempts_numbers acts s).2
  have hRequests := requests_run acts s
  rw [h] at hNumber hRequests
  exact ⟨congrArg ChannelId.mk hNumber, hRequests.trans (List.append_nil _)⟩

end Session

end ChatConsole
