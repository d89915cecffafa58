import ChatConsole.Proofs.Gateway.Accounts
import ChatConsole.Proofs.Session.Runs

/-! # Gateways that were looked at

A look empties the pipe of a line into the line, and nothing else: the gateway with all pipes
emptied, `settled`, is the same before and after. Whatever is done at a gateway can as well be done
at the settled one, so how often and when it was looked at makes no difference to any later look.
-/

namespace ChatConsole.Gateway

namespace Line

theorem collect_eq (line : Line) :
    line.collect =
      { request := line.request
        pipe := { line.pipe with waiting := [] }
        sent := line.sent ++ line.pipe.waiting.filterMap Frame.text?
        closed := line.closed || line.pipe.waiting.contains .close || !line.pipe.senderHeld } := by
  rw [← collect_sent, ← collect_closed, ← collect_request line, ← collect_pipe]

@[simp] theorem collect_collect (line : Line) : line.collect.collect = line.collect := by
  rw [collect_eq line.collect, collect_eq line]
  simp

/-- What a pipe does can be done before or after it is emptied. -/
def Passes (f : Pipe → Pipe) : Prop :=
  ∀ line : Line, collect { line.collect with pipe := f line.collect.pipe } =
    collect { line with pipe := f line.pipe }

theorem passes_send (s : String) : Passes fun pipe => (pipe.send s).toOption.getD pipe := by
  intro line
  have hSend : ∀ pipe : Pipe, (pipe.send s).toOption.getD pipe =
      { pipe with waiting := pipe.waiting ++ if pipe.receiverHeld then [.text s] else [] } := by
    intro pipe
    unfold Pipe.send
    split
    · rfl
    · exact congrArg (fun fs => { pipe with waiting := fs }) (List.append_nil _).symm
  simp only [hSend, collect_eq]
  by_cases hReceiver : line.pipe.receiverHeld <;> simp [hReceiver, Frame.text?]

theorem passes_close : Passes Pipe.close := by
  intro line
  simp only [Pipe.close, collect_eq]
  by_cases hReceiver : line.pipe.receiverHeld <;> simp [hReceiver]

theorem passes_drop : Passes Pipe.drop := by
  intro line
  simp [Pipe.drop, collect_eq]

end Line

variable (g : Gateway)

/-- The gateway with all pipes emptied. -/
def settled : Gateway := { g with lines := g.lines.map Line.collect }

theorem accounts_settled : g.settled.accounts = g.accounts := g.accounts_liveCount

theorem settled_onLine_collect (id : ChannelId) :
    (g.onLine id Line.collect).settled = g.settled := by
  show ({ g with lines := (onLine.go id Line.collect g.lines).map Line.collect } : Gateway) = _
  rw [map_go Line.collect Line.collect_collect]
  rfl

theorem settled_settled : g.settled.settled = g.settled := by
  show ({ g with lines := (g.lines.map Line.collect).map Line.collect } : Gateway) = _
  rw [List.map_map]
  congr 1
  exact List.map_congr_left fun line _ => line.collect_collect

theorem settled_after (l : Session.Look) : (l.after g).settled = g.settled := by
  cases l with
  | sent id => exact g.settled_onLine_collect id
  | closed id => exact g.settled_onLine_collect id
  | live => exact g.settled_settled

theorem settled_onPipe {f : Pipe → Pipe} (hf : Line.Passes f) (id : ChannelId) :
    (g.settled.onPipe id f).settled = (g.onPipe id f).settled := by
  have hLines : ∀ ls : List Line,
      (onLine.go id (fun line => { line with pipe := f line.pipe }) (ls.map Line.collect)).map
          Line.collect =
        (onLine.go id (fun line => { line with pipe := f line.pipe }) ls).map Line.collect := by
    intro ls
    induction ls with
    | nil => rfl
    | cons line ls ih =>
      have hCollect : line.collect.request.channel = line.request.channel :=
        congrArg OpenRequest.channel line.collect_request
      rw [List.map_cons, onLine.go, onLine.go]
      by_cases hId : line.request.channel = id
      · rw [if_pos hId, if_pos (hCollect.trans hId), List.map_cons, List.map_cons, List.map_map,
          List.map_congr_left (fun l _ => l.collect_collect)]
        exact congrArg (· :: ls.map Line.collect) (hf line)
      · rw [if_neg hId, if_neg (hCollect ▸ hId), List.map_cons, List.map_cons, ih,
          Line.collect_collect]
  exact congrArg (fun lines => { g with lines }) (hLines g.lines)

/-- An effect does the same to a gateway that was looked at. -/
theorem settled_perform (e : Session.Effect) :
    (g.settled.perform e).settled = (g.perform e).settled := by
  cases e with
  | opened request link =>
    cases link with
    | line =>
      show ({ g with lines := (g.lines.map Line.collect ++ _).map Line.collect } : Gateway) =
        { g with lines := (g.lines ++ _).map Line.collect }
      rw [List.map_append, List.map_append, List.map_map]
      congr 2
      exact List.map_congr_left fun line _ => line.collect_collect
    | deaf => exact g.settled_settled
    | network => exact g.settled_settled
  | sent id text => exact g.settled_onPipe (Line.passes_send text) id
  | closed id => exact g.settled_onPipe Line.passes_close id
  | dropped id => exact g.settled_onPipe Line.passes_drop id
  | _ => exact g.settled_settled

/-! ## What a look finds -/

variable {g} {g' : Gateway}

theorem accounts_eq_of_settled (h : g.settled = g'.settled) : g.accounts = g'.accounts := by
  rw [← accounts_settled, h, accounts_settled]

theorem sent_eq_of_settled (h : g.settled = g'.settled) (id : ChannelId) :
    (g.sent id).1 = (g'.sent id).1 := by
  rw [sent_fst, sent_fst, accounts_eq_of_settled h]

theorem closedByClient_eq_of_settled (h : g.settled = g'.settled) (id : ChannelId) :
    (g.closedByClient id).1 = (g'.closedByClient id).1 := by
  rw [closedByClient_fst, closedByClient_fst, accounts_eq_of_settled h]

theorem liveCount_eq_of_settled (h : g.settled = g'.settled) :
    g.liveCount.1 = g'.liveCount.1 := by
  rw [liveCount_fst, liveCount_fst, accounts_eq_of_settled h]

theorem knows_eq_of_settled (h : g.settled = g'.settled) (id : ChannelId) :
    g.knows id = g'.knows id := by
  rw [Bool.eq_iff_iff, knows_iff, knows_iff, ← map_channel_accounts, ← map_channel_accounts,
    accounts_eq_of_settled h]

end ChatConsole.Gateway
