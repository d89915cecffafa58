import ChatConsole.Gateway

/-! # The accounts of a gateway

What a gateway tells about a line does not depend on when it looked before. The account of a line
holds what a look would find now: the texts sent on the channel, still in the pipe or not, and
whether the session holds its end. Looks leave all accounts as they are (`accounts_collect`), and
the answers of a gateway can be read off its accounts, so the frames in the pipes need not be
spoken of again.
-/

namespace ChatConsole

/-- The text of a frame, if it has one. -/
def Frame.text? : Frame → Option String
  | .text s => some s
  | .close => none

namespace Gateway

/-- What is known of one channel. -/
structure Account where
  channel : ChannelId
  /-- The texts that were sent on it, oldest first. -/
  texts : List String
  /-- Whether the session still holds it. -/
  live : Bool
  deriving DecidableEq

namespace Line

variable (line : Line)

theorem foldl_take_sent (fs : List Frame) :
    (fs.foldl take line).sent = line.sent ++ fs.filterMap Frame.text? := by
  induction fs generalizing line with
  | nil => simp
  | cons f fs ih =>
    rw [List.foldl_cons, ih]
    cases f <;> simp [take, Frame.text?, List.filterMap_cons]

theorem foldl_take_closed (fs : List Frame) :
    (fs.foldl take line).closed = (line.closed || fs.contains .close) := by
  induction fs generalizing line with
  | nil => simp
  | cons f fs ih =>
    rw [List.foldl_cons, ih]
    cases f <;> simp [take]

theorem foldl_take_request (fs : List Frame) : (fs.foldl take line).request = line.request := by
  induction fs generalizing line with
  | nil => rfl
  | cons f fs ih =>
    rw [List.foldl_cons, ih]
    cases f <;> rfl

@[simp] theorem collect_request : line.collect.request = line.request :=
  foldl_take_request line line.pipe.waiting

theorem collect_sent :
    line.collect.sent = line.sent ++ line.pipe.waiting.filterMap Frame.text? :=
  foldl_take_sent line line.pipe.waiting

theorem collect_closed :
    line.collect.closed =
      (line.closed || line.pipe.waiting.contains .close || !line.pipe.senderHeld) := by
  show ((line.pipe.waiting.foldl take line).closed || !line.pipe.senderHeld) = _
  rw [foldl_take_closed]

theorem collect_pipe : line.collect.pipe = { line.pipe with waiting := [] } := rfl

/-- What a look at the line finds. -/
def account : Account := ⟨line.request.channel, line.collect.sent, !line.collect.closed⟩

@[simp] theorem account_collect : line.collect.account = line.account := by
  unfold account
  rw [collect_request, collect_sent line.collect, collect_closed line.collect, collect_pipe,
    collect_closed line]
  simp

/-- A pipe whose receiving end is held takes a text. -/
theorem account_send (hReceiver : line.pipe.receiverHeld) (s : String) :
    account { line with pipe := (line.pipe.send s).toOption.getD line.pipe } =
      { line.account with texts := line.account.texts ++ [s] } := by
  have hSend : (line.pipe.send s).toOption.getD line.pipe =
      { line.pipe with waiting := line.pipe.waiting ++ [.text s] } := by
    unfold Pipe.send
    rw [if_pos hReceiver]
    rfl
  rw [hSend]
  simp [account, collect_sent, collect_closed, Frame.text?]

theorem account_close :
    account { line with pipe := line.pipe.close } = { line.account with live := false } := by
  simp only [account, collect_sent, collect_closed, Pipe.close]
  by_cases hReceiver : line.pipe.receiverHeld <;> simp [hReceiver, Frame.text?]

theorem account_drop :
    account { line with pipe := line.pipe.drop } = { line.account with live := false } := by
  simp [account, collect_sent, collect_closed, Pipe.drop]

end Line

variable (g : Gateway)

/-- The accounts of all lines, oldest first. -/
def accounts : List Account := g.lines.map Line.account

/-- The channels of the lines, oldest first. -/
def channels : List ChannelId := g.lines.map (·.request.channel)

theorem map_channel_accounts : g.accounts.map Account.channel = g.channels := List.map_map

theorem find?_accounts (id : ChannelId) :
    g.accounts.find? (·.channel == id) = (g.line? id).map Line.account := List.find?_map

/-! ## Changes of one line -/

theorem map_go {β : Type} (F : Line → β) {f : Line → Line} (hF : ∀ line, F (f line) = F line)
    (id : ChannelId) (ls : List Line) : (onLine.go id f ls).map F = ls.map F := by
  induction ls with
  | nil => rfl
  | cons line ls ih =>
    rw [onLine.go]
    split
    · rw [List.map_cons, List.map_cons, hF]
    · rw [List.map_cons, List.map_cons, ih]

theorem mem_go {f : Line → Line} {id : ChannelId} {line : Line} {ls : List Line}
    (h : line ∈ onLine.go id f ls) : ∃ l ∈ ls, line = l ∨ line = f l := by
  induction ls with
  | nil => cases h
  | cons l ls ih =>
    rw [onLine.go] at h
    split at h
    · rcases List.mem_cons.mp h with rfl | h
      · exact ⟨l, List.mem_cons_self, Or.inr rfl⟩
      · exact ⟨line, List.mem_cons_of_mem _ h, Or.inl rfl⟩
    · rcases List.mem_cons.mp h with rfl | h
      · exact ⟨line, List.mem_cons_self, Or.inl rfl⟩
      · obtain ⟨l', hl', hLine⟩ := ih h
        exact ⟨l', List.mem_cons_of_mem _ hl', hLine⟩

/-- With one line to a channel, the first line of the channel is the only one. -/
theorem go_eq_map {f : Line → Line} {id : ChannelId} (ls : List Line)
    (hDistinct : (ls.map (·.request.channel)).Nodup) :
    onLine.go id f ls = ls.map fun line => if line.request.channel = id then f line else line := by
  induction ls with
  | nil => rfl
  | cons line ls ih =>
    rw [List.map_cons, List.nodup_cons] at hDistinct
    rw [onLine.go, List.map_cons]
    split
    · next hId =>
      congr 1
      have hOthers : ∀ l ∈ ls, (if l.request.channel = id then f l else l) = l := by
        intro l hl
        refine if_neg fun hSame => hDistinct.1 ?_
        rw [hId, ← hSame]
        exact List.mem_map_of_mem hl
      rw [List.map_congr_left hOthers, List.map_id']
    · rw [ih hDistinct.2]

theorem line?_onLine {f : Line → Line} (hf : ∀ line, (f line).request = line.request)
    (id : ChannelId) : (g.onLine id f).line? id = (g.line? id).map f := by
  unfold line? onLine
  induction g.lines with
  | nil => rfl
  | cons line ls ih =>
    rw [onLine.go]
    by_cases hId : line.request.channel = id
    · simp [hId, hf]
    · simpa [hId] using ih

theorem accounts_onLine {f : Line → Line} {F : Account → Account} {id : ChannelId}
    (hDistinct : g.channels.Nodup) (hf : ∀ line ∈ g.lines, (f line).account = F line.account) :
    (g.onLine id f).accounts = g.accounts.map fun a => if a.channel = id then F a else a := by
  show (onLine.go id f g.lines).map Line.account = _
  rw [go_eq_map g.lines hDistinct, accounts, List.map_map, List.map_map]
  refine List.map_congr_left fun line hLine => ?_
  by_cases hId : line.account.channel = id
  · rw [Function.comp_apply, Function.comp_apply, if_pos hId]
    exact (congrArg Line.account (if_pos hId)).trans (hf line hLine)
  · rw [Function.comp_apply, Function.comp_apply, if_neg hId]
    exact congrArg Line.account (if_neg hId)

/-! ## Looks -/

theorem accounts_liveCount : g.liveCount.2.accounts = g.accounts := by
  show (g.lines.map Line.collect).map Line.account = _
  rw [List.map_map]
  exact List.map_congr_left fun line _ => line.account_collect

theorem sent_fst (id : ChannelId) :
    (g.sent id).1 = ((g.accounts.find? (·.channel == id)).map Account.texts).getD [] := by
  show (((g.onLine id Line.collect).line? id).map Line.sent).getD [] = _
  rw [line?_onLine g Line.collect_request, find?_accounts, Option.map_map, Option.map_map]
  rfl

theorem closedByClient_fst (id : ChannelId) :
    (g.closedByClient id).1 = (g.accounts.find? (·.channel == id)).any (!·.live) := by
  show ((g.onLine id Line.collect).line? id).any Line.closed = _
  rw [line?_onLine g Line.collect_request, find?_accounts]
  cases g.line? id with
  | none => rfl
  | some line => exact (Bool.not_not _).symm

theorem liveCount_fst : g.liveCount.1 = (g.accounts.filter (·.live)).length := by
  show ((g.lines.map Line.collect).filter (!·.closed)).length = _
  rw [accounts, List.filter_map, List.filter_map, List.length_map, List.length_map]
  rfl

theorem knows_iff (id : ChannelId) : g.knows id ↔ id ∈ g.channels := by
  unfold knows line? channels
  rw [List.find?_isSome]
  simp

/-! ## What a session does -/

theorem accounts_accept (request : OpenRequest) :
    (g.accept request .line).accounts = g.accounts ++ [⟨request.channel, [], true⟩] := by
  show (g.lines ++ [Line.ofRequest request]).map Line.account = _
  rw [List.map_append]
  rfl

theorem channels_accept (request : OpenRequest) :
    (g.accept request .line).channels = g.channels ++ [request.channel] := List.map_append

/-- All that is sent to the gateway can be received. -/
def Listening : Prop := ∀ line ∈ g.lines, line.pipe.receiverHeld

variable {g}

theorem Listening.onLine (h : g.Listening) {f : Line → Line}
    (hf : ∀ line, (f line).pipe.receiverHeld = line.pipe.receiverHeld) (id : ChannelId) :
    (g.onLine id f).Listening := by
  intro line hLine
  obtain ⟨l, hl, rfl | rfl⟩ := mem_go hLine
  · exact h _ hl
  · rw [hf]
    exact h _ hl

theorem Listening.deliver (h : g.Listening) (id : ChannelId) (s : String) :
    (g.deliver id s).Listening := by
  refine h.onLine (f := fun line => { line with pipe := _ }) (fun line => ?_) id
  show ((line.pipe.send s).toOption.getD line.pipe).receiverHeld = line.pipe.receiverHeld
  unfold Pipe.send
  split <;> rfl

theorem Listening.close (h : g.Listening) (id : ChannelId) : (g.close id).Listening :=
  h.onLine (f := fun line => { line with pipe := line.pipe.close }) (fun _ => rfl) id

theorem Listening.drop (h : g.Listening) (id : ChannelId) : (g.drop id).Listening :=
  h.onLine (f := fun line => { line with pipe := line.pipe.drop }) (fun _ => rfl) id

theorem Listening.accept (h : g.Listening) (request : OpenRequest) :
    (g.accept request .line).Listening := by
  intro line hLine
  rcases List.mem_append.mp hLine with hOld | hNew
  · exact h line hOld
  · rw [List.mem_singleton.mp hNew]
    rfl

theorem Listening.map (h : g.Listening) {f : Line → Line}
    (hf : ∀ line, (f line).pipe.receiverHeld = line.pipe.receiverHeld) :
    Listening { g with lines := g.lines.map f } := by
  intro line hLine
  obtain ⟨l, hl, rfl⟩ := List.mem_map.mp hLine
  rw [hf]
  exact h l hl

theorem accounts_deliver (hListening : g.Listening) (hDistinct : g.channels.Nodup)
    (id : ChannelId) (s : String) :
    (g.deliver id s).accounts =
      g.accounts.map fun a => if a.channel = id then { a with texts := a.texts ++ [s] } else a :=
  accounts_onLine g hDistinct fun line hLine => line.account_send (hListening line hLine) s

theorem accounts_close (hDistinct : g.channels.Nodup) (id : ChannelId) :
    (g.close id).accounts =
      g.accounts.map fun a => if a.channel = id then { a with live := false } else a :=
  accounts_onLine g hDistinct fun line _ => line.account_close

theorem accounts_drop (hDistinct : g.channels.Nodup) (id : ChannelId) :
    (g.drop id).accounts =
      g.accounts.map fun a => if a.channel = id then { a with live := false } else a :=
  accounts_onLine g hDistinct fun line _ => line.account_drop

end Gateway

end ChatConsole
