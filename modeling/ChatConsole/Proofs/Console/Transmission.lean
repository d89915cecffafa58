import ChatConsole.Proofs.Console.Grammar
import ChatConsole.Proofs.Console.Inputs
import ChatConsole.Proofs.Session.Frames
import ChatConsole.Proofs.Text.Trim

/-! # What a console transmits

A line is read as a command of the console or as a text for the gateway, and its blanks are taken
off twice: once when it is read and once more when it is sent. Function keys send texts of their
own. Nothing else asks the session to send, so each frame of a run is a trimmed line that was
entered, or the text of a function key, and never a line that begins with a slash.
-/

namespace ChatConsole

/-! ## Function keys -/

namespace QuickCommand

theorem key_of_ofKey? {n : Nat} {quick : QuickCommand} (h : ofKey? n = some quick) :
    quick.key = n := by
  have hKey := List.find?_some h
  simpa using hKey

/-- The texts of the function keys are fit to be sent as they are. -/
theorem trim_command (quick : QuickCommand) : Text.trim quick.command = quick.command := by
  cases quick <;> rfl

theorem head?_command (quick : QuickCommand) : quick.command.toList.head? ≠ some '/' := by
  cases quick <;> simp [command]

end QuickCommand

namespace Console

/-! ## What an act transmits -/

/-- A line is entered: with the key, or as a command that was read from it. -/
inductive Enters (c : Console) : Act → String → Prop
  | key : Enters c (.press .enter) c.input
  | command (line : String) : Enters c (.command (Command.parse line)) line

/-- The texts that an act may transmit. -/
inductive Transmits (c : Console) : Act → String → Prop
  | line {a : Act} {line : String} (enters : Enters c a line) : Transmits c a (Text.trim line)
  | quick (quick : QuickCommand) : Transmits c (.press (.function quick.key)) quick.command

/-- An act that goes through the console: commands are read from lines, and the session is neither
replaced nor asked to send. -/
def Act.IsOutside : Act → Prop
  | .command asked => ∃ line, asked = Command.parse line
  | .session (.send _) => False
  | .replace _ => False
  | _ => True

variable {now : Time.Instant} {c : Console} {a : Act} {text : String}

theorem Act.IsOutside.ne_replace (ha : a.IsOutside) (s : Session) : a ≠ .replace s := by
  rintro rfl
  exact ha

theorem not_send_wordActs {word : String} {go : Role → Session.Act}
    (hGo : ∀ role, go role ≠ .send text) : .send text ∉ wordActs word go := by
  unfold wordActs
  cases Role.parse word with
  | ok role => simpa using (hGo role).symm
  | error e => simp

theorem eq_send_of_mem_commandActs {command : Command}
    (h : .send text ∈ commandActs now command) : command = .send text := by
  cases command with
  | send t =>
    obtain rfl := Session.Act.send.inj (List.mem_singleton.mp h)
    rfl
  | connect word =>
    cases word with
    | none => simp [commandActs] at h
    | some word => exact absurd h (not_send_wordActs (by simp))
  | role word => exact absurd h (not_send_wordActs (by simp))
  | _ => simp [commandActs] at h

/-- Who asks the session to send, and what. -/
theorem transmits_of_send (ha : a.IsOutside) (h : .send text ∈ a.sessionActs now c) :
    Transmits c a text ∧ text.toList.head? ≠ some '/' := by
  have hLine : ∀ {line}, Enters c a line → .send text ∈ commandActs now (Command.parse line) →
      Transmits c a text ∧ text.toList.head? ≠ some '/' := by
    intro line hEnters hMem
    have hSend : Command.parse line = .send text := eq_send_of_mem_commandActs hMem
    obtain ⟨rfl, -, hSlash⟩ := Command.parse_eq_send_iff.mp hSend
    exact ⟨.line hEnters, hSlash⟩
  cases a with
  | press key =>
    cases key with
    | enter => exact hLine .key h
    | function n =>
      obtain ⟨quick, hQuick, hSend⟩ := List.mem_map.mp h
      obtain rfl := QuickCommand.key_of_ofKey? (Option.mem_toList.mp hQuick)
      obtain rfl := Session.Act.send.inj hSend
      exact ⟨.quick quick, quick.head?_command⟩
    | _ => cases h
  | command asked =>
    obtain ⟨line, rfl⟩ := ha
    exact hLine (.command line) h
  | session b =>
    obtain rfl := List.mem_singleton.mp h
    cases ha
  | replace s => cases ha
  | tick => simp [Act.sessionActs] at h
  | log line => simp [Act.sessionActs] at h
  | _ => cases h

/-- What is transmitted has no blanks around it. -/
theorem Transmits.trim_eq (h : Transmits c a text) : Text.trim text = text := by
  cases h with
  | line hEnters => exact Text.trim_trim _
  | quick quick => exact quick.trim_command

/-! ## Whole runs -/

/-- The frames of a run of a console. -/
def frames (c : Console) (acts : List Timed) : List Session.Sent :=
  c.session.frames (c.sessionRun acts)

/-- A line that begins with a slash is no text for the gateway. -/
theorem not_send_of_slash {line : String} (hEnters : Enters c a line)
    (hSlash : (Text.trim line).toList.head? = some '/') :
    ∀ b ∈ timed now (a.sessionActs now c), ∀ text, b.2 ≠ .send text := by
  intro b hb text hSend
  obtain ⟨asked, hAsked, rfl⟩ := List.mem_map.mp hb
  obtain rfl : asked = .send text := hSend
  have hCommand : .send text ∈ commandActs now (Command.parse line) := by
    cases hEnters <;> exact hAsked
  have hParse : Command.parse line = .send text := eq_send_of_mem_commandActs hCommand
  exact (Command.parse_eq_send_iff.mp hParse).2.2 hSlash

theorem frames_of_slash {line : String} (hEnters : Enters c a line)
    (hSlash : (Text.trim line).toList.head? = some '/') : c.frames [(now, a)] = [] := by
  refine List.eq_nil_iff_forall_not_mem.mpr ?_
  rintro ⟨id, t⟩ hMem
  obtain ⟨b, hb, raw, hRaw, -⟩ := Session.exists_send_of_mem_frames hMem
  rw [sessionRun, sessionRun, List.append_nil] at hb
  exact not_send_of_slash hEnters hSlash b hb raw hRaw

/-- What the gateway finds does not change when such a line is entered. -/
theorem sent_of_slash {line : String} (hEnters : Enters c a line)
    (hSlash : (Text.trim line).toList.head? = some '/') (id : ChannelId) :
    ((c.act now a).session.gateway.sent id).1 = (c.session.gateway.sent id).1 := by
  have hReplace : ∀ s, a ≠ .replace s := by
    cases hEnters <;> simp
  rw [session_act now c hReplace]
  exact Session.sent_run (not_send_of_slash hEnters hSlash) c.session id

/-- **What a console transmits.** In every run from the start, whatever keys are pressed, lines
carried out and events taken in, each frame is a text that is not empty, has no blanks around it and
does not begin with a slash, and it stems from an act that entered it as a line or from its function
key; and the gateway finds nothing but frames. Of any console at all, a line that begins with a
slash transmits nothing and leaves what the gateway finds on every channel as it was, and a key
other than enter and the function keys of the quick commands leaves the session as it was. -/
theorem transmission_of_run (settings : Session.Settings) (role : Role) (policy : Policy)
    (running : Bool) (acts : List Timed) (hActs : ∀ a ∈ acts, a.2.IsOutside) :
    let c₀ := start settings role { policy, running }
    (∀ id text, (id, text) ∈ c₀.frames acts →
        text ≠ "" ∧ Text.IsTrimmed text.toList ∧ text.toList.head? ≠ some '/' ∧
        ∃ before now a after, acts = before ++ (now, a) :: after ∧
          Transmits (c₀.run before) a text) ∧
      (∀ id, ∀ text ∈ ((c₀.run acts).session.gateway.sent id).1, (id, text) ∈ c₀.frames acts) ∧
      (∀ (c : Console) now a line, Enters c a line → (Text.trim line).toList.head? = some '/' →
        c.frames [(now, a)] = [] ∧
          ∀ id, ((c.act now a).session.gateway.sent id).1 = (c.session.gateway.sent id).1) ∧
      ∀ (c : Console) now key, key ≠ .enter → (∀ quick : QuickCommand, key ≠ .function quick.key) →
        (c.press now key).session = c.session := by
  intro c₀
  refine ⟨?_, ?_, fun c now a line hEnters hSlash =>
    ⟨frames_of_slash hEnters hSlash, sent_of_slash hEnters hSlash⟩, ?_⟩
  · intro id text hFrame
    obtain ⟨b, hb, raw, hSend, hText, hNonempty⟩ := Session.exists_send_of_mem_frames hFrame
    obtain ⟨before, now, a, after, hSplit, hAsked⟩ := exists_act_of_mem_sessionRun hb
    have ha : a.IsOutside := hActs (now, a) (hSplit ▸ List.mem_append_right _ List.mem_cons_self)
    rw [hSend] at hAsked
    obtain ⟨hTransmits, hSlash⟩ := transmits_of_send ha hAsked
    -- what was taken off when the line was read is not there to be taken off again
    obtain rfl : text = raw := hText.trans hTransmits.trim_eq
    refine ⟨hNonempty, ?_, hSlash, before, now, a, after, hSplit, hTransmits⟩
    rw [hText, Text.toList_trim]
    exact Text.isTrimmed_trimChars _
  · intro id text hText
    have hRun : (c₀.run acts).session = c₀.session.run (c₀.sessionRun acts) :=
      session_run (fun a ha s => (hActs a ha).ne_replace s) c₀
    rw [hRun] at hText
    rcases Session.mem_frames_of_mem_sent c₀.session (c₀.sessionRun acts) hText with hOld | hFrame
    · cases hOld
    · exact hFrame
  · intro c now key hEnter hQuick
    refine session_press_of_idle now c hEnter fun n hKey => ?_
    cases hFound : QuickCommand.ofKey? n with
    | none => rfl
    | some quick => exact absurd (QuickCommand.key_of_ofKey? hFound ▸ hKey) (hQuick quick)

/-- A line that was typed with blanks around it and a function key get through, and a command does
not. -/
theorem transmission_of_run_typed :
    let acts : List Timed :=
      [(.zero, .command (Command.parse "/connect")), (.zero, .session (.emit (.opened ⟨1⟩))),
        (.zero, .tick), (.zero, .press (.char ' ')), (.zero, .press (.char 'h')),
        (.zero, .press (.char 'i')), (.zero, .press (.char '\n')), (.zero, .press .enter),
        (.zero, .press (.function 2)), (.zero, .command (Command.parse " /help")),
        (.zero, .press .home)]
    let c₀ := start { endpoint := "ws://[::1]" } .client { policy := .accept, running := true }
    (∀ a ∈ acts, a.2.IsOutside) ∧
      ((c₀.run acts).session.gateway.sent ⟨1⟩).1 = ["hi", "status"] ∧
      c₀.frames acts = [(⟨1⟩, "hi"), (⟨1⟩, "status")] ∧
      ∃ before now a after, acts = before ++ (now, a) :: after ∧
        Transmits (c₀.run before) a "hi" := by
  intro acts c₀
  have hActs : ∀ a ∈ acts, a.2.IsOutside := by simp [acts, Act.IsOutside]
  obtain ⟨hFrames, -⟩ :=
    transmission_of_run { endpoint := "ws://[::1]" } .client .accept true acts hActs
  have hSent : c₀.frames acts = [(⟨1⟩, "hi"), (⟨1⟩, "status")] := by decide +kernel
  have hMem : (⟨1⟩, "hi") ∈ c₀.frames acts := by
    rw [hSent]
    exact List.mem_cons_self
  obtain ⟨-, -, -, hSource⟩ := hFrames ⟨1⟩ "hi" hMem
  exact ⟨hActs, by decide +kernel, hSent, hSource⟩

end Console

end ChatConsole
