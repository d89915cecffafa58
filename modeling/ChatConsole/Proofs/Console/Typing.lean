import ChatConsole.Proofs.Console.Runs

/-! # Lines typed key by key

A text comes into the input line one key at a time, and the key that enters it runs it as a command.
No command reads the input line, and none but the one for help touches the overlay
(`execute_withLine`), so entering a text does what its command does and nothing else: `Entered` says
what is left of the console. The overlay is all in which typing a command and giving it can differ.
-/

namespace ChatConsole.Console

/-- The console with another input line, and with the help shown or hidden. -/
def withLine (input : String) (helpShown : Bool) (c : Console) : Console :=
  { c with input, helpShown }

/-! ## Commands and what they leave alone -/

theorem log_withLine (now : Time.Instant) (text input : String) (helpShown : Bool) (c : Console) :
    (c.withLine input helpShown).log now text = (c.log now text).withLine input helpShown := rfl

theorem withRole_withLine {go go' : Role → Console} {input : String} {helpShown : Bool}
    (hGo : ∀ role, go' role = (go role).withLine input helpShown) (now : Time.Instant)
    (word : String) (c : Console) :
    (c.withLine input helpShown).withRole now word go' =
      (c.withRole now word go).withLine input helpShown := by
  unfold withRole
  cases Role.parse word with
  | ok role => exact hGo role
  | error e => exact log_withLine now _ input helpShown c

/-- A command neither reads nor changes the input line, and it shows the help or lets it be. -/
theorem execute_withLine (now : Time.Instant) (command : Command) (input : String)
    (helpShown : Bool) (c : Console) :
    (c.withLine input helpShown).execute now command =
      (c.execute now command).withLine input (if command = .help then true else helpShown) := by
  cases command with
  | connect word =>
    cases word with
    | none => rfl
    | some word =>
      have hConnect (role : Role) : (c.withLine input helpShown).connect now role =
          (c.connect now role).withLine input helpShown := rfl
      exact withRole_withLine hConnect now word c
  | role word =>
    have hChange (role : Role) :
        { c.withLine input helpShown with session := c.session.changeRole now role now } =
          { c with session := c.session.changeRole now role now }.withLine input helpShown := rfl
    exact withRole_withLine hChange now word c
  | _ => rfl

theorem input_execute (now : Time.Instant) (command : Command) (c : Console) :
    (c.execute now command).input = c.input := by
  have hSame : c = c.withLine c.input c.helpShown := rfl
  rw [hSame, execute_withLine]
  rfl

/-! ## Entering a line -/

/-- The second console is what the first one becomes when a text is entered. -/
structure Entered (now : Time.Instant) (text : String) (c c' : Console) : Prop where
  /-- It is what the command leaves, with an empty input line and perhaps another overlay. -/
  eq_execute : c' = (c.execute now (Command.parse text)).withLine "" c'.helpShown
  helpShown_of_quit : Command.parse text = .quit → c'.helpShown = c.helpShown
  helpShown_iff : Command.parse text ≠ .quit → (c'.helpShown ↔ Command.parse text = .help)

theorem entered_of_eq {now : Time.Instant} {text : String} {c c' : Console} {helpShown : Bool}
    (h : c' = (c.execute now (Command.parse text)).withLine "" helpShown)
    (hQuit : Command.parse text = .quit → helpShown = c.helpShown)
    (hOther : Command.parse text ≠ .quit → (helpShown ↔ Command.parse text = .help)) :
    Entered now text c c' where
  eq_execute := by
    rw [h]
    rfl
  helpShown_of_quit := fun hCommand => by
    rw [h]
    exact hQuit hCommand
  helpShown_iff := fun hCommand => by
    rw [h]
    exact hOther hCommand

namespace Entered

variable {now : Time.Instant} {text : String} {c c' : Console}

theorem input (h : Entered now text c c') : c'.input = "" := by
  rw [h.eq_execute]
  rfl

/-- What was in the input line before makes no difference. -/
theorem of_withLine {line : String} (h : Entered now text (c.withLine line c.helpShown) c') :
    Entered now text c c' where
  eq_execute := by
    have hExecute := h.eq_execute
    rw [execute_withLine] at hExecute
    exact hExecute
  helpShown_of_quit := h.helpShown_of_quit
  helpShown_iff := h.helpShown_iff

/-- If there was nothing in it, only the overlay can differ from what the command leaves. -/
theorem eq_of_empty (h : Entered now text c c') (hEmpty : c.input = "") :
    c' = { c.execute now (Command.parse text) with helpShown := c'.helpShown } := by
  have hInput : (c.execute now (Command.parse text)).input = "" :=
    (input_execute now _ c).trans hEmpty
  have hExecute := h.eq_execute
  rw [← hInput] at hExecute
  exact hExecute

end Entered

/-- The key that enters a line does what the line says. -/
theorem entered_enter (now : Time.Instant) (c : Console) : Entered now c.input c (c.enter now) := by
  by_cases hQuit : Command.parse c.input = .quit
  · have hEnter : c.enter now =
        (c.execute now (Command.parse c.input)).withLine "" c.helpShown := by
      rw [enter, if_pos hQuit, hQuit]
      rfl
    exact entered_of_eq hEnter (fun _ => rfl) fun hOther => absurd hQuit hOther
  · have hEnter : c.enter now = (c.withLine "" false).execute now (Command.parse c.input) := by
      rw [enter, if_neg hQuit]
      rfl
    rw [execute_withLine] at hEnter
    refine entered_of_eq hEnter (fun h => absurd h hQuit) fun _ => ?_
    by_cases hHelp : Command.parse c.input = .help
    · rw [if_pos hHelp]
      exact iff_of_true rfl hHelp
    · rw [if_neg hHelp]
      exact iff_of_false Bool.false_ne_true hHelp

/-! ## Typing it -/

/-- The keys of a text, each at its own reading of the clock. -/
def typing (typed : List (Time.Instant × Char)) : List Timed :=
  typed.map fun key => (key.1, .press (.char key.2))

/-- The text of what is typed. -/
def textOf (typed : List (Time.Instant × Char)) : String := String.ofList (typed.map Prod.snd)

/-- The keys of a text add it to the input line, and do nothing else. -/
theorem run_typing (typed : List (Time.Instant × Char)) (c : Console) :
    c.run (typing typed) = { c with input := c.input ++ textOf typed } := by
  induction typed generalizing c with
  | nil =>
    have hInput : c.input ++ textOf [] = c.input := String.append_empty
    rw [hInput]
    rfl
  | cons key typed ih =>
    obtain ⟨now, ch⟩ := key
    have hRun : c.run (typing ((now, ch) :: typed)) =
        Console.run { c with input := c.input.push ch } (typing typed) := rfl
    have hInput : c.input.push ch ++ textOf typed = c.input ++ textOf ((now, ch) :: typed) := by
      apply String.toList_inj.mp
      simp [textOf]
    rw [hRun, ih]
    exact congrArg (fun input => ({ c with input } : Console)) hInput

/-! ## Taking it back -/

theorem press_backspace {c : Console} {b : String} {ch : Char} (h : c.input = b.push ch)
    (now : Time.Instant) : c.press now .backspace = { c with input := b } := by
  have hInput : String.ofList c.input.toList.dropLast = b := by
    rw [h, String.toList_push, List.dropLast_concat, String.ofList_toList]
  exact congrArg (fun input => ({ c with input } : Console)) hInput

theorem press_backspace_of_empty {c : Console} (h : c.input = "") (now : Time.Instant) :
    c.press now .backspace = c := by
  have hInput : String.ofList c.input.toList.dropLast = c.input := by
    rw [h]
    rfl
  exact congrArg (fun input => ({ c with input } : Console)) hInput

/-- **A line is worth its command.** Whatever text is typed into an empty line and entered, the
console is as if it had been given the command at that time, but for the overlay, which is shown
afterwards just in case the text asks for help, unless it asks to quit. A line that is there already
is entered as if it were typed now; it can be shortened from its end, and it is emptied by the key
that hides the overlay, if that is not shown. -/
theorem line_of_keys (now : Time.Instant) (c : Console) :
    (c.input = "" → ∀ typed,
      let entered := c.run (typing typed ++ [(now, .press .enter)])
      let command := Command.parse (textOf typed)
      entered = { c.execute now command with helpShown := entered.helpShown } ∧
        entered.input = "" ∧
        (command = .quit → entered.helpShown = c.helpShown) ∧
        (command ≠ .quit → (entered.helpShown ↔ command = .help))) ∧
      (Entered now c.input c (c.press now .enter) ∧
        ∀ typed, textOf typed = c.input →
          c.press now .enter =
            (c.withLine "" c.helpShown).run (typing typed ++ [(now, .press .enter)])) ∧
      ((∀ b ch, c.input = b.push ch → c.press now .backspace = { c with input := b }) ∧
        (c.input = "" → c.press now .backspace = c)) ∧
      (c.mode = .help → c.press now .escape = { c with helpShown := false }) ∧
      (c.mode ≠ .help → c.press now .escape = { c with input := "" }) := by
  have hTyped (typed : List (Time.Instant × Char)) (c : Console) (hEmpty : c.input = "") :
      c.run (typing typed ++ [(now, .press .enter)]) =
        Console.enter now { c with input := textOf typed } := by
    rw [run_append, run_typing, hEmpty, String.empty_append]
    rfl
  refine ⟨fun hEmpty typed => ?_, ⟨entered_enter now c, fun typed hText => ?_⟩,
    ⟨fun b ch h => press_backspace h now, fun h => press_backspace_of_empty h now⟩,
    fun hHelp => if_pos hHelp, fun hOther => if_neg hOther⟩
  · intro entered command
    have hEntered : Entered now (textOf typed) c entered := by
      have hLine : entered = (c.withLine (textOf typed) c.helpShown).enter now :=
        hTyped typed c hEmpty
      rw [hLine]
      exact (entered_enter now (c.withLine (textOf typed) c.helpShown)).of_withLine
    exact ⟨hEntered.eq_of_empty hEmpty, hEntered.input, hEntered.helpShown_of_quit,
      hEntered.helpShown_iff⟩
  · rw [hTyped typed (c.withLine "" c.helpShown) rfl, hText]
    rfl

/-- On a connected console that shows the help, a command is typed and entered, a letter of it is
taken back, and the key that empties the line hides the help first. -/
theorem line_of_keys_connected :
    let c := (start { endpoint := "ws://[::1]" } .client { policy := .accept }).run
      [(.zero, .command (.connect none)), (.zero, .session (.handle (.opened ⟨1⟩))),
        (.zero, .showHelp)]
    let typed : List (Time.Instant × Char) := [(.ofMillis 1, 'h'), (.ofMillis 2, 'i')]
    let half := c.run (typing typed)
    let entered := c.run (typing typed ++ [(.ofMillis 3, .press .enter)])
    (c.input = "" ∧ c.helpShown ∧ Command.parse (textOf typed) ≠ .quit) ∧
      entered = { c.execute (.ofMillis 3) (.send "hi") with helpShown := false } ∧
      half.input = "h".push 'i' ∧ half.press .zero .backspace = { half with input := "h" } ∧
      half.mode = .help ∧ half.press .zero .escape = { half with helpShown := false } ∧
      entered.mode ≠ .help ∧ entered.press .zero .escape = { entered with input := "" } := by
  intro c typed half entered
  have hEmpty : c.input = "" := by decide +kernel
  have hHelp : c.helpShown := by decide +kernel
  have hParse : Command.parse (textOf typed) = .send "hi" := by decide +kernel
  have hQuit : Command.parse (textOf typed) ≠ .quit := by rw [hParse]; simp
  have hTyped : half.input = "h".push 'i' := by decide +kernel
  have hShown : half.mode = .help := by decide +kernel
  have hHidden : entered.mode ≠ .help := by decide +kernel
  obtain ⟨hSame, -, -, hOverlay⟩ := (line_of_keys (.ofMillis 3) c).1 hEmpty typed
  have hOff : entered.helpShown = false := by
    rw [Bool.eq_false_iff]
    intro hOn
    have hAsked := (hOverlay hQuit).mp hOn
    rw [hParse] at hAsked
    cases hAsked
  refine ⟨⟨hEmpty, hHelp, hQuit⟩, ?_, hTyped, ?_, hShown, ?_, hHidden, ?_⟩
  · rw [hParse, hOff] at hSame
    exact hSame
  · exact (line_of_keys .zero half).2.2.1.1 "h" 'i' hTyped
  · exact (line_of_keys .zero half).2.2.2.1 hShown
  · exact (line_of_keys .zero entered).2.2.2.2 hHidden

end ChatConsole.Console
