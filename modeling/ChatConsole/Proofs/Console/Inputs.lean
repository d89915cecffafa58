import ChatConsole.Proofs.Console.Runs

/-! # What a console makes of its input

A console does nothing to its session but what the session offers: every key, command and tick comes
down to acts of the session, as `sessionActs` lists them. So a run of a console is a run of its
session (`session_run`), and what is known of all runs of a session holds of the session of every
console.
-/

namespace ChatConsole.Console

/-! ## The acts of the session -/

/-- What becomes of a word that has to name a role. -/
def wordActs (word : String) (go : Role → Session.Act) : List Session.Act :=
  match Role.parse word with
  | .ok role => [go role]
  | .error e => [.notify (invalidRoleText e)]

/-- What the session is asked to do for a command. -/
def commandActs (now : Time.Instant) : Command → List Session.Act
  | .none | .help => []
  | .quit => [.notify "Exiting..."]
  | .connect (some word) => wordActs word .connect
  | .connect Option.none => [.connectCurrent]
  | .disconnect => [.disconnect]
  | .role word => wordActs word fun role => .changeRole role now
  | .send text => [.send text]

/-- What the session is asked to do for a key. -/
def keyActs (now : Time.Instant) (c : Console) : Key → List Session.Act
  | .enter => commandActs now (Command.parse c.input)
  | .function n => (QuickCommand.ofKey? n).toList.map fun quick => .send quick.command
  | _ => []

/-- What the session is asked to do for an act. -/
def Act.sessionActs (now : Time.Instant) (c : Console) : Act → List Session.Act
  | .press key => keyActs now c key
  | .command asked => commandActs now asked
  | .tick => [.pump, .tick now]
  | .session a => [a]
  | .log text => [.notify text]
  | _ => []

/-- Acts at one reading of the clock. -/
def timed (now : Time.Instant) (acts : List Session.Act) : List Session.Timed :=
  acts.map fun a => (now, a)

/-- What the session is asked to do in a run. -/
def sessionRun : Console → List Timed → List Session.Timed
  | _, [] => []
  | c, (now, a) :: acts => timed now (a.sessionActs now c) ++ (c.act now a).sessionRun acts

/-! ## They are all that is done to it -/

variable (now : Time.Instant) (c : Console)

theorem session_withRole {go : Role → Console} {act : Role → Session.Act}
    (h : ∀ role, (go role).session = c.session.act now (act role)) (word : String) :
    (c.withRole now word go).session = c.session.run (timed now (wordActs word act)) := by
  unfold withRole wordActs
  cases Role.parse word with
  | ok role => exact h role
  | error e => rfl

theorem session_execute (command : Command) :
    (c.execute now command).session = c.session.run (timed now (commandActs now command)) := by
  cases command with
  | connect word =>
    cases word with
    | none => rfl
    | some word => exact session_withRole now c (fun _ => rfl) word
  | role word => exact session_withRole now c (fun _ => rfl) word
  | _ => rfl

theorem session_enter :
    (c.enter now).session =
      c.session.run (timed now (commandActs now (Command.parse c.input))) := by
  unfold enter
  simp only
  split
  · next hQuit =>
    rw [hQuit]
    rfl
  · exact session_execute now { c with input := "", helpShown := false } _

theorem session_scrollUp (n : Nat) : (c.scrollUp n).session = c.session := rfl

/-- A key that asks for nothing leaves the session alone. -/
theorem session_press_of_idle {key : Key} (hEnter : key ≠ .enter)
    (hQuick : ∀ n, key = .function n → QuickCommand.ofKey? n = none) :
    (c.press now key).session = c.session := by
  cases key with
  | enter => exact absurd rfl hEnter
  | escape =>
    show c.escape.session = c.session
    unfold escape
    split <;> rfl
  | function n => simp only [press, hQuick n rfl]
  | home => exact session_scrollUp c 1000
  | _ => rfl

theorem session_press (key : Key) :
    (c.press now key).session = c.session.run (timed now (keyActs now c key)) := by
  cases key with
  | enter => exact session_enter now c
  | function n =>
    cases hQuick : QuickCommand.ofKey? n with
    | none =>
      have hNone : ∀ k, Key.function n = .function k → QuickCommand.ofKey? k = none := by
        intro k hKey
        obtain rfl := Key.function.inj hKey
        exact hQuick
      rw [session_press_of_idle now c (by simp) hNone, keyActs, hQuick]
      rfl
    | some quick =>
      have hPress : c.press now (.function n) = c.execute now (.send quick.command) := by
        simp only [press, hQuick, execute]
      rw [hPress, session_execute, keyActs, hQuick]
      rfl
  | _ => exact session_press_of_idle now c (by simp) (by simp)

/-- An act does to the session what it asks for, unless it brings in another session. -/
theorem session_act {a : Act} (h : ∀ s, a ≠ .replace s) :
    (c.act now a).session = c.session.run (timed now (a.sessionActs now c)) := by
  cases a with
  | press key => exact session_press now c key
  | command command => exact session_execute now c command
  | replace s => exact absurd rfl (h s)
  | _ => rfl

variable {now} {c}

/-- **A run of a console is a run of its session.** -/
theorem session_run {acts : List Timed} (h : ∀ a ∈ acts, ∀ s, a.2 ≠ .replace s) (c : Console) :
    (c.run acts).session = c.session.run (c.sessionRun acts) := by
  induction acts generalizing c with
  | nil => rfl
  | cons a acts ih =>
    obtain ⟨now, a⟩ := a
    have hHere := session_act now c (h (now, a) List.mem_cons_self)
    have hRest := ih (fun b hb => h b (List.mem_cons_of_mem _ hb)) (c.act now a)
    rw [run_cons, hRest, hHere, sessionRun, Session.run_append]

/-- Whatever the session is asked to do, it is asked by an act of the run. -/
theorem exists_act_of_mem_sessionRun {acts : List Timed} {c : Console} {b : Session.Timed}
    (h : b ∈ c.sessionRun acts) : ∃ before now a after, acts = before ++ (now, a) :: after ∧
      b.2 ∈ a.sessionActs now (c.run before) := by
  induction acts generalizing c with
  | nil => cases h
  | cons a acts ih =>
    obtain ⟨now, a⟩ := a
    rcases List.mem_append.mp h with hHere | hLater
    · obtain ⟨b, hAct, rfl⟩ := List.mem_map.mp hHere
      exact ⟨[], now, a, acts, rfl, hAct⟩
    · obtain ⟨before, now', a', after, rfl, hAct⟩ := ih hLater
      exact ⟨(now, a) :: before, now', a', after, rfl, hAct⟩

end ChatConsole.Console
