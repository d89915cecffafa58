import ChatConsole.Console
import ChatConsole.Proofs.Session.Runs

/-! # Runs of a console

A run of a console is a list of acts, each at its own reading of the clock: keys, commands that come
from elsewhere, ticks, what is done to its session behind its back, and the view being moved. As
with sessions nothing is said about the order.
-/

namespace ChatConsole.Console

/-- One act of a run. -/
inductive Act
  | press (key : Key)
  | command (command : Command)
  | tick
  | session (a : Session.Act)
  /-- The session comes back in any other state. -/
  | replace (s : Session)
  | log (text : String)
  /-- The input line is replaced. -/
  | edit (text : String)
  | showHelp
  | hideHelp
  | quit
  | scrollUp (n : Nat)
  | scrollDown (n : Nat)
  | scrollToEnd

/-- An act and the reading of the clock at which it is done. -/
abbrev Timed := Time.Instant × Act

/-- The console after an act. -/
def act (now : Time.Instant) (c : Console) : Act → Console
  | .press key => c.press now key
  | .command command => c.execute now command
  | .tick => c.tick now
  | .session a => { c with session := c.session.act now a }
  | .replace s => { c with session := s }
  | .log text => c.log now text
  | .edit text => { c with input := text }
  | .showHelp => { c with helpShown := true }
  | .hideHelp => { c with helpShown := false }
  | .quit => { c with quitting := true }
  | .scrollUp n => c.scrollUp n
  | .scrollDown n => c.scrollDown n
  | .scrollToEnd => c.scrollToEnd

/-- The console after a run. -/
def run (c : Console) (acts : List Timed) : Console :=
  acts.foldl (fun c a => c.act a.1 a.2) c

@[simp] theorem run_nil (c : Console) : c.run [] = c := rfl

@[simp] theorem run_cons (c : Console) (a : Timed) (acts : List Timed) :
    c.run (a :: acts) = (c.act a.1 a.2).run acts := rfl

theorem run_append (c : Console) (acts acts' : List Timed) :
    c.run (acts ++ acts') = (c.run acts).run acts' := List.foldl_append

end ChatConsole.Console
