import ChatConsole.Text.Blank
import ChatConsole.Time.Duration

/-! # Console commands

A line that begins with `/` is a command to the console itself; any other line goes to the gateway
as it was typed, without the blanks around it. Lines that mean nothing are ignored.
-/

namespace ChatConsole

/-- What a line of input asks for. -/
inductive Command
  | none
  | quit
  | help
  | connect (role : Option String)
  | disconnect
  | role (name : String)
  | send (text : String)
  deriving DecidableEq, Repr

namespace Command

/-- Ends the word after the slash. -/
def isGap (c : Char) : Bool := c == ' ' || c == '\t'

/-- The argument in what follows the word; blanks alone are none. -/
def argument? (rest : List Char) : Option String :=
  let cs := Text.trimChars rest
  if cs.isEmpty then Option.none else some (String.ofList cs)

/-- The command with the given word and argument. -/
def ofWord (word : String) (argument : Option String) : Command :=
  if word = "quit" ∨ word = "q" ∨ word = "exit" then
    if argument.isNone then .quit else .none
  else if word = "help" ∨ word = "h" then .help
  else if word = "connect" ∨ word = "c" then .connect argument
  else if word = "disconnect" ∨ word = "dc" then .disconnect
  else if word = "role" then
    match argument with
    | some name => .role name
    | Option.none => .none
  else .none

/-- Reads one line of input. -/
def parse (line : String) : Command :=
  match Text.trimChars line.toList with
  | [] => .none
  | '/' :: rest =>
    ofWord (String.ofList (rest.takeWhile (!isGap ·))) (argument? (rest.dropWhile (!isGap ·)))
  | cs => .send (String.ofList cs)

end Command

/-- Gateway commands on a function key. -/
inductive QuickCommand
  | status | help | users | clear
  deriving DecidableEq, Repr

namespace QuickCommand

def all : List QuickCommand := [.status, .help, .users, .clear]

/-- What is sent to the gateway. -/
def command : QuickCommand → String
  | .status => "status"
  | .help => "help"
  | .users => "users"
  | .clear => "clear"

def name : QuickCommand → String
  | .status => "Status"
  | .help => "Help"
  | .users => "Users"
  | .clear => "Clear"

/-- The number of the function key. -/
def key : QuickCommand → Nat
  | .status => 2
  | .help => 3
  | .users => 4
  | .clear => 5

def ofKey? (n : Nat) : Option QuickCommand := all.find? (·.key == n)

end QuickCommand

namespace Help

/-- The lines of the help text; the delay is the one before a reconnect. -/
def lines (delay : Time.Duration) : List String :=
  [ "ChatOps Console",
    "",
    "CONSOLE COMMANDS (start with \"/\"):",
    "    /connect [role]     Open the command channel (optionally as <role>)",
    "    /disconnect         Close the command channel",
    "    /role <role>        Switch role (reconnects after " ++ delay.text ++ " if connected)",
    "    /help               Show this help message",
    "    /quit, /q, /exit    Quit",
    "",
    "GATEWAY COMMANDS (anything else is sent as typed):",
    "    status, help, users, clear, start <svc>, stop <svc>, ...",
    "",
    "KEYS:",
    "    Up/Down, PageUp/PageDown, Home/End   Scroll transcript",
    "    Esc                                  Clear input",
    "    Ctrl+C                               Exit immediately" ] ++
  QuickCommand.all.map fun quick =>
    "    F" ++ toString quick.key ++ "                                   Send '" ++
      quick.command ++ "'"

/-- The help text; every line ends in a line break. -/
def text (delay : Time.Duration) : String :=
  String.join ((lines delay).map (· ++ "\n"))

end Help

end ChatConsole
