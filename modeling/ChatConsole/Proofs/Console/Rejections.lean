import ChatConsole.Proofs.Console.Runs
import ChatConsole.Proofs.Role.Words

/-! # Arguments that name no role

A line that asks for a role by a word that names none is answered with a line of the activity log,
and nothing else becomes of it: `Logged` says that a console has one such line more than another
one and is the same otherwise. A word that does name a role is as good as the role itself.
-/

namespace ChatConsole

/-- A full log gives up its oldest entry for the newest one. -/
theorem Retained.entries_append (log : Retained α) (entry : α) :
    (log.append entry).entries =
      (if log.entries.length < log.limit then log.entries else log.entries.tail) ++ [entry] := by
  have hLe := log.length_le
  have hPos := log.limit_pos
  show lastOf log.limit (log.entries ++ [entry]) = _
  rw [lastOf, List.length_append, List.length_singleton]
  split
  · next hRoom =>
    have hNone : log.entries.length + 1 - log.limit = 0 := by omega
    rw [hNone, List.drop_zero]
  · next hFull =>
    have hOne : log.entries.length + 1 - log.limit = 1 := by omega
    rw [hOne, List.drop_append_of_le_length (by omega), List.drop_one]

namespace Console

/-- The console with another activity log, and with what was noted for it. -/
def withLog (activity : Activity) (records : List Journal.Record) (c : Console) : Console :=
  { c with session := { c.session with activity, records } }

/-- The second console has one line more in its activity log, and differs in nothing else. -/
structure Logged (now : Time.Instant) (text : String) (c c' : Console) : Prop where
  entries : c'.session.activity.entries =
    (if c.session.activity.entries.length < c.session.activity.limit
      then c.session.activity.entries else c.session.activity.entries.tail) ++ [⟨now, text⟩]
  limit : c'.session.activity.limit = c.session.activity.limit
  records : c'.session.records = ⟨now, Session.activityNote text⟩ :: c.session.records
  otherwise : c'.withLog c.session.activity c.session.records = c

variable {now : Time.Instant} {c : Console} {word : String} {command : Command}

theorem logged_log (now : Time.Instant) (text : String) (c : Console) :
    Logged now text c (c.log now text) where
  entries := c.session.activity.entries_append ⟨now, text⟩
  limit := rfl
  records := rfl
  otherwise := rfl

/-! ## Words in the place of roles -/

theorem withRole_of_ok {role : Role} (h : Role.parse word = .ok role) (go : Role → Console) :
    c.withRole now word go = go role := by
  rw [withRole, h]

theorem withRole_of_error {e : InvalidRole} (h : Role.parse word = .error e)
    (go : Role → Console) : c.withRole now word go = c.log now (invalidRoleText ⟨word⟩) := by
  rw [withRole, h, Role.eq_of_parse_eq_error h]

/-- What is said about a word that names no role. -/
theorem invalidRoleText_mk (word : String) : invalidRoleText ⟨word⟩ =
    "Error: invalid role '" ++ word ++
      "': expected a single word of letters, digits, '-' or '_'" := by
  show "Error: " ++ ("invalid role '" ++ word ++ _) = _
  rw [String.append_assoc, ← String.append_assoc, ← String.append_assoc]
  rfl

theorem execute_of_invalid {e : InvalidRole}
    (hCommand : command = .connect (some word) ∨ command = .role word)
    (h : Role.parse word = .error e) :
    c.execute now command = c.log now (invalidRoleText ⟨word⟩) := by
  rcases hCommand with rfl | rfl
  · exact withRole_of_error h _
  · exact withRole_of_error h _

/-- **What becomes of a word in the place of a role.** In any state of the console, a line that asks
to connect as, or to change to, what is no role adds one line that quotes it to the activity log and
changes nothing else. If it is a role, the session does what it does when asked for that role. -/
theorem role_argument_of_line (now : Time.Instant) (c : Console) {line word : String}
    (hLine : Command.parse line = .connect (some word) ∨ Command.parse line = .role word) :
    (∀ e, Role.parse word = .error e →
        Logged now
          ("Error: invalid role '" ++ word ++
            "': expected a single word of letters, digits, '-' or '_'")
          c (c.execute now (Command.parse line))) ∧
      ∀ role, Role.parse word = .ok role →
        (Command.parse line = .connect (some word) →
          (c.execute now (Command.parse line)).session = c.session.connect now role) ∧
        (Command.parse line = .role word →
          (c.execute now (Command.parse line)).session = c.session.changeRole now role now) := by
  constructor
  · intro e hWord
    rw [execute_of_invalid hLine hWord, ← invalidRoleText_mk]
    exact logged_log now _ c
  · intro role hWord
    constructor
    · intro hConnect
      rw [hConnect, execute, withRole_of_ok hWord]
      rfl
    · intro hRole
      rw [hRole, execute, withRole_of_ok hWord]

/-- A connected console whose log holds a single line: a role of two words takes the place of that
line and leaves the channel alone, a known role replaces the channel. -/
theorem role_argument_of_line_connected :
    let c := (start { endpoint := "ws://[::1]", activityLimit := 1 } .client {}).run
      [(.zero, .command (Command.parse "/connect")), (.zero, .session (.handle (.opened ⟨1⟩)))]
    let c' := c.execute .zero (Command.parse "/role two  words ")
    (Command.parse "/role two  words " = .connect (some "two  words") ∨
        Command.parse "/role two  words " = .role "two  words") ∧
      Role.parse "two  words" = .error ⟨"two  words"⟩ ∧
      Logged .zero
        "Error: invalid role 'two  words': expected a single word of letters, digits, '-' or '_'"
        c c' ∧
      (c.session.activity.entries.length, c'.session.activity.entries.length) = (1, 1) ∧
      c.session.isConnected ∧ Role.parse "MANAGER" = .ok .manager ∧
      (c.execute .zero (Command.parse "/c MANAGER")).session =
        c.session.connect .zero .manager := by
  intro c c'
  have hRole : Command.parse "/role two  words " = .role "two  words" := by decide
  have hConnect : Command.parse "/c MANAGER" = .connect (some "MANAGER") := by decide
  have hWord : Role.parse "two  words" = .error ⟨"two  words"⟩ := by decide
  have hManager : Role.parse "MANAGER" = .ok .manager := by decide
  obtain ⟨hInvalid, -⟩ := role_argument_of_line .zero c (Or.inr hRole)
  obtain ⟨-, hValid⟩ := role_argument_of_line .zero c (Or.inl hConnect)
  exact ⟨Or.inr hRole, hWord, hInvalid _ hWord, by decide +kernel, by decide +kernel, hManager,
    (hValid .manager hManager).1 hConnect⟩

end Console

end ChatConsole
