import ChatConsole.Command
import ChatConsole.Proofs.Text.Trim

/-! # The grammar of console commands

A line without the blanks around it is a text for the gateway, unless it is empty or begins with a
slash. After the slash a word reaches up to the first space or tab, and an argument is what follows
without the blanks around it. `Names` lists what a word with its argument stands for; everything
else means nothing. A command that was read can be written down so that it is read again.
-/

namespace ChatConsole.Command

open Text (IsTrimmed isBlank trim trimChars)

/-- What a word after the slash stands for, together with its argument. -/
inductive Names : String → Option String → Command → Prop
  | quit {word : String} (h : word = "quit" ∨ word = "q" ∨ word = "exit") : Names word .none .quit
  | help {word : String} (h : word = "help" ∨ word = "h") (argument : Option String) :
      Names word argument .help
  | connect {word : String} (h : word = "connect" ∨ word = "c") (argument : Option String) :
      Names word argument (.connect argument)
  | disconnect {word : String} (h : word = "disconnect" ∨ word = "dc")
      (argument : Option String) : Names word argument .disconnect
  | role (name : String) : Names "role" (some name) (.role name)

/-- A line that begins with a slash, and the word that ends at the first space or tab. -/
structure Slashed (line word rest : String) : Prop where
  eq_append : line = "/" ++ word ++ rest
  plain : ∀ c ∈ word.toList, ¬ isGap c
  gap : ∀ c, rest.toList.head? = some c → isGap c

/-- How a command is written. -/
def written : Command → String
  | .none => ""
  | .quit => "/quit"
  | .help => "/help"
  | .connect .none => "/connect"
  | .connect (some name) => "/connect " ++ name
  | .disconnect => "/disconnect"
  | .role name => "/role " ++ name
  | .send text => text

/-- A command that some line asks for. -/
def IsRead : Command → Prop
  | .none => False
  | .connect (some name) | .role name => name ≠ "" ∧ trim name = name
  | .send text => text ≠ "" ∧ trim text = text ∧ text.toList.head? ≠ some '/'
  | _ => True

/-! ## Words and arguments -/

section

variable {word name : String} {argument : Option String} {command : Command}

theorem ofWord_of_names (h : Names word argument command) : ofWord word argument = command := by
  cases h with
  | quit h => rcases h with rfl | rfl | rfl <;> rfl
  | help h => rcases h with rfl | rfl <;> rfl
  | connect h => rcases h with rfl | rfl <;> rfl
  | disconnect h => rcases h with rfl | rfl <;> rfl
  | role name => rfl

theorem names_of_ofWord (h : ofWord word argument = command) (hSome : command ≠ .none) :
    Names word argument command := by
  unfold ofWord at h
  split at h
  · next hQuit =>
    split at h
    · next hNone =>
      obtain rfl := Option.isNone_iff_eq_none.mp hNone
      exact h ▸ .quit hQuit
    · exact absurd h.symm hSome
  split at h
  · next hHelp => exact h ▸ .help hHelp argument
  split at h
  · next hConnect => exact h ▸ .connect hConnect argument
  split at h
  · next hDisconnect => exact h ▸ .disconnect hDisconnect argument
  split at h
  · next hRole =>
    subst hRole
    cases argument with
    | none => exact absurd h.symm hSome
    | some name => exact h ▸ .role name
  · exact absurd h.symm hSome

/-- No word stands for a text. -/
theorem not_names_send {text : String} : ¬ Names word argument (.send text) := by
  intro h
  cases h

theorem ofWord_eq_iff (hSome : command ≠ .none) :
    ofWord word argument = command ↔ Names word argument command :=
  ⟨fun h => names_of_ofWord h hSome, ofWord_of_names⟩

theorem ofWord_eq_none_iff :
    ofWord word argument = .none ↔ ∀ command, ¬ Names word argument command := by
  constructor
  · intro hNone command hNames
    have hSame : command = .none := (ofWord_of_names hNames).symm.trans hNone
    rw [hSame] at hNames
    cases hNames
  · intro hNot
    by_contra hSome
    exact hNot _ (names_of_ofWord rfl hSome)

theorem argument?_eq_some_iff {rest : String} :
    argument? rest.toList = some name ↔ name = trim rest ∧ name ≠ "" := by
  have hTrim : trim rest = "" ↔ trimChars rest.toList = [] := by
    rw [← String.toList_eq_nil_iff, Text.toList_trim]
  unfold argument?
  simp only
  split
  · next hEmpty =>
    have hBlank : trim rest = "" := hTrim.mpr (List.isEmpty_iff.mp hEmpty)
    rw [hBlank]
    refine ⟨fun h => (by cases h), fun h => absurd h.1 h.2⟩
  · next hEmpty =>
    have hText : trim rest ≠ "" := fun h => hEmpty (List.isEmpty_iff.mpr (hTrim.mp h))
    constructor
    · intro h
      obtain rfl := Option.some.inj h
      exact ⟨rfl, hText⟩
    · rintro ⟨rfl, -⟩
      rfl

end

/-! ## Lines -/

section

variable {line word rest : String}

/-- Every line that begins with a slash has a word and what follows it. -/
theorem exists_slashed (h : line.toList.head? = some '/') :
    ∃ word rest, Slashed line word rest := by
  obtain ⟨cs, hLine⟩ := List.head?_eq_some_iff.mp h
  refine ⟨String.ofList (cs.takeWhile (!isGap ·)), String.ofList (cs.dropWhile (!isGap ·)),
    ?_, ?_, ?_⟩
  · rw [← String.toList_inj, hLine]
    simp only [String.toList_append, String.toList_ofList, List.append_assoc,
      List.takeWhile_append_dropWhile]
    rfl
  · intro c hMem
    rw [String.toList_ofList] at hMem
    simpa using List.mem_takeWhile_imp hMem
  · intro c hHead
    rw [String.toList_ofList] at hHead
    simpa using Text.not_of_head?_dropWhile hHead

/-- What is read after a slash comes from the word and the argument. -/
theorem parse_of_slashed (h : Slashed (trim line) word rest) :
    parse line = ofWord word (argument? rest.toList) := by
  have hLine : trimChars line.toList = '/' :: (word.toList ++ rest.toList) := by
    rw [← Text.toList_trim, h.eq_append]
    simp
  have hPlain : ∀ c ∈ word.toList, (!isGap c) = true := fun c hMem => by
    simpa using h.plain c hMem
  have hGap : ∀ c, rest.toList.head? = some c → ¬ (!isGap c) = true := fun c hHead => by
    simpa using h.gap c hHead
  have hRest : (word.toList ++ rest.toList).dropWhile (!isGap ·) = rest.toList := by
    rw [List.dropWhile_append_of_pos hPlain, Text.dropWhile_of_head? hGap]
  have hWord : (word.toList ++ rest.toList).takeWhile (!isGap ·) = word.toList := by
    have hWhole : (word.toList ++ rest.toList).takeWhile (!isGap ·) ++
        (word.toList ++ rest.toList).dropWhile (!isGap ·) = word.toList ++ rest.toList :=
      List.takeWhile_append_dropWhile
    rw [hRest] at hWhole
    exact List.append_cancel_right hWhole
  rw [parse, hLine]
  simp only [hWord, hRest, String.ofList_toList]

theorem parse_of_blank (h : trim line = "") : parse line = .none := by
  have hLine : trimChars line.toList = [] := by rw [← Text.toList_trim, h]; rfl
  rw [parse, hLine]

theorem parse_of_text (hSome : trim line ≠ "") (hSlash : (trim line).toList.head? ≠ some '/') :
    parse line = .send (trim line) := by
  unfold parse
  split
  · next hNil =>
    rw [← Text.toList_trim, String.toList_eq_nil_iff] at hNil
    exact absurd hNil hSome
  · next hLine =>
    rw [← Text.toList_trim] at hLine
    exact absurd (by rw [hLine]; rfl) hSlash
  · rfl

theorem parse_eq_send_iff {text : String} : parse line = .send text ↔
    text = trim line ∧ trim line ≠ "" ∧ (trim line).toList.head? ≠ some '/' := by
  constructor
  · intro h
    by_cases hEmpty : trim line = ""
    · rw [parse_of_blank hEmpty] at h
      cases h
    by_cases hSlash : (trim line).toList.head? = some '/'
    · obtain ⟨word, rest, hSlashed⟩ := exists_slashed hSlash
      have hWord : ofWord word (argument? rest.toList) = .send text :=
        (parse_of_slashed hSlashed).symm.trans h
      exact absurd (names_of_ofWord hWord (by simp)) not_names_send
    · rw [parse_of_text hEmpty hSlash] at h
      exact ⟨(Command.send.inj h).symm, hEmpty, hSlash⟩
  · rintro ⟨rfl, hSome, hSlash⟩
    exact parse_of_text hSome hSlash

theorem parse_append_blanks {before after : String} (hBefore : ∀ c ∈ before.toList, isBlank c)
    (hAfter : ∀ c ∈ after.toList, isBlank c) (line : String) :
    parse (before ++ line ++ after) = parse line := by
  rw [parse, String.toList_append, String.toList_append,
    Text.trimChars_append_blanks hBefore hAfter, parse]

end

/-! ## Reading and writing -/

section

variable {command : Command}

theorem isRead_of_names {word : String} {argument : Option String}
    (h : Names word argument command)
    (hArgument : ∀ name, argument = some name → name ≠ "" ∧ trim name = name) :
    command.IsRead := by
  cases h with
  | connect _ argument =>
    cases argument with
    | none => trivial
    | some name => exact hArgument name rfl
  | role name => exact hArgument name rfl
  | _ => trivial

/-- Whatever is read has a proper argument. -/
theorem isRead_parse {line : String} (h : parse line ≠ .none) : (parse line).IsRead := by
  by_cases hEmpty : trim line = ""
  · exact absurd (parse_of_blank hEmpty) h
  by_cases hSlash : (trim line).toList.head? = some '/'
  · obtain ⟨word, rest, hSlashed⟩ := exists_slashed hSlash
    have hWord := parse_of_slashed hSlashed
    refine isRead_of_names (names_of_ofWord hWord.symm h) fun name hName => ?_
    obtain ⟨rfl, hSome⟩ := argument?_eq_some_iff.mp hName
    exact ⟨hSome, Text.trim_trim rest⟩
  · rw [parse_of_text hEmpty hSlash]
    exact ⟨hEmpty, Text.trim_trim line, hSlash⟩

/-- A word and an argument after a slash are found again. -/
theorem parse_word_argument {word name : String} (hWord : ∀ c ∈ word.toList, ¬ isGap c)
    (hSome : name ≠ "") (hTrim : trim name = name) :
    parse ("/" ++ word ++ " " ++ name) = ofWord word (some name) := by
  have hLine : IsTrimmed ("/" ++ word ++ " " ++ name).toList := by
    rw [String.toList_append]
    exact (Text.isTrimmed_of_trim_eq hTrim).append_left (mt String.toList_eq_nil_iff.mp hSome)
      (by simp) (by decide : ¬ isBlank '/')
  have hSlashed : Slashed (trim ("/" ++ word ++ " " ++ name)) word (" " ++ name) := by
    refine ⟨?_, hWord, fun c hHead => ?_⟩
    · rw [trim, hLine.trimChars_eq, String.ofList_toList, String.append_assoc]
    · rw [String.toList_append] at hHead
      obtain rfl := Option.some.inj hHead
      rfl
  have hArgument : argument? (" " ++ name).toList = some name := by
    refine argument?_eq_some_iff.mpr ⟨?_, hSome⟩
    have hBlank : trim (" " ++ name ++ "") = trim name :=
      Text.trim_append_blanks (by simp [isBlank]) (by simp) name
    rw [String.append_empty, hTrim] at hBlank
    exact hBlank.symm
  rw [parse_of_slashed hSlashed, hArgument]

/-- **A command that was read is written so that it is read again.** -/
theorem parse_written (h : command.IsRead) : parse command.written = command := by
  cases command with
  | none => cases h
  | quit => decide
  | help => decide
  | disconnect => decide
  | connect argument =>
    cases argument with
    | none => decide
    | some name =>
      have hLine : "/connect " ++ name = "/" ++ "connect" ++ " " ++ name := rfl
      rw [written, hLine]
      exact parse_word_argument (by simp [isGap]) h.1 h.2
  | role name =>
    have hLine : "/role " ++ name = "/" ++ "role" ++ " " ++ name := rfl
    rw [written, hLine]
    exact parse_word_argument (by simp [isGap]) h.1 h.2
  | send text =>
    obtain ⟨hSome, hTrim, hSlash⟩ := h
    have hText : parse text = .send (trim text) := parse_of_text (by rwa [hTrim]) (by rwa [hTrim])
    rwa [hTrim] at hText

end

/-- **The grammar of a line.** Blanks around a line make no difference. Without them it is a text
for the gateway when there is anything left that does not begin with a slash. After a slash come the
word up to the first space or tab and an argument, which is what remains without its blanks, if
anything is left of it; and these two ask for what they stand for, or for nothing. An argument that
was read is not empty and trimmed, and every command that was read is written so that it is read
again. -/
theorem grammar_of_parse (line : String) :
    (∀ before after : String, (∀ c ∈ before.toList, isBlank c) →
        (∀ c ∈ after.toList, isBlank c) → parse (before ++ line ++ after) = parse line) ∧
      (∀ text, parse line = .send text ↔
        text = trim line ∧ trim line ≠ "" ∧ (trim line).toList.head? ≠ some '/') ∧
      (trim line = "" → parse line = .none) ∧
      ((trim line).toList.head? = some '/' → ∃ word rest argument, Slashed (trim line) word rest ∧
        (∀ name, argument = some name ↔ name = trim rest ∧ name ≠ "") ∧
        (∀ command, command ≠ .none → (parse line = command ↔ Names word argument command)) ∧
        (parse line = .none ↔ ∀ command, ¬ Names word argument command)) ∧
      (∀ name,
        parse line = .connect (some name) ∨ parse line = .role name ∨ parse line = .send name →
          name ≠ "" ∧ trim name = name) ∧
      (parse line ≠ .none → parse (parse line).written = parse line) := by
  refine ⟨fun before after hBefore hAfter => parse_append_blanks hBefore hAfter line,
    fun text => parse_eq_send_iff, parse_of_blank, fun hSlash => ?_, fun name hName => ?_,
    fun hSome => parse_written (isRead_parse hSome)⟩
  · obtain ⟨word, rest, hSlashed⟩ := exists_slashed hSlash
    refine ⟨word, rest, argument? rest.toList, hSlashed, fun name => argument?_eq_some_iff, ?_, ?_⟩
    · intro command hSome
      rw [parse_of_slashed hSlashed, ofWord_eq_iff hSome]
    · rw [parse_of_slashed hSlashed, ofWord_eq_none_iff]
  · have hRead : parse line ≠ .none → (parse line).IsRead := isRead_parse
    rcases hName with hLine | hLine | hLine <;> rw [hLine] at hRead
    · exact hRead (by simp)
    · exact hRead (by simp)
    · exact ⟨(hRead (by simp)).1, (hRead (by simp)).2.1⟩

end ChatConsole.Command
