import ChatConsole.Proofs.Text.Pieces
import ChatConsole.Proofs.Text.Trim
import ChatConsole.Screen.View

/-! # The lines of the transcript

An entry has a line for each line of its body, and together they show all of it but the carriage
returns at the ends of lines. Who the author is to the reader stands in a single span: another
identity of the reader gives the same lines with other spans in the place of that one, and only for
entries of which one of the two identities is the author.
-/

namespace ChatConsole

/-! ## Bodies -/

namespace Entry

variable (entry : Entry)

theorem length_bodyLines : entry.bodyLines.length = entry.body.toList.count '\n' + 1 := by
  rw [bodyLines, List.length_map, Text.length_splitAt]

theorem exists_bodyLines : ∃ first rest, entry.bodyLines = first :: rest := by
  refine List.exists_cons_of_ne_nil fun hNil => ?_
  have hLength := entry.length_bodyLines
  rw [hNil] at hLength
  cases hLength

variable {entry}

theorem notMem_of_mem_bodyLines {line : String} (h : line ∈ entry.bodyLines) :
    '\n' ∉ line.toList := by
  obtain ⟨piece, hPiece, rfl⟩ := List.mem_map.mp h
  rw [String.toList_ofList]
  intro hMem
  exact Text.notMem_of_mem_splitAt hPiece ((Text.dropEnd_prefix _ piece).subset hMem)

/-- The lines of a body with breaks between them are the body without carriage returns at the ends
of lines. -/
theorem intercalate_bodyLines (entry : Entry) :
    "\n".intercalate entry.bodyLines =
      String.ofList (Text.withoutReturns entry.body.toList) := by
  have hPieces : entry.bodyLines.map String.toList =
      (Text.splitAt '\n' entry.body.toList).map (Text.dropEnd (· == '\r')) := by
    rw [bodyLines, List.map_map]
    exact List.map_congr_left fun piece _ => String.toList_ofList
  have hText := Text.intercalate_dropEnd_splitAt entry.body.toList
  rw [← hPieces] at hText
  apply String.toList_inj.mp
  rw [String.toList_intercalate]
  exact hText.trans String.toList_ofList.symm

end Entry

namespace Screen

/-! ## Lines of an entry -/

/-- The span that names the author. -/
def labelSpan (label : AuthorLabel) : Span :=
  ⟨label.text ++ ": ", { foreground := some (labelColor label), bold := true }⟩

/-- The first line of an entry: time, author and the first line of the body. -/
def headLine (entry : Entry) (label : AuthorLabel) (first : String) : Line :=
  [ ⟨"[" ++ entry.createdAt.clockText ++ "] ", .ink .darkGray⟩, labelSpan label,
    ⟨first, .ink (categoryColor entry.category)⟩ ]

/-- A further line of an entry, with four spaces in front. -/
def laterLine (entry : Entry) (line : String) : Line :=
  [⟨"    " ++ line, .ink (categoryColor entry.category)⟩]

theorem entryLines_eq {entry : Entry} {first : String} {rest : List String}
    (h : entry.bodyLines = first :: rest) (label : AuthorLabel) :
    entryLines entry label = headLine entry label first :: rest.map (laterLine entry) := by
  unfold entryLines
  simp only
  rw [h]
  rfl

theorem length_entryLines (entry : Entry) (label : AuthorLabel) :
    (entryLines entry label).length = entry.body.toList.count '\n' + 1 := by
  obtain ⟨first, rest, hBody⟩ := entry.exists_bodyLines
  rw [entryLines_eq hBody, ← entry.length_bodyLines, hBody, List.length_cons, List.length_cons,
    List.length_map]

/-! ## Other readers -/

/-- The lines of an entry with another author's name in the first one. -/
def relabelled (label : AuthorLabel) (lines : List Line) : List Line :=
  lines.modifyHead fun line => line.set 1 (labelSpan label)

theorem entryLines_relabelled (entry : Entry) (label label' : AuthorLabel) :
    entryLines entry label' = relabelled label' (entryLines entry label) := by
  obtain ⟨first, rest, hBody⟩ := entry.exists_bodyLines
  rw [entryLines_eq hBody, entryLines_eq hBody]
  rfl

/-- Whether one of two readers is the author. -/
def Concerns (entry : Entry) (identity identity' : Option String) : Prop :=
  identity = some entry.origin ∨ identity' = some entry.origin

instance (entry : Entry) (identity identity' : Option String) :
    Decidable (Concerns entry identity identity') := inferInstanceAs (Decidable (_ ∨ _))

/-- To two readers neither of whom is the author, the author is the same. -/
theorem resolve_eq_of_not_concerns {entry : Entry} {identity identity' : Option String}
    (h : ¬ Concerns entry identity identity') :
    AuthorLabel.resolve entry.origin identity' = AuthorLabel.resolve entry.origin identity := by
  unfold AuthorLabel.resolve
  rw [if_neg fun hSame : identity' = some entry.origin => h (Or.inr hSame),
    if_neg fun hSame : identity = some entry.origin => h (Or.inl hSame)]

theorem resolve_of_author {origin : String} (h : origin ≠ systemOrigin) :
    AuthorLabel.resolve origin (some origin) = .you := by
  rw [AuthorLabel.resolve, if_neg h, if_pos rfl]

theorem resolve_of_other {origin : String} {identity : Option String} (h : origin ≠ systemOrigin)
    (hOther : identity ≠ some origin) : AuthorLabel.resolve origin identity = .peer origin := by
  rw [AuthorLabel.resolve, if_neg h, if_neg hOther]

/-- Nobody is shown to others as to himself, whatever he is called. -/
theorem labelSpan_you_ne (name : String) : labelSpan .you ≠ labelSpan (.peer name) := by
  intro h
  have hStyle := congrArg Span.style h
  simp [labelSpan, labelColor] at hStyle

theorem labelSpan_ne_of_concerns {entry : Entry} {identity identity' : Option String}
    (hIdentity : identity ≠ identity') (h : Concerns entry identity identity')
    (hAuthor : entry.origin ≠ systemOrigin) :
    labelSpan (AuthorLabel.resolve entry.origin identity) ≠
      labelSpan (AuthorLabel.resolve entry.origin identity') := by
  rcases h with rfl | rfl
  · rw [resolve_of_author hAuthor, resolve_of_other hAuthor hIdentity.symm]
    exact labelSpan_you_ne _
  · rw [resolve_of_author hAuthor, resolve_of_other hAuthor hIdentity]
    exact (labelSpan_you_ne _).symm

theorem entryLines_of_reader (entry : Entry) (identity identity' : Option String) :
    entryLines entry (.resolve entry.origin identity') =
      if Concerns entry identity identity' then
        relabelled (.resolve entry.origin identity')
          (entryLines entry (.resolve entry.origin identity))
      else entryLines entry (.resolve entry.origin identity) := by
  split
  · exact entryLines_relabelled entry _ _
  · next hOther => rw [resolve_eq_of_not_concerns hOther]

/-- **The transcript shows all of every body.** An entry has one line more than its body has breaks:
the first one with the time, the author and the first line of the body, the others indented. No line
of a body holds a break, and with breaks between them they are the body without the carriage returns
at the ends of lines. The lines of the transcript are those of its entries, in order, with the names
that the present identity gives. With another identity they are the same lines, but for the spans of
the authors that are one of the two identities, which do differ. -/
theorem lines_of_transcript :
    (∀ (entry : Entry) (label : AuthorLabel),
        (entryLines entry label).length = entry.body.toList.count '\n' + 1 ∧
        (∃ first rest, entry.bodyLines = first :: rest ∧
          entryLines entry label = headLine entry label first :: rest.map (laterLine entry)) ∧
        (∀ line ∈ entry.bodyLines, '\n' ∉ line.toList) ∧
        "\n".intercalate entry.bodyLines =
          String.ofList (Text.withoutReturns entry.body.toList)) ∧
      (∀ c : Console, transcriptLines c.session =
        (c.session.transcript.entries.map fun entry =>
          entryLines entry (.resolve entry.origin c.session.core.identity)).flatten) ∧
      ∀ c c' : Console, c'.session.transcript = c.session.transcript →
        (transcriptLines c'.session =
          (c.session.transcript.entries.map fun entry =>
            if Concerns entry c.session.core.identity c'.session.core.identity then
              relabelled (c'.session.label entry.origin)
                (entryLines entry (c.session.label entry.origin))
            else entryLines entry (c.session.label entry.origin)).flatten) ∧
        (c.session.core.identity ≠ c'.session.core.identity →
          ∀ entry ∈ c.session.transcript.entries,
            Concerns entry c.session.core.identity c'.session.core.identity →
            entry.origin ≠ systemOrigin →
            labelSpan (c.session.label entry.origin) ≠
              labelSpan (c'.session.label entry.origin)) := by
  refine ⟨fun entry label => ⟨length_entryLines entry label, ?_,
    fun _ => Entry.notMem_of_mem_bodyLines, entry.intercalate_bodyLines⟩, fun c => ?_,
    fun c c' hSame => ⟨?_, fun hIdentity entry _ hConcerns hAuthor =>
      labelSpan_ne_of_concerns hIdentity hConcerns hAuthor⟩⟩
  · obtain ⟨first, rest, hBody⟩ := entry.exists_bodyLines
    exact ⟨first, rest, hBody, entryLines_eq hBody label⟩
  · exact List.flatMap_def
  · rw [transcriptLines, hSame, List.flatMap_def]
    exact congrArg List.flatten <|
      List.map_congr_left fun entry _ => entryLines_of_reader entry _ _

/-- The same transcript read by the author of its entry and by somebody who is not named yet. -/
theorem lines_of_transcript_read_by_author :
    let session (identity : Option String) : Session :=
      { Session.start {} .client {} with
        core := { role := .client, identity }
        transcript := (Retained.empty 5).append ⟨.commandSent, "ada", "a\r\nb\r", .zero⟩ }
    let c : Console := { session := session (some "ada") }
    let c' : Console := { session := session none }
    let ink := Style.ink .cyan
    c'.session.transcript = c.session.transcript ∧
      transcriptLines c.session =
        [ [⟨"[00:00:00] ", .ink .darkGray⟩, labelSpan .you, ⟨"a", ink⟩], [⟨"    b", ink⟩] ] ∧
      transcriptLines c'.session =
        [ [⟨"[00:00:00] ", .ink .darkGray⟩, labelSpan (.peer "ada"), ⟨"a", ink⟩],
          [⟨"    b", ink⟩] ] := by
  intro session c c' ink
  have hSame : c'.session.transcript = c.session.transcript := rfl
  have hLines : transcriptLines c.session =
      [ [⟨"[00:00:00] ", .ink .darkGray⟩, labelSpan .you, ⟨"a", ink⟩], [⟨"    b", ink⟩] ] := by
    decide +kernel
  have hOther : transcriptLines c'.session =
      relabelled (c'.session.label "ada") (transcriptLines c.session) :=
    (lines_of_transcript.2.2 c c' hSame).1.trans (by decide +kernel)
  refine ⟨hSame, hLines, ?_⟩
  rw [hOther, hLines]
  rfl

end Screen

end ChatConsole
