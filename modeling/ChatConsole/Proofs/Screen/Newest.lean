import Mathlib.Data.List.Basic
import ChatConsole.Proofs.Screen.Following

/-! # Whether the newest content is seen

The window of a pane is measured in lines, as many as the pane has rows, and then drawn from its top
with each line wrapped. The newest line is always the last one of the window; but its last row is
seen only if all rows of the window fit into the pane. One long line before it is enough to push it
out.
-/

namespace ChatConsole.Screen

/-! ## The last row -/

theorem getLast?_flatMap_of_ne_nil {α β : Type} {f : α → List β} (hf : ∀ a, f a ≠ [])
    (xs : List α) : (xs.flatMap f).getLast? = xs.getLast?.bind fun a => (f a).getLast? := by
  rcases List.eq_nil_or_concat xs with rfl | ⟨init, last, rfl⟩
  · rfl
  · rw [List.concat_eq_append, List.flatMap_append, List.flatMap_singleton,
      List.getLast?_append_of_ne_nil _ (hf last), List.getLast?_concat]
    rfl

theorem wrap_ne_nil (limit : Nat) (trim : Bool) (glyphs : List Glyph) :
    wrap limit trim glyphs ≠ [] := by
  have hFinish : ∀ rows : List (List Glyph), (if rows.isEmpty then [[]] else rows) ≠ [] := by
    intro rows
    cases rows <;> simp
  exact hFinish _

theorem getLast?_rowsOf (width : Nat) (trim : Bool) (lines : List Line) :
    (rowsOf width trim lines).getLast? =
      lines.getLast?.bind fun line => (wrap width trim line.glyphs).getLast? :=
  getLast?_flatMap_of_ne_nil (fun line : Line => wrap_ne_nil width trim line.glyphs) lines

theorem entryLines_ne_nil (entry : Entry) (label : AuthorLabel) : entryLines entry label ≠ [] := by
  unfold entryLines
  simp only
  split <;> exact List.cons_ne_nil _ _

theorem getLast?_lastOf {α : Type} {n : Nat} (h : 0 < n) (xs : List α) :
    (lastOf n xs).getLast? = xs.getLast? := by
  rw [lastOf, List.getLast?_drop]
  split
  · next hShort =>
    have hNil : xs = [] := List.length_eq_zero_iff.mp (by omega)
    rw [hNil]
    rfl
  · rfl

/-! ## The newest item -/

/-- The rows of the newest entry of the transcript. -/
def newestEntryRows (width : Nat) (s : Session) : List (List Glyph) :=
  rowsOf width false <|
    s.transcript.last?.toList.flatMap fun entry => entryLines entry (s.label entry.origin)

/-- The rows of the newest line of the activity log. -/
def newestLineRows (width : Nat) (s : Session) : List (List Glyph) :=
  rowsOf width true (s.activity.last?.toList.map fun line => [⟨line.shown, .ink .gray⟩])

/-- The window of a view that is not scrolled back ends with the newest entry. -/
theorem getLast?_transcriptWindow {visible width : Nat} (hVisible : 0 < visible) {c : Console}
    (hOffset : c.offset = 0) {last : List Glyph}
    (hLast : (newestEntryRows width c.session).getLast? = some last) :
    (rowsOf width false (transcriptWindow visible c)).getLast? = some last := by
  have hNonempty : ∀ entry : Entry, entryLines entry (c.session.label entry.origin) ≠ [] :=
    fun entry => entryLines_ne_nil entry _
  have hLines : (transcriptLines c.session).getLast? =
      (c.session.transcript.last?.toList.flatMap fun entry =>
        entryLines entry (c.session.label entry.origin)).getLast? := by
    rw [transcriptLines, getLast?_flatMap_of_ne_nil hNonempty, getLast?_flatMap_of_ne_nil hNonempty]
    show _ = (Option.toList c.session.transcript.last?).getLast?.bind _
    rw [Retained.last?]
    cases c.session.transcript.entries.getLast? <;> rfl
  rw [newestEntryRows, getLast?_rowsOf, ← hLines] at hLast
  have hShown : shownLines c.session = transcriptLines c.session := by
    unfold shownLines
    split
    · next hEmpty =>
      rw [List.isEmpty_iff.mp hEmpty] at hLast
      cases hLast
    · rfl
  rw [getLast?_rowsOf, transcriptWindow, hShown, hOffset, windowStart_zero, ← lastOf,
    getLast?_lastOf hVisible, hLast]

theorem getLast?_activityWindow {visible width : Nat} (hVisible : 0 < visible) {s : Session}
    {last : List Glyph} (hLast : (newestLineRows width s).getLast? = some last) :
    (rowsOf width true (activityWindow visible s)).getLast? = some last := by
  rw [newestLineRows, getLast?_rowsOf, List.getLast?_map] at hLast
  rw [getLast?_rowsOf, activityWindow, List.getLast?_map, getLast?_lastOf hVisible, ← hLast,
    Retained.last?]
  cases s.activity.entries.getLast? <;> rfl

/-! ## What is seen of it -/

/-- A pane of the given size is filled from its top with the rows of these lines, of which `last` is
the last one. -/
structure FilledFromTop (view : Picture) (width height : Nat) (trim : Bool) (lines : List Line)
    (last : List Glyph) : Prop where
  last_row : (rowsOf width trim lines).getLast? = some last
  /-- The last row is seen if all rows fit, -/
  seen : (rowsOf width trim lines).length ≤ height →
    view[(rowsOf width trim lines).length - 1]? = some (drawn width last)
  /-- as they do if no line is wrapped, -/
  fits : (∀ line ∈ lines, (wrap width trim line.glyphs).length = 1) →
    (rowsOf width trim lines).length ≤ height
  /-- and what is seen otherwise are rows before it. -/
  unseen : height < (rowsOf width trim lines).length →
    view = ((rowsOf width trim lines).dropLast.take height).map (drawn width)

theorem length_rowsOf_of_unwrapped {width : Nat} {trim : Bool} {lines : List Line}
    (h : ∀ line ∈ lines, (wrap width trim line.glyphs).length = 1) :
    (rowsOf width trim lines).length = lines.length := by
  unfold rowsOf
  induction lines with
  | nil => rfl
  | cons line lines ih =>
    rw [List.flatMap_cons, List.length_append, h line List.mem_cons_self,
      ih fun line hLine => h line (List.mem_cons_of_mem _ hLine), List.length_cons, Nat.add_comm]

theorem filledFromTop {view : Picture} {width height : Nat} {trim : Bool} {lines : List Line}
    {last : List Glyph} (hHeight : view.length ≤ height)
    (hView : ∀ i, i < height →
      view[i]? = some (drawn width ((rowsOf width trim lines)[i]?.getD [])))
    (hLines : lines.length ≤ height) (hLast : (rowsOf width trim lines).getLast? = some last) :
    FilledFromTop view width height trim lines last where
  last_row := hLast
  seen := fun hFits => by
    have hSome : 0 < (rowsOf width trim lines).length := by
      cases hRows : rowsOf width trim lines with
      | nil =>
        rw [hRows] at hLast
        cases hLast
      | cons row rows => exact Nat.succ_pos _
    rw [hView _ (by omega), ← List.getLast?_eq_getElem?, hLast]
    rfl
  fits := fun hUnwrapped => by rwa [length_rowsOf_of_unwrapped hUnwrapped]
  unseen := fun hOverflow => by
    refine List.ext_getElem? fun i => ?_
    rw [List.getElem?_map]
    by_cases hi : i < height
    · rw [hView i hi, List.getElem?_take_of_lt hi, List.getElem?_dropLast, if_pos (by omega),
        List.getElem?_eq_getElem (by omega)]
      rfl
    · rw [List.getElem?_eq_none (by omega), List.getElem?_take_eq_none (by omega)]
      rfl

theorem length_transcriptView (width height : Nat) (p : Picture) :
    (transcriptView width height p).length ≤ mainHeight height - 2 := by
  simp only [transcriptView, part, List.length_map, List.length_take]
  omega

theorem length_activityView (width height : Nat) (p : Picture) :
    (activityView width height p).length ≤ mainHeight height - 2 := by
  simp only [activityView, part, List.length_map, List.length_take]
  omega

theorem length_lastOf_le {α : Type} (n : Nat) (xs : List α) : (lastOf n xs).length ≤ n := by
  rw [lastOf, List.length_drop]
  omega

variable {width height : Nat} {c : Console} {last : List Glyph}

theorem filledFromTop_transcriptView (now : Time.Instant) (hOffset : c.offset = 0)
    (hMode : c.mode ≠ .help) (hVisible : 0 < mainHeight height - 2)
    (hWidth : 0 < leftWidth width - 2)
    (hLast : (newestEntryRows (leftWidth width - 2) c.session).getLast? = some last) :
    FilledFromTop (transcriptView width height (render width height now c)) (leftWidth width - 2)
      (mainHeight height - 2) false (transcriptWindow (mainHeight height - 2) c) last := by
  refine filledFromTop (length_transcriptView _ _ _)
    (fun i hi => getElem?_transcriptView now hMode (by omega) hi) ?_
    (getLast?_transcriptWindow hVisible hOffset hLast)
  rw [transcriptWindow, hOffset, windowStart_zero, ← lastOf]
  exact length_lastOf_le _ _

theorem filledFromTop_activityView (now : Time.Instant) (hVisible : 0 < mainHeight height - 2)
    (hWidth : 0 < width - leftWidth width - 2)
    (hLast : (newestLineRows (width - leftWidth width - 2) c.session).getLast? = some last) :
    FilledFromTop (activityView width height (render width height now c))
      (width - leftWidth width - 2) (mainHeight height - 2) true
      (activityWindow (mainHeight height - 2) c.session) last := by
  refine filledFromTop (length_activityView _ _ _)
    (fun i hi => getElem?_activityView now c (by omega) hi) ?_
    (getLast?_activityWindow hVisible hLast)
  rw [activityWindow, List.length_map]
  exact length_lastOf_le _ _

/-- **What is seen of the newest content.** On a screen on which the panes have room inside their
frames, the transcript of a console that follows it, and the activity log of any console, are filled
from the top with the rows of the last lines: the newest row is seen if all these rows fit, in
particular if none of the lines is wrapped, and not seen otherwise. -/
theorem newest_content_of_render (settings : Session.Settings) (role : Role) (gateway : Gateway)
    (acts : List Console.Timed) (width height : Nat) (now : Time.Instant) :
    let c := (Console.start settings role gateway).run acts
    let p := render width height now c
    let visible := mainHeight height - 2
    let left := leftWidth width - 2
    let right := width - leftWidth width - 2
    0 < visible →
      (c.following → c.mode ≠ .help → 0 < left →
        ∀ last, (newestEntryRows left c.session).getLast? = some last →
          FilledFromTop (transcriptView width height p) left visible false
            (transcriptWindow visible c) last) ∧
      (0 < right → ∀ last, (newestLineRows right c.session).getLast? = some last →
        FilledFromTop (activityView width height p) right visible true
          (activityWindow visible c.session) last) := by
  intro c p visible left right hVisible
  constructor
  · intro hFollowing hMode hLeft last hLast
    have hOffset : c.offset = 0 :=
      (Console.anchored_start settings role gateway).run acts hFollowing
    exact filledFromTop_transcriptView now hOffset hMode hVisible hLeft hLast
  · intro hRight last hLast
    exact filledFromTop_activityView now hVisible hRight hLast

/-- A command is entered before anything is connected, and then a channel is opened. -/
def hasty : List Console.Timed :=
  [ (.zero, .edit "status"), (.zero, .press .enter),
    (.zero, .edit "/connect"), (.zero, .press .enter),
    (.zero, .session (.emit (.opened ⟨1⟩))), (.zero, .tick) ]

/-- On a screen of 24 rows the newest entry is seen below the two rows of the one before it. -/
theorem newest_content_of_render_high :
    let c := (Console.start { endpoint := "ws://[::1]" } .client { policy := .accept }).run hasty
    0 < mainHeight 24 - 2 ∧ c.following ∧ c.mode ≠ .help ∧ 0 < leftWidth 76 - 2 ∧
      ∀ last, (newestEntryRows (leftWidth 76 - 2) c.session).getLast? = some last →
        (transcriptView 76 24 (render 76 24 .zero c))[2]? =
          some (drawn (leftWidth 76 - 2) last) := by
  intro c
  have hVisible : 0 < mainHeight 24 - 2 := by decide
  have hWidth : 0 < leftWidth 76 - 2 := by decide
  have hFollowing : c.following := by decide +kernel
  have hMode : c.mode ≠ .help := by decide +kernel
  refine ⟨hVisible, hFollowing, hMode, hWidth, fun last hLast => ?_⟩
  have hFilled := (newest_content_of_render { endpoint := "ws://[::1]" } .client
    { policy := .accept } hasty 76 24 .zero hVisible).1 hFollowing hMode hWidth last hLast
  have hRows : (rowsOf (leftWidth 76 - 2) false
      (transcriptWindow (mainHeight 24 - 2) c)).length = 3 := by
    decide +kernel
  have hSeen := hFilled.seen (by rw [hRows]; decide)
  rwa [hRows] at hSeen

/-- On a screen of 8 rows neither is the newest entry seen, which takes one row, nor the end of the
newest line of the activity log, which takes two, although both panes have two rows. -/
theorem newest_content_hidden :
    let c := (Console.start { endpoint := "ws://[::1]" } .client { policy := .accept }).run hasty
    let p := render 76 8 .zero c
    let visible := mainHeight 8 - 2
    let left := leftWidth 76 - 2
    let right := 76 - leftWidth 76 - 2
    (c.following ∧ c.mode ≠ .help) ∧
      (visible = 2 ∧ (newestEntryRows left c.session).length = 1 ∧
        (newestLineRows right c.session).length = 2) ∧
      (∀ last ∈ (newestEntryRows left c.session).getLast?,
        drawn left last ∉ transcriptView 76 8 p) ∧
      ∀ last ∈ (newestLineRows right c.session).getLast?,
        drawn right last ∉ activityView 76 8 p := by
  intro c p visible left right
  have hMode : c.mode ≠ .help := by decide +kernel
  refine ⟨⟨by decide +kernel, hMode⟩, ⟨rfl, by decide +kernel, by decide +kernel⟩, ?_, ?_⟩
  · intro last hLast
    have hFilled : FilledFromTop (transcriptView 76 8 p) left visible false
        (transcriptWindow visible c) last :=
      filledFromTop_transcriptView .zero (by decide +kernel) hMode (by decide) (by decide) hLast
    have hBefore : ∀ last ∈ (newestEntryRows left c.session).getLast?, drawn left last ∉
        ((rowsOf left false (transcriptWindow visible c)).dropLast.take visible).map
          (drawn left) := by
      decide +kernel
    rw [hFilled.unseen (by decide +kernel)]
    exact hBefore last hLast
  · intro last hLast
    have hFilled : FilledFromTop (activityView 76 8 p) right visible true
        (activityWindow visible c.session) last :=
      filledFromTop_activityView .zero (by decide) (by decide) hLast
    have hBefore : ∀ last ∈ (newestLineRows right c.session).getLast?, drawn right last ∉
        ((rowsOf right true (activityWindow visible c.session)).dropLast.take visible).map
          (drawn right) := by
      decide +kernel
    rw [hFilled.unseen (by decide +kernel)]
    exact hBefore last hLast

end ChatConsole.Screen
