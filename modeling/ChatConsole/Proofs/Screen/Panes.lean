import ChatConsole.Screen.View

/-! # The panes of the screen

Pictures are described row by row through `getElem?`. The frame around a pane takes one cell on each
side, so what stands inside the frame on the screen is what was drawn in the pane: the cell in front
of it is a piece of the frame, which hides nothing.
-/

namespace ChatConsole

namespace Text

theorem charColumns_le_one {c : Char} (h : c.toNat ≠ 0x115F)
    (hNarrow : doubleWidth.contains c = false) : charColumns c ≤ 1 := by
  unfold charColumns farColumns
  simp only [if_neg h, hNarrow]
  repeat' split
  all_goals simp_all

theorem charColumns_upright : charColumns '│' ≤ 1 := by
  refine charColumns_le_one (by decide) ?_
  -- the lines of the table are turned into lists here, which evaluation takes far longer for
  unfold doubleWidth CodeRanges.ofLines CodeTable.ofLines
  simp only [List.flatMap_cons, List.flatMap_nil]
  repeat rw [String.toList_ofList]
  decide +kernel

end Text

namespace Screen

/-! ## Rows -/

/-- A cell as it appears after another one. -/
def covered (before cell : Cell) : Cell :=
  if 1 < Text.columns before.symbol then Cell.blank else cell

theorem covered_of_narrow {before : Cell} (h : Text.columns before.symbol ≤ 1) (cell : Cell) :
    covered before cell = cell := if_neg (Nat.not_lt.mpr h)

theorem columns_blank : Text.columns Cell.blank.symbol ≤ 1 := by decide

/-- Nothing is hidden at the left end of a row. -/
theorem uncover_eq (row : Row) : uncover row = List.zipWith covered (Cell.blank :: row) row := by
  cases row with
  | nil => rfl
  | cons cell rest =>
    rw [List.zipWith_cons_cons, covered_of_narrow columns_blank]
    rfl

/-- Nothing is hidden behind a narrow cell. -/
theorem zipWith_covered {before : Cell} (h : Text.columns before.symbol ≤ 1) (row : Row) :
    List.zipWith covered (before :: row) row = uncover row := by
  rw [uncover_eq]
  cases row with
  | nil => rfl
  | cons cell rest =>
    rw [List.zipWith_cons_cons, List.zipWith_cons_cons, covered_of_narrow h,
      covered_of_narrow columns_blank]

/-- What appears in a stretch of a row does not depend on what follows. -/
theorem take_zipWith_covered (before : Cell) (inner back : Row) :
    (List.zipWith covered (before :: (inner ++ back)) (inner ++ back)).take inner.length =
      List.zipWith covered (before :: inner) inner := by
  induction inner generalizing before with
  | nil => rfl
  | cons cell inner ih =>
    rw [List.cons_append, List.zipWith_cons_cons, List.length_cons, List.take_succ_cons, ih]
    rfl

/-- The cells after a narrow one appear as they would without those before them. -/
theorem uncover_append (front : Row) {edge : Cell} (h : Text.columns edge.symbol ≤ 1)
    (inner back : Row) :
    ((uncover (front ++ edge :: (inner ++ back))).drop (front.length + 1)).take inner.length =
      uncover inner := by
  have hDrop : (Cell.blank :: (front ++ edge :: (inner ++ back))).drop (front.length + 1) =
      edge :: (inner ++ back) := by
    rw [List.drop_succ_cons, List.drop_left]
  have hRest : (front ++ edge :: (inner ++ back)).drop (front.length + 1) = inner ++ back := by
    rw [List.append_cons, List.drop_left' (by simp)]
  rw [uncover_eq, List.drop_zipWith, hDrop, hRest, take_zipWith_covered, zipWith_covered h]

theorem length_rowOf (width : Nat) (glyphs : List Glyph) : (rowOf width glyphs).length = width := by
  simp only [rowOf, List.length_take, List.length_append, List.length_replicate]
  omega

/-- A row of glyphs as it appears. -/
def drawn (width : Nat) (glyphs : List Glyph) : Row := uncover (rowOf width glyphs)

/-! ## Panes -/

theorem getElem?_pane (width height : Nat) (rows : List (List Glyph)) (i : Nat) :
    (pane width height rows)[i]? =
      if i < height then some (rowOf width (rows[i]?.getD [])) else none := by
  unfold pane
  simp only [List.length_map, List.length_take]
  by_cases hShown : i < min height rows.length
  · have hRow : i < rows.length := by omega
    rw [List.getElem?_append_left (by rwa [List.length_map, List.length_take]), if_pos (by omega),
      List.getElem?_map, List.getElem?_take_of_lt (by omega), List.getElem?_eq_getElem hRow]
    rfl
  · rw [List.getElem?_append_right (by rw [List.length_map, List.length_take]; omega),
      List.getElem?_replicate, List.length_map, List.length_take]
    by_cases hHeight : i < height
    · rw [if_pos (by omega), if_pos hHeight, List.getElem?_eq_none (by omega), Option.getD_none]
    · rw [if_neg (by omega), if_neg hHeight]

theorem length_pane (width height : Nat) (rows : List (List Glyph)) :
    (pane width height rows).length = height := by
  simp only [pane, List.length_append, List.length_map, List.length_take, List.length_replicate]
  omega

/-- A piece of a frame. -/
def edge (style : Style) (c : Char) : Cell := ⟨[c], style⟩

theorem columns_edge (style : Style) : Text.columns (edge style '│').symbol ≤ 1 :=
  Text.charColumns_upright

/-- Inside a frame is what was framed. -/
theorem getElem?_framed (width : Nat) {height : Nat} (style : Style) (title : String)
    {inner : Picture} (hInner : inner.length = height - 2) {i : Nat} (hi : i < height - 2) :
    (framed width height style title inner)[i + 1]? =
      inner[i]?.map fun row => (edge style '│' :: row ++ [edge style '│']).take width := by
  unfold framed
  simp only
  rw [List.getElem?_map, List.getElem?_take_of_lt (by omega), List.cons_append,
    List.getElem?_cons_succ, List.getElem?_append_left (by simp [hInner]; omega),
    List.getElem?_take_of_lt hi, List.getElem?_map, Option.map_map]
  rfl

/-- A row of a pane in its frame. -/
def framedRow (width : Nat) (style : Style) (glyphs : List Glyph) : Row :=
  (edge style '│' :: rowOf (width - 2) glyphs ++ [edge style '│']).take width

theorem getElem?_framed_pane (width : Nat) {height : Nat} (style : Style) (title : String)
    (rows : List (List Glyph)) {i : Nat} (hi : i < height - 2) :
    (framed width height style title (pane (width - 2) (height - 2) rows))[i + 1]? =
      some (framedRow width style (rows[i]?.getD [])) := by
  rw [getElem?_framed width style title (length_pane _ _ _) hi, getElem?_pane, if_pos hi]
  rfl

theorem length_framedRow (width : Nat) (style : Style) (glyphs : List Glyph) :
    (framedRow width style glyphs).length = width := by
  simp only [framedRow, List.length_take, List.length_append, List.length_cons, List.length_nil,
    length_rowOf]
  omega

/-- What is seen inside the frame, wherever on the screen the pane stands. -/
theorem framedRow_inside {width : Nat} (hWidth : 2 ≤ width) (style : Style) (glyphs : List Glyph)
    (front back : Row) :
    ((uncover (front ++ (framedRow width style glyphs ++ back))).drop (front.length + 1)).take
      (width - 2) = drawn (width - 2) glyphs := by
  have hLength := length_rowOf (width - 2) glyphs
  have hRow : framedRow width style glyphs =
      edge style '│' :: (rowOf (width - 2) glyphs ++ [edge style '│']) :=
    List.take_of_length_le (by simp only [List.cons_append, List.length_cons, List.length_append,
      List.length_nil, hLength]; omega)
  have hInside := uncover_append front (columns_edge style) (rowOf (width - 2) glyphs)
    (edge style '│' :: back)
  rw [hLength] at hInside
  rw [hRow, List.cons_append, List.append_assoc, List.singleton_append]
  exact hInside

/-! ## The screen -/

/-- The height of the panes in the middle of the screen. -/
def mainHeight (height : Nat) : Nat := height - min 1 height - min 3 (height - min 1 height)

/-- The width of the transcript. -/
def leftWidth (width : Nat) : Nat := (7 * width + 5) / 10

/-- So many rows of a picture from `top` on, and of each so many cells from `left` on. -/
def part (top left height width : Nat) (p : Picture) : Picture :=
  ((p.drop top).take height).map fun row => (row.drop left).take width

theorem getElem?_part (top left width : Nat) (p : Picture) {height i : Nat} (hi : i < height) :
    (part top left height width p)[i]? = p[top + i]?.map fun row => (row.drop left).take width := by
  rw [part, List.getElem?_map, List.getElem?_take_of_lt hi, List.getElem?_drop]

/-- What is seen inside the frame of the transcript. -/
def transcriptView (width height : Nat) (p : Picture) : Picture :=
  part 2 1 (mainHeight height - 2) (leftWidth width - 2) p

/-- What is seen inside the frame of the activity log. -/
def activityView (width height : Nat) (p : Picture) : Picture :=
  part 2 (leftWidth width + 1) (mainHeight height - 2) (width - leftWidth width - 2) p

theorem getElem?_render {width height i : Nat} (now : Time.Instant) (c : Console)
    (hi : i < mainHeight height - 2) {left right : Row}
    (hLeft : (if c.mode = .help then helpPane (leftWidth width) (mainHeight height) c
      else transcriptPane (leftWidth width) (mainHeight height) c)[i + 1]? = some left)
    (hRight : (activityPane (width - leftWidth width) (mainHeight height) c)[i + 1]? = some right) :
    (render width height now c)[2 + i]? = some (uncover (left ++ right)) := by
  have hRender : render width height now c =
      (List.replicate (min 1 height) (statusRow width now c) ++
        beside (if c.mode = .help then helpPane (leftWidth width) (mainHeight height) c
          else transcriptPane (leftWidth width) (mainHeight height) c)
          (activityPane (width - leftWidth width) (mainHeight height) c) ++
        inputPane width (min 3 (height - min 1 height)) c).map uncover := rfl
  have hStatus : min 1 height = 1 := by
    unfold mainHeight at hi
    omega
  have hBeside : (beside (if c.mode = .help then helpPane (leftWidth width) (mainHeight height) c
      else transcriptPane (leftWidth width) (mainHeight height) c)
      (activityPane (width - leftWidth width) (mainHeight height) c))[i + 1]? =
        some (left ++ right) := by
    rw [beside, List.getElem?_zipWith, hLeft, hRight]
  rw [hRender, hStatus, List.getElem?_map, List.append_assoc, Nat.add_comm 2 i, List.replicate_one,
    List.singleton_append, List.getElem?_cons_succ,
    List.getElem?_append_left (List.getElem?_eq_some_iff.mp hBeside).1, hBeside]
  rfl

/-! ## What the panes show -/

/-- The rows that lines take. -/
def rowsOf (width : Nat) (trim : Bool) (lines : List Line) : List (List Glyph) :=
  lines.flatMap fun line => wrap width trim line.glyphs

theorem wrappedPane_eq {width height : Nat} (hWidth : 2 < width) (style : Style) (title : String)
    (trim : Bool) (lines : List Line) :
    wrappedPane width height style title trim lines =
      framed width height style title
        (pane (width - 2) (height - 2) (rowsOf (width - 2) trim lines)) := by
  unfold wrappedPane
  simp only [if_neg (by omega : width - 2 ≠ 0)]
  rfl

/-- The lines of the transcript, or else what stands in an empty one. -/
def shownLines (s : Session) : List Line :=
  if (transcriptLines s).isEmpty then emptyTranscript else transcriptLines s

/-- The window stands so many lines before the last one it can, as far as there are lines. -/
theorem windowStart_eq (total visible offset : Nat) :
    windowStart total visible offset = total - visible - offset := by
  unfold windowStart
  split <;> omega

/-- A view that is not scrolled back ends with the last line. -/
theorem windowStart_zero (total visible : Nat) : windowStart total visible 0 = total - visible :=
  windowStart_eq total visible 0

/-- The lines that the transcript is drawn from when so many are visible. -/
def transcriptWindow (visible : Nat) (c : Console) : List Line :=
  (shownLines c.session).drop (windowStart (shownLines c.session).length visible c.offset)

/-- The lines that the activity log is drawn from when so many are visible. -/
def activityWindow (visible : Nat) (s : Session) : List Line :=
  (lastOf visible s.activity.entries).map fun line => [⟨line.shown, .ink .gray⟩]

theorem transcriptPane_eq {width height : Nat} (hWidth : 2 < width) (c : Console) :
    transcriptPane width height c =
      framed width height {} (transcriptTitle c) (pane (width - 2) (height - 2)
        (rowsOf (width - 2) false (transcriptWindow (height - 2) c))) :=
  wrappedPane_eq hWidth _ _ _ _

theorem activityPane_eq {width height : Nat} (hWidth : 2 < width) (c : Console) :
    activityPane width height c =
      framed width height {} " Activity " (pane (width - 2) (height - 2)
        (rowsOf (width - 2) true (activityWindow (height - 2) c.session))) :=
  wrappedPane_eq hWidth _ _ _ _

/-- The row of a pane beside another one is as wide as the pane. -/
theorem exists_row_wrappedPane (width : Nat) {height : Nat} (style : Style) (title : String)
    (trim : Bool) (lines : List Line) {i : Nat} (hi : i < height - 2) :
    ∃ row, (wrappedPane width height style title trim lines)[i + 1]? = some row ∧
      row.length = width :=
  ⟨_, getElem?_framed_pane width style title _ hi, length_framedRow width style _⟩

theorem getElem?_transcriptView {width height : Nat} (now : Time.Instant) {c : Console}
    (hMode : c.mode ≠ .help) (hWidth : 2 < leftWidth width) {i : Nat}
    (hi : i < mainHeight height - 2) :
    (transcriptView width height (render width height now c))[i]? =
      some (drawn (leftWidth width - 2)
        ((rowsOf (leftWidth width - 2) false
          (transcriptWindow (mainHeight height - 2) c))[i]?.getD [])) := by
  have hLeft := getElem?_framed_pane (leftWidth width) {} (transcriptTitle c)
    (rowsOf (leftWidth width - 2) false (transcriptWindow (mainHeight height - 2) c)) hi
  rw [← transcriptPane_eq hWidth] at hLeft
  obtain ⟨right, hRight, -⟩ := exists_row_wrappedPane (width - leftWidth width) {} " Activity " true
    (activityWindow (mainHeight height - 2) c.session) hi
  rw [transcriptView, getElem?_part _ _ _ _ hi,
    getElem?_render now c hi (by rw [if_neg hMode]; exact hLeft) hRight, Option.map_some]
  exact congrArg some (framedRow_inside (by omega) _ _ [] right)

theorem getElem?_activityView {width height : Nat} (now : Time.Instant) (c : Console)
    (hWidth : 2 < width - leftWidth width) {i : Nat} (hi : i < mainHeight height - 2) :
    (activityView width height (render width height now c))[i]? =
      some (drawn (width - leftWidth width - 2)
        ((rowsOf (width - leftWidth width - 2) true
          (activityWindow (mainHeight height - 2) c.session))[i]?.getD [])) := by
  have hRight := getElem?_framed_pane (width - leftWidth width) {} " Activity "
    (rowsOf (width - leftWidth width - 2) true
      (activityWindow (mainHeight height - 2) c.session)) hi
  rw [← activityPane_eq hWidth] at hRight
  obtain ⟨left, hLeft, hLength⟩ : ∃ left,
      (if c.mode = .help then helpPane (leftWidth width) (mainHeight height) c
        else transcriptPane (leftWidth width) (mainHeight height) c)[i + 1]? = some left ∧
      left.length = leftWidth width := by
    split
    · exact exists_row_wrappedPane _ _ _ _ _ hi
    · exact exists_row_wrappedPane _ _ _ _ _ hi
  rw [activityView, getElem?_part _ _ _ _ hi, getElem?_render now c hi hLeft hRight,
    Option.map_some]
  have hInside := framedRow_inside (show 2 ≤ width - leftWidth width by omega) {}
    ((rowsOf (width - leftWidth width - 2) true
      (activityWindow (mainHeight height - 2) c.session))[i]?.getD []) left []
  rw [List.append_nil, hLength] at hInside
  exact congrArg some hInside

end Screen

end ChatConsole
