import ChatConsole.Proofs.Console.Inputs
import ChatConsole.Proofs.Screen.Panes

/-! # Scrolling the transcript

The keys that scroll count lines back from the end of the transcript, and the count is cut down to
what there is only when the window is drawn. So a view stands where its window starts, and beyond
that it remembers how many lines it was scrolled back past the first one. A `Position` is both; each
key moves it (`position_press`), and so do all keys of a run (`position_run`).

Scrolling back, or to the end, moves the window as far as there are lines. Scrolling forth does so,
too, once the lines beyond the first one are used up.
-/

namespace ChatConsole.Screen

/-- What a key asks of the view. -/
inductive Motion
  | back (n : Nat)
  | forth (n : Nat)
  | toEnd
  deriving DecidableEq, Repr

/-- What the keys that scroll ask. -/
def motion? : Key → Option Motion
  | .up => some (.back 1)
  | .down => some (.forth 1)
  | .pageUp => some (.back 10)
  | .pageDown => some (.forth 10)
  | .home => some (.back 1000)
  | .endKey => some .toEnd
  | _ => none

/-- Where a view stands. -/
structure Position where
  /-- The line at which its window starts. -/
  start : Nat
  /-- How many lines it was scrolled back past the first one. -/
  excess : Nat
  deriving DecidableEq, Repr

/-- The position after a motion, where a window starts at line `last` at most. -/
def Position.move (last : Nat) (p : Position) : Motion → Position
  | .back n => ⟨p.start - n, min (p.excess + (n - p.start)) (Console.maxOffset - last)⟩
  | .forth n => ⟨min (p.start + (n - p.excess)) last, p.excess - n⟩
  | .toEnd => ⟨last, 0⟩

/-- The last line at which a window of so many lines can start. -/
def lastStart (visible : Nat) (s : Session) : Nat := (shownLines s).length - visible

/-- The position of the view through a window of so many lines. -/
def position (visible : Nat) (c : Console) : Position where
  start := windowStart (shownLines c.session).length visible c.offset
  excess := c.offset - lastStart visible c.session

variable {visible : Nat} {c : Console}

theorem position_eq (visible : Nat) (c : Console) :
    position visible c =
      ⟨lastStart visible c.session - c.offset, c.offset - lastStart visible c.session⟩ :=
  congrArg (Position.mk · _) (windowStart_eq _ _ _)

theorem position_start_le (visible : Nat) (c : Console) :
    (position visible c).start ≤ lastStart visible c.session := by
  rw [position_eq]
  exact Nat.sub_le _ _

/-- Only a view of the first line remembers more. -/
theorem start_eq_zero_of_excess (h : (position visible c).excess ≠ 0) :
    (position visible c).start = 0 := by
  have hPast : c.offset - lastStart visible c.session ≠ 0 := h
  rw [position_eq]
  show lastStart visible c.session - c.offset = 0
  omega

/-! ## One key -/

theorem position_scrollUp (h : lastStart visible c.session ≤ Console.maxOffset) (n : Nat) :
    position visible (c.scrollUp n) =
      (position visible c).move (lastStart visible c.session) (.back n) := by
  have hAfter : position visible (c.scrollUp n) =
      ⟨lastStart visible c.session - min (c.offset + n) Console.maxOffset,
        min (c.offset + n) Console.maxOffset - lastStart visible c.session⟩ :=
    position_eq visible (c.scrollUp n)
  rw [hAfter, position_eq]
  simp only [Position.move, Position.mk.injEq]
  omega

theorem position_scrollDown (n : Nat) :
    position visible (c.scrollDown n) =
      (position visible c).move (lastStart visible c.session) (.forth n) := by
  have hAfter : position visible (c.scrollDown n) =
      ⟨lastStart visible c.session - (c.offset - n),
        c.offset - n - lastStart visible c.session⟩ :=
    position_eq visible (c.scrollDown n)
  rw [hAfter, position_eq]
  simp only [Position.move, Position.mk.injEq]
  omega

theorem position_scrollToEnd :
    position visible c.scrollToEnd =
      (position visible c).move (lastStart visible c.session) .toEnd := by
  have hAfter : position visible c.scrollToEnd =
      ⟨lastStart visible c.session - 0, 0 - lastStart visible c.session⟩ :=
    position_eq visible c.scrollToEnd
  rw [hAfter, Nat.sub_zero, Nat.zero_sub]
  rfl

theorem position_press (h : lastStart visible c.session ≤ Console.maxOffset)
    (now : Time.Instant) {key : Key} {motion : Motion} (hMotion : motion? key = some motion) :
    position visible (c.press now key) =
      (position visible c).move (lastStart visible c.session) motion := by
  cases key with
  | up =>
    obtain rfl := Option.some.inj hMotion
    exact position_scrollUp h 1
  | pageUp =>
    obtain rfl := Option.some.inj hMotion
    exact position_scrollUp h 10
  | home =>
    obtain rfl := Option.some.inj hMotion
    exact position_scrollUp h 1000
  | down =>
    obtain rfl := Option.some.inj hMotion
    exact position_scrollDown 1
  | pageDown =>
    obtain rfl := Option.some.inj hMotion
    exact position_scrollDown 10
  | endKey =>
    obtain rfl := Option.some.inj hMotion
    exact position_scrollToEnd
  | _ => cases hMotion

theorem session_press_of_motion (now : Time.Instant) {key : Key} (h : (motion? key).isSome) :
    (c.press now key).session = c.session := by
  refine Console.session_press_of_idle now c ?_ ?_
  · rintro rfl
    cases h
  · rintro n rfl
    cases h

/-! ## Many keys -/

/-- Keys, each at its own reading of the clock. -/
def strokes (keys : List (Time.Instant × Key)) : List Console.Timed :=
  keys.map fun key => (key.1, .press key.2)

/-- What keys ask of the view, in their order. -/
def motions (keys : List (Time.Instant × Key)) : List Motion :=
  keys.filterMap fun key => motion? key.2

theorem session_strokes {keys : List (Time.Instant × Key)}
    (hKeys : ∀ key ∈ keys, (motion? key.2).isSome) (c : Console) :
    (c.run (strokes keys)).session = c.session := by
  induction keys generalizing c with
  | nil => rfl
  | cons key keys ih =>
    have hFirst := session_press_of_motion (c := c) key.1 (hKeys key List.mem_cons_self)
    exact (ih (fun k hk => hKeys k (List.mem_cons_of_mem _ hk)) _).trans hFirst

theorem position_run {keys : List (Time.Instant × Key)}
    (hKeys : ∀ key ∈ keys, (motion? key.2).isSome) {c : Console}
    (h : lastStart visible c.session ≤ Console.maxOffset) :
    position visible (c.run (strokes keys)) =
      (motions keys).foldl (Position.move (lastStart visible c.session)) (position visible c) := by
  induction keys generalizing c with
  | nil => rfl
  | cons key keys ih =>
    have hKey := hKeys key List.mem_cons_self
    obtain ⟨motion, hMotion⟩ := Option.isSome_iff_exists.mp hKey
    have hSession : (c.press key.1 key.2).session = c.session := session_press_of_motion key.1 hKey
    have hRest := ih (fun k hk => hKeys k (List.mem_cons_of_mem _ hk))
      (c := c.press key.1 key.2) (by rwa [hSession])
    have hMotions : motions (key :: keys) = motion :: motions keys :=
      List.filterMap_cons_some hMotion
    rw [position_press h key.1 hMotion, hSession] at hRest
    rw [hMotions, List.foldl_cons]
    exact hRest

/-- **What the keys that scroll do to the view.** After any of them in any order, the transcript is
drawn from the line at which the view stands, and the view stands where the keys moved it. From
there the keys that scroll back, and the one for the end, move the window as far as there are lines.
So do those that scroll forth if the view is not past the first line; otherwise they first take off
what it is past it. -/
theorem window_of_strokes (c : Console) (height : Nat) {keys : List (Time.Instant × Key)}
    (hKeys : ∀ key ∈ keys, (motion? key.2).isSome)
    (hLines : (shownLines c.session).length ≤ Console.maxOffset) (now : Time.Instant) :
    let c' := c.run (strokes keys)
    let p := position (height - 2) c'
    let m := lastStart (height - 2) c.session
    let startAfter (key : Key) := (position (height - 2) (c'.press now key)).start
    (∀ width, transcriptPane width height c' =
        wrappedPane width height {} (transcriptTitle c') false
          ((shownLines c.session).drop p.start)) ∧
      p = (motions keys).foldl (Position.move m) (position (height - 2) c) ∧
      (p.start ≤ m ∧ (p.excess ≠ 0 → p.start = 0)) ∧
      (startAfter .up = p.start - 1 ∧ startAfter .pageUp = p.start - 10 ∧ startAfter .endKey = m) ∧
      (startAfter .down = min (p.start + (1 - p.excess)) m ∧
        startAfter .pageDown = min (p.start + (10 - p.excess)) m) ∧
      (p.excess = 0 → startAfter .down = min (p.start + 1) m ∧
        startAfter .pageDown = min (p.start + 10) m) := by
  intro c' p m startAfter
  have hFits : m ≤ Console.maxOffset := Nat.le_trans (Nat.sub_le _ _) hLines
  have hSession : c'.session = c.session := session_strokes hKeys c
  have hMove (key : Key) (motion : Motion) (hMotion : motion? key = some motion) :
      startAfter key = (p.move m motion).start := by
    have hFits' : lastStart (height - 2) c'.session ≤ Console.maxOffset := by rwa [hSession]
    have hPress := position_press hFits' now hMotion
    rw [hSession] at hPress
    exact congrArg Position.start hPress
  have hDown : startAfter .down = min (p.start + (1 - p.excess)) m := hMove .down (.forth 1) rfl
  have hPageDown : startAfter .pageDown = min (p.start + (10 - p.excess)) m :=
    hMove .pageDown (.forth 10) rfl
  refine ⟨fun width => ?_, position_run hKeys hFits, ⟨?_, start_eq_zero_of_excess⟩,
    ⟨hMove .up (.back 1) rfl, hMove .pageUp (.back 10) rfl, hMove .endKey .toEnd rfl⟩,
    ⟨hDown, hPageDown⟩, fun hNone => ?_⟩
  · rw [← hSession]
    rfl
  · have hStart := position_start_le (height - 2) c'
    rwa [hSession] at hStart
  · rw [hDown, hPageDown, hNone]
    exact ⟨rfl, rfl⟩

/-- A channel is opened and closed again, and then a command is entered. -/
def brief : List Console.Timed :=
  [ (.zero, .edit "/connect"), (.zero, .press .enter),
    (.zero, .session (.emit (.opened ⟨1⟩))), (.zero, .tick),
    (.zero, .edit "/disconnect"), (.zero, .press .enter),
    (.zero, .edit "status"), (.zero, .press .enter) ]

/-- Three lines in a window of two: scrolled back by one line, the view is past nothing, and scrolls
forth at once. -/
theorem window_of_strokes_within :
    let c := (Console.start { endpoint := "ws://[::1]" } .client { policy := .accept }).run brief
    let keys : List (Time.Instant × Key) := [(.zero, .up)]
    let c' := c.run (strokes keys)
    (∀ key ∈ keys, (motion? key.2).isSome) ∧
      (shownLines c.session).length ≤ Console.maxOffset ∧
      position 2 c' = ⟨0, 0⟩ ∧ (position 2 (c'.press .zero .down)).start = 1 := by
  intro c keys c'
  have hKeys : ∀ key ∈ keys, (motion? key.2).isSome := by decide
  have hCount : (shownLines c.session).length = 3 := by decide +kernel
  have hLines : (shownLines c.session).length ≤ Console.maxOffset := by
    rw [hCount]
    decide
  have hPosition : position 2 c' = ⟨0, 0⟩ := by decide +kernel
  obtain ⟨-, -, -, -, -, hWithin⟩ := window_of_strokes c 4 hKeys hLines .zero
  refine ⟨hKeys, hLines, hPosition, ?_⟩
  have hDown := (hWithin (congrArg Position.excess hPosition)).1
  rw [show position (4 - 2) c' = ⟨0, 0⟩ from hPosition, lastStart, hCount] at hDown
  exact hDown

/-- Three lines in a window of two: the key for the first line goes far past it, and afterwards the
key that scrolls forth leaves the window where it is. -/
theorem scrolled_past_first_line :
    let c := (Console.start { endpoint := "ws://[::1]" } .client { policy := .accept }).run brief
    let top := c.press .zero .home
    (shownLines c.session).length = 3 ∧ lastStart 2 top.session = 1 ∧
      position 2 top = ⟨0, 999⟩ ∧
      (position 2 (top.press .zero .down)).start ≠
        min ((position 2 top).start + 1) (lastStart 2 top.session) := by
  intro c top
  have hLast : lastStart 2 top.session = 1 := by decide +kernel
  have hTop : position 2 top = ⟨0, 999⟩ := by decide +kernel
  have hDown : (position 2 (top.press .zero .down)).start = 0 := by decide +kernel
  refine ⟨by decide +kernel, hLast, hTop, ?_⟩
  rw [hDown, hTop, hLast]
  decide

end ChatConsole.Screen
