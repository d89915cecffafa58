import Mathlib.Data.Nat.Basic
import Mathlib.Order.Monotone.Defs
import ChatConsole.Proofs.Screen.Scrolling

/-! # Following the transcript

A console keeps two things about its view: how far it is scrolled back, and whether it follows the
transcript. Whatever is done to the console, they only change by the motions that are asked of the
view: `view_act` says so of one act and `view_run` of a run. No motion leaves a view following that
is scrolled back (`View.move_anchored`). The other way round, a view at the end follows unless a
motion scrolled it back by no lines, which no key and no command asks for (`View.Steady.move`).

As the offset grows, the window goes from the last line where it can start back to the first one and
stops at every line between them. So there are an offset and keys for every line.
-/

namespace ChatConsole

namespace Screen

/-! ## The view as a machine -/

/-- What a console keeps of its view. -/
structure View where
  offset : Nat
  following : Bool
  deriving DecidableEq, Repr

/-- The view after a motion. -/
def View.move (v : View) : Motion → View
  | .back n => ⟨min (v.offset + n) Console.maxOffset, false⟩
  | .forth n => ⟨v.offset - n, if v.offset - n = 0 then true else v.following⟩
  | .toEnd => ⟨0, true⟩

/-- The view of a console. -/
def view (c : Console) : View := ⟨c.offset, c.following⟩

/-- What is asked of the view when a channel is opened for a role that a word has to name. -/
def wordMotions (word : String) : List Motion :=
  match Role.parse word with
  | .ok _ => [.toEnd]
  | .error _ => []

/-- What a command asks of the view. -/
def commandMotions : Command → List Motion
  | .connect (some word) => wordMotions word
  | .connect none => [.toEnd]
  | .send _ => [.toEnd]
  | _ => []

/-- What a key asks of the view. -/
def keyMotions (c : Console) : Key → List Motion
  | .enter => commandMotions (Command.parse c.input)
  | .function n => (QuickCommand.ofKey? n).toList.map fun _ => .toEnd
  | key => (motion? key).toList

/-- What an act asks of the view. -/
def actMotions (c : Console) : Console.Act → List Motion
  | .press key => keyMotions c key
  | .command asked => commandMotions asked
  | .scrollUp n => [.back n]
  | .scrollDown n => [.forth n]
  | .scrollToEnd => [.toEnd]
  | _ => []

/-- What a run asks of the view. -/
def runMotions : Console → List Console.Timed → List Motion
  | _, [] => []
  | c, (now, a) :: acts => actMotions c a ++ runMotions (c.act now a) acts

/-! ## Nothing else moves the view -/

variable (now : Time.Instant) (c : Console)

theorem view_execute (command : Command) :
    view (c.execute now command) = (commandMotions command).foldl View.move (view c) := by
  cases command with
  | connect word =>
    cases word with
    | none => rfl
    | some word =>
      show view (c.withRole now word _) = (wordMotions word).foldl View.move (view c)
      unfold Console.withRole wordMotions
      cases Role.parse word <;> rfl
  | role word =>
    show view (c.withRole now word _) = view c
    unfold Console.withRole
    cases Role.parse word <;> rfl
  | _ => rfl

theorem view_enter :
    view (c.enter now) =
      (commandMotions (Command.parse c.input)).foldl View.move (view c) := by
  unfold Console.enter
  simp only
  split
  · next hQuit =>
    rw [hQuit]
    rfl
  · exact view_execute now { c with input := "", helpShown := false } _

theorem view_press (key : Key) :
    view (c.press now key) = (keyMotions c key).foldl View.move (view c) := by
  cases key with
  | enter => exact view_enter now c
  | escape =>
    show view c.escape = view c
    unfold Console.escape
    split <;> rfl
  | function n =>
    unfold Console.press keyMotions
    simp only
    cases QuickCommand.ofKey? n <;> rfl
  | _ => rfl

theorem view_act (a : Console.Act) :
    view (c.act now a) = (actMotions c a).foldl View.move (view c) := by
  cases a with
  | press key => exact view_press now c key
  | command asked => exact view_execute now c asked
  | _ => rfl

variable {now} {c}

/-- **The view of a run is moved by what the run asks of it, and by nothing else.** -/
theorem view_run (acts : List Console.Timed) (c : Console) :
    view (c.run acts) = (runMotions c acts).foldl View.move (view c) := by
  induction acts generalizing c with
  | nil => rfl
  | cons a acts ih =>
    obtain ⟨now, a⟩ := a
    rw [Console.run_cons, ih, view_act, runMotions, List.foldl_append]

/-! ## A view that follows is at the end -/

theorem View.move_anchored {v : View} (h : v.following → v.offset = 0) (motion : Motion) :
    (v.move motion).following → (v.move motion).offset = 0 := by
  cases motion with
  | back n => exact fun hFollowing => absurd hFollowing Bool.false_ne_true
  | forth n =>
    intro hFollowing
    show v.offset - n = 0
    by_cases hEnd : v.offset - n = 0
    · exact hEnd
    · have hBefore : v.following := by simpa only [View.move, if_neg hEnd] using hFollowing
      rw [h hBefore, Nat.zero_sub]
  | toEnd => exact fun _ => rfl

end Screen

namespace Console

/-- A console that follows its transcript is not scrolled back. -/
def Anchored (c : Console) : Prop := c.following → c.offset = 0

theorem anchored_start (settings : Session.Settings) (role : Role) (gateway : Gateway) :
    (start settings role gateway).Anchored := fun _ => rfl

theorem Anchored.run {c : Console} (h : c.Anchored) (acts : List Timed) :
    (c.run acts).Anchored := by
  have hView : (Screen.view (c.run acts)).following → (Screen.view (c.run acts)).offset = 0 := by
    rw [Screen.view_run]
    refine List.foldlRecOn (motive := fun v : Screen.View => v.following → v.offset = 0) _ _ h ?_
    intro v hv motion _
    exact Screen.View.move_anchored hv motion
  exact hView

end Console

namespace Screen

variable {c : Console}

/-! ## Scrolling back by no lines -/

theorem mem_runMotions {motion : Motion} {acts : List Console.Timed}
    (h : motion ∈ runMotions c acts) : ∃ a ∈ acts, ∃ c', motion ∈ actMotions c' a.2 := by
  induction acts generalizing c with
  | nil => cases h
  | cons a acts ih =>
    rcases List.mem_append.mp h with hHere | hLater
    · exact ⟨a, List.mem_cons_self, c, hHere⟩
    · obtain ⟨b, hb, c', hMotion⟩ := ih hLater
      exact ⟨b, List.mem_cons_of_mem _ hb, c', hMotion⟩

theorem eq_toEnd_of_mem_commandMotions {command : Command} {motion : Motion}
    (h : motion ∈ commandMotions command) : motion = .toEnd := by
  unfold commandMotions at h
  split at h
  · unfold wordMotions at h
    split at h
    · exact List.mem_singleton.mp h
    · cases h
  · exact List.mem_singleton.mp h
  · exact List.mem_singleton.mp h
  · cases h

theorem ne_back_zero_of_motion? {key : Key} {motion : Motion} (h : motion? key = some motion) :
    motion ≠ .back 0 := by
  rintro rfl
  cases key <;> simp [motion?] at h

theorem ne_back_zero_of_mem_keyMotions {key : Key} {motion : Motion}
    (h : motion ∈ keyMotions c key) : motion ≠ .back 0 := by
  unfold keyMotions at h
  split at h
  · rw [eq_toEnd_of_mem_commandMotions h]
    simp
  · obtain ⟨quick, -, rfl⟩ := List.mem_map.mp h
    simp
  · exact ne_back_zero_of_motion? (Option.mem_toList.mp h)

/-- No act but the one that says so scrolls back by no lines. -/
theorem ne_back_zero_of_mem_actMotions {a : Console.Act} (ha : a ≠ .scrollUp 0) {motion : Motion}
    (h : motion ∈ actMotions c a) : motion ≠ .back 0 := by
  cases a with
  | press key => exact ne_back_zero_of_mem_keyMotions h
  | command asked =>
    rw [eq_toEnd_of_mem_commandMotions h]
    simp
  | scrollUp n =>
    obtain rfl := List.mem_singleton.mp h
    intro hBack
    exact ha (congrArg Console.Act.scrollUp (Motion.back.inj hBack))
  | scrollDown n =>
    obtain rfl := List.mem_singleton.mp h
    simp
  | scrollToEnd =>
    obtain rfl := List.mem_singleton.mp h
    simp
  | _ => cases h

/-! ## A view at the end follows -/

/-- A view follows just in case it is at the end, and its offset is within the limit. -/
structure View.Steady (v : View) : Prop where
  following_iff : v.following ↔ v.offset = 0
  offset_le : v.offset ≤ Console.maxOffset

theorem View.Steady.move {v : View} (h : v.Steady) {motion : Motion} (hMotion : motion ≠ .back 0) :
    (v.move motion).Steady := by
  refine ⟨⟨View.move_anchored h.following_iff.mp motion, fun hEnd => ?_⟩, ?_⟩
  · cases motion with
    | back n =>
      have hSome : n ≠ 0 := by
        rintro rfl
        exact hMotion rfl
      have hMax : 0 < Console.maxOffset := by decide
      -- an offset that has come to its limit is not the end, either
      have hNone : min (v.offset + n) Console.maxOffset = 0 := hEnd
      omega
    | forth n => exact if_pos hEnd
    | toEnd => rfl
  · cases motion with
    | back n => exact Nat.min_le_right _ _
    | forth n => exact Nat.le_trans (Nat.sub_le _ _) h.offset_le
    | toEnd => exact Nat.zero_le _

theorem steady_run {acts : List Console.Timed} (hActs : ∀ a ∈ acts, a.2 ≠ .scrollUp 0)
    (h : (view c).Steady) : (view (c.run acts)).Steady := by
  rw [view_run]
  apply List.foldlRecOn (motive := View.Steady) _ _ h
  intro v hv motion hMotion
  apply hv.move
  obtain ⟨a, ha, c', hAsked⟩ := mem_runMotions hMotion
  exact ne_back_zero_of_mem_actMotions (hActs a ha) hAsked

/-! ## The window of an offset -/

theorem windowStart_le (total visible offset : Nat) :
    windowStart total visible offset ≤ total - visible := by
  rw [windowStart_eq]
  exact Nat.sub_le _ _

theorem antitone_windowStart (total visible : Nat) : Antitone (windowStart total visible) := by
  intro offset offset' hOffsets
  rw [windowStart_eq, windowStart_eq]
  omega

/-- The window can start at any line up to the last one at which it can. -/
theorem exists_windowStart_eq {total visible start : Nat} (h : start ≤ total - visible) :
    ∃ offset ≤ total, windowStart total visible offset = start := by
  refine ⟨total - visible - start, by omega, ?_⟩
  rw [windowStart_eq]
  omega

/-- Any line is in some window: in the one that starts with it, or else in the last one. -/
theorem exists_start_around {total visible line : Nat} (hVisible : 1 ≤ visible)
    (hLine : line < total) :
    ∃ start ≤ total - visible, (start ≤ line ∧ line < start + visible) ∧
      (line ≤ total - visible → start = line) := by
  by_cases hTop : line ≤ total - visible
  · exact ⟨line, hTop, ⟨Nat.le_refl _, by omega⟩, fun _ => rfl⟩
  · exact ⟨total - visible, Nat.le_refl _, ⟨by omega, by omega⟩, fun h => absurd h hTop⟩

/-! ## The keys for a line -/

theorem foldl_move_back {last start k : Nat} (h : k ≤ start) :
    (List.replicate k (.back 1)).foldl (Position.move last) ⟨start, 0⟩ = ⟨start - k, 0⟩ := by
  induction k generalizing start with
  | zero => rfl
  | succ k ih =>
    have hFirst : Position.move last ⟨start, 0⟩ (.back 1) = ⟨start - 1, 0⟩ := by
      simp only [Position.move, Position.mk.injEq, true_and]
      omega
    rw [List.replicate_succ, List.foldl_cons, hFirst, ih (by omega), Nat.sub_sub, Nat.add_comm 1 k]

/-- The key for the end, and then the one that scrolls back by a line so many times. -/
def upFromEnd (k : Nat) : List (Time.Instant × Key) :=
  (.zero, .endKey) :: List.replicate k (.zero, .up)

theorem isSome_motion?_upFromEnd {k : Nat} {key : Time.Instant × Key} (h : key ∈ upFromEnd k) :
    (motion? key.2).isSome := by
  rcases List.mem_cons.mp h with rfl | hUp
  · rfl
  · rw [List.eq_of_mem_replicate hUp]
    rfl

theorem motions_upFromEnd (k : Nat) :
    motions (upFromEnd k) = .toEnd :: List.replicate k (.back 1) := by
  have hUp : motions (List.replicate k (.zero, .up)) = List.replicate k (.back 1) :=
    List.filterMap_replicate_of_some rfl
  rw [← hUp]
  rfl

/-- There are keys that let the window start at a line, if it can start there at all. -/
theorem exists_strokes_start {visible start : Nat}
    (hFits : lastStart visible c.session ≤ Console.maxOffset)
    (hStart : start ≤ lastStart visible c.session) :
    ∃ keys, (∀ key ∈ keys, (motion? key.2).isSome) ∧
      (position visible (c.run (strokes keys))).start = start := by
  have hKeys : ∀ key ∈ upFromEnd (lastStart visible c.session - start), (motion? key.2).isSome :=
    fun _ => isSome_motion?_upFromEnd
  refine ⟨_, hKeys, ?_⟩
  rw [position_run hKeys hFits, motions_upFromEnd, List.foldl_cons]
  show (List.foldl _ (⟨lastStart visible c.session, 0⟩ : Position) _).start = start
  rw [foldl_move_back (Nat.sub_le _ _)]
  exact Nat.sub_sub_self hStart

/-- **When a console follows its transcript, and what its window can show.** After any run of keys,
commands, ticks, channel events and even scrolling at will, unless by no lines, a console follows
its transcript just in case it is not scrolled back, also when the offset has come to its limit.
Whatever the numbers of lines are, the window starts at the last line where it can when the offset
is 0, never moves forth when the offset grows, and starts at each line up to the last one for some
offset; so for every line there is an offset at which the line is in the window. And there are keys
that bring any line of the console into its window, and to the top if the window can start there. -/
theorem following_of_run (settings : Session.Settings) (role : Role) (gateway : Gateway)
    {acts : List Console.Timed} (hActs : ∀ a ∈ acts, a.2 ≠ .scrollUp 0) :
    let c := (Console.start settings role gateway).run acts
    ((c.following ↔ c.offset = 0) ∧ c.offset ≤ Console.maxOffset) ∧
      (∀ total visible,
        let start := windowStart total visible
        let last := total - min visible total
        (∀ offset, start offset ≤ last) ∧ start 0 = last ∧ Antitone start ∧
        (∀ line ≤ last, ∃ offset ≤ total, start offset = line) ∧
        (1 ≤ visible → ∀ line < total,
          ∃ offset ≤ total, start offset ≤ line ∧ line < start offset + visible)) ∧
      ∀ visible, 1 ≤ visible → (shownLines c.session).length ≤ Console.maxOffset →
        ∀ line < (shownLines c.session).length,
          ∃ keys, (∀ key ∈ keys, (motion? key.2).isSome) ∧
            let start := (position visible (c.run (strokes keys))).start
            (start ≤ line ∧ line < start + visible) ∧
            (line ≤ lastStart visible c.session → start = line) := by
  intro c
  have hStart : (view (Console.start settings role gateway)).Steady :=
    ⟨iff_of_true rfl rfl, Nat.zero_le _⟩
  have hSteady : (view c).Steady := steady_run hActs hStart
  refine ⟨⟨hSteady.following_iff, hSteady.offset_le⟩, fun total visible => ?_,
    fun visible hVisible hFits line hLine => ?_⟩
  · intro start last
    have hLast : last = total - visible := by
      show total - min visible total = total - visible
      omega
    rw [hLast]
    refine ⟨windowStart_le total visible, windowStart_zero total visible,
      antitone_windowStart total visible, fun line => exists_windowStart_eq,
      fun hVisible line hLine => ?_⟩
    obtain ⟨top, hTop, hInside, -⟩ := exists_start_around hVisible hLine
    obtain ⟨offset, hOffset, hStart⟩ := exists_windowStart_eq hTop
    refine ⟨offset, hOffset, ?_⟩
    rwa [← hStart] at hInside
  · obtain ⟨top, hTop, hInside⟩ := exists_start_around hVisible hLine
    have hLast : lastStart visible c.session ≤ Console.maxOffset :=
      Nat.le_trans (Nat.sub_le _ _) hFits
    obtain ⟨keys, hKeys, hStart⟩ := exists_strokes_start hLast hTop
    refine ⟨keys, hKeys, ?_⟩
    rwa [← hStart] at hInside

/-- The offset comes to its limit, and a key that scrolls back leaves it there; the first of two
lines is brought back into a window of one. -/
theorem following_of_run_saturated :
    let acts : List Console.Timed :=
      [(.zero, .press .up), (.zero, .scrollUp Console.maxOffset), (.zero, .tick),
        (.zero, .press .home)]
    let c := (Console.start { endpoint := "ws://[::1]" } .client { policy := .accept }).run acts
    (∀ a ∈ acts, a.2 ≠ .scrollUp 0) ∧ (c.offset = Console.maxOffset ∧ ¬ c.following) ∧
      (∃ offset ≤ 12, windowStart 12 5 offset ≤ 9 ∧ 9 < windowStart 12 5 offset + 5) ∧
      (shownLines c.session).length = 2 ∧
      ∃ keys, (∀ key ∈ keys, (motion? key.2).isSome) ∧
        (position 1 (c.run (strokes keys))).start = 0 := by
  intro acts c
  have hActs : ∀ a ∈ acts, a.2 ≠ .scrollUp 0 := by simp [acts, Console.maxOffset, Decimal.word]
  obtain ⟨⟨hFollowing, -⟩, hWindow, hKeys⟩ :=
    following_of_run { endpoint := "ws://[::1]" } .client { policy := .accept } hActs
  have hOffset : c.offset = Console.maxOffset := by decide +kernel
  have hCount : (shownLines c.session).length = 2 := by decide +kernel
  obtain ⟨-, -, -, -, hInto⟩ := hWindow 12 5
  obtain ⟨keys, hMotions, -, hTop⟩ := hKeys 1 (by decide) (by rw [hCount]; decide) 0
    (by rw [hCount]; decide)
  refine ⟨hActs, ⟨hOffset, fun h => ?_⟩, hInto (by decide) 9 (by decide), hCount, keys, hMotions,
    hTop (Nat.zero_le _)⟩
  have hZero : c.offset = 0 := hFollowing.mp h
  rw [hOffset] at hZero
  exact absurd hZero (by decide)

end Screen

end ChatConsole
