import ChatConsole.Proofs.Session.Runs

/-! # Views of a session

A view of a session leaves something out that decides nothing: the core is still there and so is
what the core sees of the world, and an effect shows the same whether that something was left out
before or not. Two sessions with equal views take the same steps, and have equal views afterwards.
-/

namespace ChatConsole.Session

/-- What is left out by a view bears on no step. -/
structure IsView (view : Session → Session) : Prop where
  core : ∀ s, (view s).core = s.core
  conditions : ∀ s, (view s).conditions = s.conditions
  withCore : ∀ s c, view { s with core := c } = { view s with core := c }
  perform : ∀ now s e, view ((view s).perform now e) = view (s.perform now e)

namespace IsView

variable {view : Session → Session} {s t : Session} (now : Time.Instant)

theorem core_eq (h : IsView view) (hSame : view s = view t) : s.core = t.core := by
  rw [← h.core s, hSame, h.core]

theorem conditions_eq (h : IsView view) (hSame : view s = view t) :
    s.conditions = t.conditions := by
  rw [← h.conditions s, hSame, h.conditions]

theorem foldl_perform (h : IsView view) (es : List Effect) {s t : Session}
    (hSame : view s = view t) :
    view (es.foldl (Session.perform now) s) = view (es.foldl (Session.perform now) t) := by
  induction es generalizing s t with
  | nil => exact hSame
  | cons e es ih =>
    refine ih ?_
    rw [← h.perform, hSame, h.perform]

theorem advance (h : IsView view) (hSame : view s = view t) (step : Step) :
    view (s.advance now step) = view (t.advance now step) := by
  have hCore : view { s with core := step.1 } = view { t with core := step.1 } := by
    rw [h.withCore, hSame, ← h.withCore]
  exact h.foldl_perform now step.2 hCore

theorem handle (h : IsView view) (hSame : view s = view t) (e : ChannelEvent) :
    view (s.handle now e) = view (t.handle now e) := by
  unfold Session.handle
  rw [h.core_eq hSame]
  exact h.advance now hSame _

theorem handleAll (h : IsView view) (es : List ChannelEvent) {s t : Session}
    (hSame : view s = view t) :
    view (Session.handleAll now s es) = view (Session.handleAll now t es) := by
  induction es generalizing s t with
  | nil => exact hSame
  | cons e es ih => exact ih (h.handle now hSame e)

end IsView

end ChatConsole.Session
