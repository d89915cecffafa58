/-! # Logs with limited retention

A retained log keeps the newest entries up to a limit, which is at least one. What it holds is
always the end of the list of everything ever appended since it was last cleared.
-/

namespace ChatConsole

/-- The last `n` elements of a list. -/
def lastOf (n : Nat) (xs : List α) : List α := xs.drop (xs.length - n)

/-- Entries, oldest first, with the number of them that is kept. -/
structure Retained (α : Type) where
  entries : List α
  limit : Nat
  limit_pos : 0 < limit
  length_le : entries.length ≤ limit

namespace Retained

/-- The empty log; a limit of zero counts as one. -/
def empty (capacity : Nat) : Retained α where
  entries := []
  limit := max capacity 1
  limit_pos := by omega
  length_le := by simp

/-- Adds the newest entry and drops the oldest one over the limit. -/
def append (log : Retained α) (entry : α) : Retained α where
  entries := lastOf log.limit (log.entries ++ [entry])
  limit := log.limit
  limit_pos := log.limit_pos
  length_le := by simp only [lastOf, List.length_drop]; omega

def clear (log : Retained α) : Retained α where
  entries := []
  limit := log.limit
  limit_pos := log.limit_pos
  length_le := by simp

def length (log : Retained α) : Nat := log.entries.length

def first? (log : Retained α) : Option α := log.entries.head?

def last? (log : Retained α) : Option α := log.entries.getLast?

instance : Inhabited (Retained α) := ⟨empty 1⟩

end Retained

end ChatConsole
