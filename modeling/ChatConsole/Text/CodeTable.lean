/-! # Tables over code points

A table gives a value to each of some runs of code points. It is written as words with spaces
between them, ascending: `a-b=v` for the run from `a` to `b` with value `v`, and `a=v` for a single
code point. All numbers are hexadecimal.
-/

namespace ChatConsole.Text

/-- The first and the last code point of each run with its value, ascending. -/
structure CodeTable (α : Type) where
  runs : Array (Nat × Nat × α)

namespace CodeTable

/-- What a lower-case hexadecimal digit stands for. -/
def hexValue (c : Char) : Nat :=
  if c.toNat < 58 then c.toNat - 48 else c.toNat - 87

def hexNumber (cs : List Char) : Nat := cs.foldl (fun n c => n * 16 + hexValue c) 0

/-- The words between the spaces of a text. -/
def words (cs : List Char) : List (List Char) :=
  let (word, done) := cs.foldr (fun c (word, done) =>
    if c = ' ' then ([], if word.isEmpty then done else word :: done)
    else (c :: word, done)) ([], [])
  if word.isEmpty then done else word :: done

variable {α : Type}

/-- One run. -/
def runOf (value : List Char → α) (word : List Char) : Nat × Nat × α :=
  let bounds := word.takeWhile (· != '=')
  let first := hexNumber (bounds.takeWhile (· != '-'))
  let last := match bounds.dropWhile (· != '-') with
    | _ :: digits => hexNumber digits
    | [] => first
  (first, last, value ((word.dropWhile (· != '=')).drop 1))

/-- The table written on the given lines, with a reading of the values. -/
def ofLines (value : List Char → α) (lines : List String) : CodeTable α :=
  ⟨((lines.flatMap fun line => words line.toList).map (runOf value)).toArray⟩

/-- The place of `n` in its run and the value of the run, looked for in the runs from `low` up to
below `high`. -/
def findBetween? (runs : Array (Nat × Nat × α)) (n low high : Nat) : Option (Nat × α) :=
  if low < high then
    let middle := (low + high) / 2
    match runs[middle]? with
    | none => none
    | some (first, last, value) =>
      if n < first then findBetween? runs n low middle
      else if last < n then findBetween? runs n (middle + 1) high
      else some (n - first, value)
  else none
termination_by high - low

/-- The place of a character in its run, and the value of the run. -/
def find? (table : CodeTable α) (c : Char) : Option (Nat × α) :=
  findBetween? table.runs c.toNat 0 table.runs.size

end CodeTable

end ChatConsole.Text
