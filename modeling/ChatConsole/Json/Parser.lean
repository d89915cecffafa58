import ChatConsole.Json.Token

/-! # Reading JSON

The reader goes through the tokens once. Its state says what may come next and holds, innermost
first, the lists and objects that are still open; at most 127 of them may be open at a time.
-/

namespace ChatConsole.Json

/-- An open list with its items so far, latest first, or an open object that waits for the value of
one of its members. -/
inductive Frame
  | list (items : List Value)
  | member (members : Members) (name : String)

/-- What may come next. -/
inductive ReadState
  /-- A value; at the start of a list also the end of it. -/
  | wantValue (mayClose : Bool) (frames : List Frame)
  /-- The name of a member; at the start of an object also the end of it. -/
  | wantName (mayClose : Bool) (members : Members) (frames : List Frame)
  | wantColon (members : Members) (name : String) (frames : List Frame)
  /-- Another item, or the end of the list. -/
  | afterItem (items : List Value) (frames : List Frame)
  /-- Another member, or the end of the object. -/
  | afterMember (members : Members) (frames : List Frame)
  /-- Nothing. -/
  | finished (v : Value)

namespace ReadState

/-- The deepest nesting of lists and objects. -/
def maxDepth : Nat := 127

/-- Hands a complete value to what encloses it. -/
def deliver (v : Value) : List Frame → ReadState
  | [] => .finished v
  | .list items :: frames => .afterItem (v :: items) frames
  | .member members name :: frames => .afterMember (members.insert name v) frames

/-- Starts a value at the given token. -/
def start (frames : List Frame) : Token → Option ReadState
  | .null => some (deliver .null frames)
  | .bool b => some (deliver (.bool b) frames)
  | .number n => some (deliver (.number n) frames)
  | .text s => some (deliver (.text s) frames)
  | .openBracket =>
    if frames.length < maxDepth then some (.wantValue true (.list [] :: frames)) else none
  | .openBrace => if frames.length < maxDepth then some (.wantName true [] frames) else none
  | .closeBracket | .closeBrace | .comma | .colon => none

def step : ReadState → Token → Option ReadState
  | .wantValue true (.list [] :: frames), .closeBracket => some (deliver (.list []) frames)
  | .wantValue _ frames, t => start frames t
  | .wantName true [] frames, .closeBrace => some (deliver (.object []) frames)
  | .wantName _ members frames, .text s => some (.wantColon members s frames)
  | .wantColon members s frames, .colon => some (.wantValue false (.member members s :: frames))
  | .afterItem items frames, .comma => some (.wantValue false (.list items :: frames))
  | .afterItem items frames, .closeBracket => some (deliver (.list items.reverse) frames)
  | .afterMember members frames, .comma => some (.wantName false members frames)
  | .afterMember members frames, .closeBrace => some (deliver (.object members) frames)
  | _, _ => none

def run (state : ReadState) (tokens : List Token) : Option ReadState := tokens.foldlM step state

end ReadState

/-- The value that a sequence of tokens writes. -/
def ofTokens? (tokens : List Token) : Option Value :=
  match ReadState.run (.wantValue false []) tokens with
  | some (.finished v) => some v
  | _ => none

/-- The value of a JSON text; `none` when the text is not JSON. -/
def parse? (s : String) : Option Value := (Token.scan s.toList).bind ofTokens?

end ChatConsole.Json
