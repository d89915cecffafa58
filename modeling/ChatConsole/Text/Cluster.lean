import ChatConsole.Text.Extender

/-! # Character clusters

What a reader takes for one character may be several: a letter with its accents, a pair of regional
indicators, people joined to a family. A text is cut between two characters unless a rule of
Unicode's extended grapheme clusters keeps them together. The clusters of a text put together give
the text again.
-/

namespace ChatConsole.Text

/-- The five skin tones. -/
def emojiModifiers : CodeRanges := .ofLines [
  "1f3fb-1f3ff"]

/-- Characters that joiners combine into one picture (`Extended_Pictographic`). -/
def pictographs : CodeRanges := .ofLines [
  "a9 ae 203c 2049 2122 2139 2194-2199 21a9-21aa 231a-231b 2328 23cf 23e9-23f3 23f8-23fa 24c2",
  "25aa-25ab 25b6 25c0 25fb-25fe 2600-2604 260e 2611 2614-2615 2618 261d 2620 2622-2623 2626 262a",
  "262e-262f 2638-263a 2640 2642 2648-2653 265f-2660 2663 2665-2666 2668 267b 267e-267f 2692-2697",
  "2699 269b-269c 26a0-26a1 26a7 26aa-26ab 26b0-26b1 26bd-26be 26c4-26c5 26c8 26ce-26cf 26d1",
  "26d3-26d4 26e9-26ea 26f0-26f5 26f7-26fa 26fd 2702 2705 2708-270d 270f 2712 2714 2716 271d 2721",
  "2728 2733-2734 2744 2747 274c 274e 2753-2755 2757 2763-2764 2795-2797 27a1 27b0 27bf 2934-2935",
  "2b05-2b07 2b1b-2b1c 2b50 2b55 3030 303d 3297 3299 1f004 1f02c-1f02f 1f094-1f09f 1f0af-1f0b0",
  "1f0c0 1f0cf-1f0d0 1f0f6-1f0ff 1f170-1f171 1f17e-1f17f 1f18e 1f191-1f19a 1f1ae-1f1e5",
  "1f201-1f20f 1f21a 1f22f 1f232-1f23a 1f23c-1f23f 1f249-1f25f 1f266-1f321 1f324-1f393",
  "1f396-1f397 1f399-1f39b 1f39e-1f3f0 1f3f3-1f3f5 1f3f7-1f3fa 1f400-1f4fd 1f4ff-1f53d",
  "1f549-1f54e 1f550-1f567 1f56f-1f570 1f573-1f57a 1f587 1f58a-1f58d 1f590 1f595-1f596",
  "1f5a4-1f5a5 1f5a8 1f5b1-1f5b2 1f5bc 1f5c2-1f5c4 1f5d1-1f5d3 1f5dc-1f5de 1f5e1 1f5e3 1f5e8",
  "1f5ef 1f5f3 1f5fa-1f64f 1f680-1f6c5 1f6cb-1f6d2 1f6d5-1f6e5 1f6e9 1f6eb-1f6f0 1f6f3-1f6ff",
  "1f7da-1f7ff 1f80c-1f80f 1f848-1f84f 1f85a-1f85f 1f888-1f88f 1f8ae-1f8af 1f8bc-1f8bf",
  "1f8c2-1f8cf 1f8d9-1f8ff 1f90c-1f93a 1f93c-1f945 1f947-1f9ff 1fa58-1fa5f 1fa6e-1faff",
  "1fc00-1fffd"]

/-- Marks that stay with the character before them but take room. -/
def spacingMarks : CodeRanges := .ofLines [
  "903 93b 93e-940 949-94c 94e-94f 982-983 9bf-9c0 9c7-9c8 9cb-9cc a03 a3e-a40 a83 abe-ac0 ac9",
  "acb-acc b02-b03 b40 b47-b48 b4b-b4c bbf bc1-bc2 bc6-bc8 bca-bcc c01-c03 c41-c44 c82-c83 cbe",
  "cc0-cc1 cc3-cc4 cc7-cc8 cca-ccb cf3 d02-d03 d3f-d40 d46-d48 d4a-d4c d82-d83 dd0-dd1 dd8-dde",
  "df2-df3 e33 eb3 f3e-f3f f7f 1031 103b-103c 1056-1057 1084 1715 1734 17b6 17be-17c5 17c7-17c8",
  "1923-1926 1929-192b 1930-1931 1933-1938 1a19-1a1a 1a55 1a57 1a6d-1a72 1b04 1b3b 1b3d-1b41",
  "1b43-1b44 1b82 1ba1 1ba6-1ba7 1baa 1be7 1bea-1bec 1bee 1bf2-1bf3 1c24-1c2b 1c34-1c35 1ce1 1cf7",
  "a823-a824 a827 a880-a881 a8b4-a8c3 a952-a953 a983 a9b4-a9b5 a9ba-a9bb a9be-a9c0 aa2f-aa30",
  "aa33-aa34 aa4d aaeb aaee-aaef aaf5 abe3-abe4 abe6-abe7 abe9-abea abec 11000 11002 11082",
  "110b0-110b2 110b7-110b8 1112c 11145-11146 11182 111b3-111b5 111bf-111c0 111ce 1122c-1122e",
  "11232-11233 11235 112e0-112e2 11302-11303 1133f 11341-11344 11347-11348 1134b-1134d",
  "11362-11363 11435-11437 11440-11441 11445 114b1-114b2 114b9 114bb-114bc 114be 114c1",
  "115b0-115b1 115b8-115bb 115be 11630-11632 1163b-1163c 1163e 116ac 116ae-116af 116b6 11726",
  "1182c-1182e 11838 11931-11935 11937-11938 1193d 11940 11942 119d1-119d3 119dc-119df 119e4",
  "11a39 11a57-11a58 11a97 11c2f 11c3e 11ca9 11cb1 11cb4 11d8a-11d8e 11d93-11d94 11d96",
  "11ef5-11ef6 11f03 11f34-11f35 11f3e-11f3f 11f41 16f51-16f87 16ff0-16ff1 1d166 1d16d"]

/-- Signs that stay with the character after them. -/
def prependers : CodeRanges := .ofLines [
  "600-605 6dd 70f 890-891 8e2 d4e 110bd 110cd 111c2-111c3 1193f 11941 11a3a 11a84-11a89 11d46",
  "11f02"]

/-- Controls and formats, which stand alone. -/
def breakers : CodeRanges := .ofLines [
  "0-9 b-c e-1f 7f-9f ad 61c 180e 200b 200e-200f 2028-202e 2060-206f feff fff0-fffb 13430-1343f",
  "1bca0-1bca3 1d173-1d17a e0000-e001f e0080-e00ff e01f0-e0fff"]

/-- Consonants that a linker joins to the next one. -/
def conjunctConsonants : CodeRanges := .ofLines [
  "915-939 958-95f 978-97f 995-9a8 9aa-9b0 9b2 9b6-9b9 9dc-9dd 9df 9f0-9f1 a95-aa8 aaa-ab0",
  "ab2-ab3 ab5-ab9 af9 b15-b28 b2a-b30 b32-b33 b35-b39 b5c-b5d b5f b71 c15-c28 c2a-c39 c58-c5a",
  "d15-d3a"]

/-- The linkers between consonants. -/
def conjunctLinkers : CodeRanges := .ofLines [
  "94d 9cd acd b4d c4d d4d"]

/-- What a character is for the rules. -/
inductive ClusterKind
  | carriageReturn | lineFeed | breaker | joiner | extending | spacing | prepended | regional
  | leadJamo | vowelJamo | tailJamo | openSyllable | closedSyllable | pictograph | consonant | plain
  deriving DecidableEq, Repr

namespace ClusterKind

/-- The kind of a character of the Hangul script, if it is one. -/
def hangul? (n : Nat) : Option ClusterKind :=
  if (0x1100 ≤ n ∧ n ≤ 0x115F) ∨ (0xA960 ≤ n ∧ n ≤ 0xA97C) then some .leadJamo
  else if (0x1160 ≤ n ∧ n ≤ 0x11A7) ∨ (0xD7B0 ≤ n ∧ n ≤ 0xD7C6) then some .vowelJamo
  else if (0x11A8 ≤ n ∧ n ≤ 0x11FF) ∨ (0xD7CB ≤ n ∧ n ≤ 0xD7FB) then some .tailJamo
  else if 0xAC00 ≤ n ∧ n ≤ 0xD7A3 then
    some (if (n - 0xAC00) % 28 = 0 then .openSyllable else .closedSyllable)
  else none

/-- The kind of a character that is not in ASCII. -/
def wide (c : Char) : ClusterKind :=
  let n := c.toNat
  if n = 0x200D then .joiner
  else if extenders.contains c ∨ emojiModifiers.contains c then .extending
  else if breakers.contains c then .breaker
  else if 0x1F1E6 ≤ n ∧ n ≤ 0x1F1FF then .regional
  else if spacingMarks.contains c then .spacing
  else if prependers.contains c then .prepended
  else if pictographs.contains c then .pictograph
  else if conjunctConsonants.contains c then .consonant
  else (hangul? n).getD .plain

def of (c : Char) : ClusterKind :=
  let n := c.toNat
  if n = 13 then .carriageReturn
  else if n = 10 then .lineFeed
  else if n < 32 ∨ n = 127 then .breaker
  else if n < 128 then .plain
  else wide c

/-- Stands alone whatever is beside it. -/
def isAlone : ClusterKind → Bool
  | .carriageReturn | .lineFeed | .breaker => true
  | _ => false

/-- The Hangul rules: which kinds continue a syllable. -/
def continuesSyllable : ClusterKind → ClusterKind → Bool
  | .leadJamo, k => [leadJamo, vowelJamo, openSyllable, closedSyllable].contains k
  | .openSyllable, k | .vowelJamo, k => [vowelJamo, tailJamo].contains k
  | .closedSyllable, k | .tailJamo, k => k == .tailJamo
  | _, _ => false

end ClusterKind

/-- What has to be known of the characters before a possible cut. -/
structure ClusterContext where
  last : ClusterKind
  /-- Whether an odd number of regional indicators comes right before. -/
  oddRegional : Bool
  /-- Whether a pictograph with nothing but extending characters after it comes before. -/
  picture : Bool
  /-- Whether a consonant with nothing but extending characters after it comes before. -/
  consonant : Bool
  /-- Whether a linker is among those. -/
  linked : Bool
  deriving DecidableEq, Repr

namespace ClusterContext

/-- The context after the first character. -/
def first (c : Char) : ClusterContext :=
  let kind := ClusterKind.of c
  ⟨kind, kind == .regional, kind == .pictograph, kind == .consonant, false⟩

/-- Whether the next character belongs to the same cluster. -/
def joins (ctx : ClusterContext) (kind : ClusterKind) : Bool :=
  if ctx.last = .carriageReturn ∧ kind = .lineFeed then true
  else if ctx.last.isAlone ∨ kind.isAlone then false
  else
    ctx.last.continuesSyllable kind || kind == .extending || kind == .joiner || kind == .spacing ||
      ctx.last == .prepended ||
      (kind == .consonant && ctx.consonant && ctx.linked) ||
      (kind == .pictograph && ctx.picture && ctx.last == .joiner) ||
      (kind == .regional && ctx.last == .regional && ctx.oddRegional)

/-- The context after a further character of the same cluster. -/
def push (ctx : ClusterContext) (c : Char) : ClusterContext :=
  let kind := ClusterKind.of c
  let extending := kind == .extending || kind == .joiner
  { last := kind
    oddRegional := kind == .regional && !(ctx.last == .regional && ctx.oddRegional)
    picture := kind == .pictograph || (extending && ctx.picture && ctx.last != .joiner)
    consonant := kind == .consonant || (extending && ctx.consonant)
    linked := extending && (ctx.linked || conjunctLinkers.contains c) }

end ClusterContext

/-- The clusters of what remains, while `cluster` is being gathered. -/
def clustersAfter (ctx : ClusterContext) (cluster : List Char) : List Char → List (List Char)
  | [] => [cluster]
  | c :: cs =>
    if ctx.joins (.of c) then clustersAfter (ctx.push c) (cluster ++ [c]) cs
    else cluster :: clustersAfter (.first c) [c] cs

/-- The clusters of a text. -/
def clusters : List Char → List (List Char)
  | [] => []
  | c :: cs => clustersAfter (.first c) [c] cs

theorem flatten_clustersAfter (ctx : ClusterContext) (cluster cs : List Char) :
    (clustersAfter ctx cluster cs).flatten = cluster ++ cs := by
  induction cs generalizing ctx cluster with
  | nil => simp [clustersAfter]
  | cons c cs ih =>
    rw [clustersAfter]
    split <;> simp [ih]

theorem flatten_clusters (cs : List Char) : (clusters cs).flatten = cs := by
  cases cs with
  | nil => rfl
  | cons c cs => simp [clusters, flatten_clustersAfter]

end ChatConsole.Text
