import ChatConsole.Json.Parser
import ChatConsole.Proofs.Json.Lexemes

/-! # The grammar of JSON

`Derives` says which sequences of tokens write a value, one rule for each kind of value. It knows
nothing of the reader and its states: an object is written by its members in any order, and of
several members of one name the last one counts. The reader accepts a sequence of tokens just when
the grammar derives a value from it, and gives that value.
-/

namespace ChatConsole.Json

/-- Sets a member. -/
def Members.add (members : Members) (m : String × Value) : Members := members.insert m.1 m.2

/-- The members of an object that is written with these, one after the other. -/
def Members.ofList (ms : List (String × Value)) : Members := ms.foldl Members.add []

/-- A value and tokens that write it. -/
structure Item where
  tokens : List Token
  value : Value

/-- The name of a member and its value. -/
structure Member where
  name : String
  item : Item

namespace Member

def tokens (m : Member) : List Token := .text m.name :: .colon :: m.item.tokens

def pair (m : Member) : String × Value := (m.name, m.item.value)

end Member

def listTokens (items : List Item) : List Token :=
  .openBracket :: ([.comma].intercalate (items.map Item.tokens) ++ [.closeBracket])

def objectTokens (members : List Member) : List Token :=
  .openBrace :: ([.comma].intercalate (members.map Member.tokens) ++ [.closeBrace])

/-- The sequences of tokens that write a value with lists and objects nested so deep at most. -/
inductive Derives : Nat → List Token → Value → Prop
  | null {d : Nat} : Derives d [.null] .null
  | bool {d : Nat} (b : Bool) : Derives d [.bool b] (.bool b)
  | number {d : Nat} (n : Number) : Derives d [.number n] (.number n)
  | text {d : Nat} (s : String) : Derives d [.text s] (.text s)
  | list {d : Nat} {items : List Item} (h : ∀ i ∈ items, Derives d i.tokens i.value) :
      Derives (d + 1) (listTokens items) (.list (items.map Item.value))
  | object {d : Nat} {members : List Member}
      (h : ∀ m ∈ members, Derives d m.item.tokens m.item.value) :
      Derives (d + 1) (objectTokens members) (.object (Members.ofList (members.map Member.pair)))

/-! ## Commas -/

theorem intercalate_cons (sep xs : List α) (xss : List (List α)) :
    sep.intercalate (xs :: xss) = xs ++ xss.flatMap (sep ++ ·) := by
  induction xss generalizing xs with
  | nil => simp
  | cons ys xss ih => rw [List.intercalate_cons_cons, ih, List.flatMap_cons]; simp

theorem intercalate_concat (sep : List α) (xss : List (List α)) (xs : List α) :
    sep.intercalate (xss ++ [xs]) = xss.flatMap (· ++ sep) ++ xs := by
  induction xss with
  | nil => simp
  | cons ys xss ih =>
    cases xss with
    | nil => simp
    | cons zs xss =>
      rw [List.cons_append, List.cons_append, List.intercalate_cons_cons, ← List.cons_append, ih]
      simp

theorem Members.ofList_concat (ms : List (String × Value)) (name : String) (v : Value) :
    Members.ofList (ms ++ [(name, v)]) = (Members.ofList ms).insert name v :=
  List.foldl_concat ..

theorem Members.insert_ne_nil (name : String) (v : Value) (members : Members) :
    members.insert name v ≠ [] := by
  cases members with
  | nil => exact List.cons_ne_nil _ _
  | cons m members =>
    rw [insert]
    split_ifs <;> exact List.cons_ne_nil _ _

theorem Members.eq_nil_of_ofList {ms : List (String × Value)} (h : Members.ofList ms = []) :
    ms = [] := by
  rcases List.eq_nil_or_concat ms with hNil | ⟨init, last, rfl⟩
  · exact hNil
  · rw [List.concat_eq_append, ofList_concat] at h
    exact absurd h (insert_ne_nil _ _ _)

/-! ## Neighbours -/

namespace Token

theorem Apart.append_mark {ts us : List Token} {t : Token} (hMark : t.isMark) (hs : Apart ts)
    (hu : Apart us) : Apart (ts ++ t :: us) := by
  refine List.isChain_append.mpr ⟨hs, List.isChain_cons.mpr ⟨fun u _ => .inl hMark, hu⟩, ?_⟩
  rintro u - t' ht
  obtain rfl := Option.some.inj ht
  exact .inr hMark

theorem apart_commas {tss : List (List Token)} (h : ∀ ts ∈ tss, Apart ts) :
    Apart ([.comma].intercalate tss) := by
  induction tss with
  | nil => exact .nil
  | cons ts tss ih =>
    have hRest := ih fun us hMem => h us (List.mem_cons_of_mem ts hMem)
    have hHere := h ts List.mem_cons_self
    cases tss with
    | nil => rwa [List.intercalate_singleton]
    | cons us tss =>
      rw [List.intercalate_cons_cons, List.append_assoc]
      exact hHere.append_mark rfl hRest

end Token

/-- No two neighbours of a sequence that writes a value lack a mark. -/
theorem Derives.apart {d : Nat} {ts : List Token} {v : Value} (h : Derives d ts v) :
    Token.Apart ts := by
  have hGroup : ∀ {t u : Token} {tss : List (List Token)}, t.isMark → u.isMark →
      (∀ ts ∈ tss, Token.Apart ts) → Token.Apart (t :: ([.comma].intercalate tss ++ [u])) :=
    fun ht hu h => Token.Apart.append_mark ht .nil ((Token.apart_commas h).append_mark hu .nil)
  induction h with
  | list h ih =>
    refine hGroup rfl rfl fun ts hMem => ?_
    obtain ⟨i, hItem, rfl⟩ := List.mem_map.mp hMem
    exact ih i hItem
  | object h ih =>
    refine hGroup rfl rfl fun ts hMem => ?_
    obtain ⟨m, hMember, rfl⟩ := List.mem_map.mp hMem
    exact @Token.Apart.append_mark [.text m.name] _ _ rfl (.singleton _) (ih m hMember)
  | _ => exact .singleton _

namespace ReadState

/-! ## What the grammar derives is read -/

theorem run_cons (state : ReadState) (t : Token) (ts : List Token) :
    run state (t :: ts) = (step state t).bind (run · ts) := rfl

theorem run_of_step {state next : ReadState} {t : Token} (h : step state t = some next)
    (ts : List Token) : run state (t :: ts) = run next ts := by
  rw [run_cons, h]
  rfl

theorem step_wantValue (mayClose : Bool) (frames : List Frame) {t : Token}
    (h : t ≠ .closeBracket) : step (.wantValue mayClose frames) t = start frames t := by
  unfold step
  split <;> simp_all

/-- A value is read wherever one may stand. -/
def IsRead (d : Nat) (ts : List Token) (v : Value) : Prop :=
  ∀ (mayClose : Bool) (frames : List Frame) (rest : List Token), frames.length + d ≤ maxDepth →
    run (.wantValue mayClose frames) (ts ++ rest) = run (deliver v frames) rest

theorem run_afterItem {d : Nat} {items : List Item} (h : ∀ i ∈ items, IsRead d i.tokens i.value)
    {frames : List Frame} (hDepth : frames.length + (d + 1) ≤ maxDepth) (done : List Value)
    (rest : List Token) :
    run (.afterItem done frames)
        ((items.map Item.tokens).flatMap ([.comma] ++ ·) ++ .closeBracket :: rest) =
      run (deliver (.list (done.reverse ++ items.map Item.value)) frames) rest := by
  induction items generalizing done with
  | nil =>
    rw [List.map_nil, List.map_nil, List.append_nil]
    exact run_of_step rfl rest
  | cons i items ih =>
    have hInner : (Frame.list done :: frames).length + d ≤ maxDepth := by
      rw [List.length_cons]
      omega
    rw [List.map_cons, List.flatMap_cons, List.append_assoc, List.append_assoc,
      List.singleton_append,
      run_of_step (show step (.afterItem done frames) .comma = some (.wantValue false _) from rfl),
      h i List.mem_cons_self false _ _ hInner, deliver,
      ih fun j hMem => h j (List.mem_cons_of_mem i hMem)]
    simp

theorem isRead_list {d : Nat} {items : List Item} (h : ∀ i ∈ items, IsRead d i.tokens i.value) :
    IsRead (d + 1) (listTokens items) (.list (items.map Item.value)) := by
  intro mayClose frames rest hDepth
  have hOpen : step (.wantValue mayClose frames) .openBracket =
      some (.wantValue true (.list [] :: frames)) :=
    (step_wantValue mayClose frames (by simp)).trans (if_pos (by omega))
  rw [listTokens, List.cons_append, run_of_step hOpen, List.append_assoc, List.singleton_append]
  cases items with
  | nil => exact run_of_step rfl rest
  | cons i items =>
    have hInner : (Frame.list [] :: frames).length + d ≤ maxDepth := by
      rw [List.length_cons]
      omega
    rw [List.map_cons, intercalate_cons, List.append_assoc,
      h i List.mem_cons_self true _ _ hInner, deliver,
      run_afterItem (fun j hMem => h j (List.mem_cons_of_mem i hMem)) hDepth]
    rfl

theorem run_member {d : Nat} {m : Member} (h : IsRead d m.item.tokens m.item.value)
    {frames : List Frame} (hDepth : frames.length + (d + 1) ≤ maxDepth) (mayClose : Bool)
    (done : Members) (rest : List Token) :
    run (.wantName mayClose done frames) (m.tokens ++ rest) =
      run (.afterMember (done.insert m.name m.item.value) frames) rest := by
  have hName : step (.wantName mayClose done frames) (.text m.name) =
      some (.wantColon done m.name frames) := by
    cases mayClose <;> cases done <;> rfl
  have hInner : (Frame.member done m.name :: frames).length + d ≤ maxDepth := by
    rw [List.length_cons]
    omega
  rw [Member.tokens, List.cons_append, List.cons_append, run_of_step hName,
    run_of_step (show step (.wantColon done m.name frames) .colon = some (.wantValue false _)
      from rfl),
    h false _ _ hInner, deliver]

theorem run_afterMember {d : Nat} {members : List Member}
    (h : ∀ m ∈ members, IsRead d m.item.tokens m.item.value) {frames : List Frame}
    (hDepth : frames.length + (d + 1) ≤ maxDepth) (done : Members) (rest : List Token) :
    run (.afterMember done frames)
        ((members.map Member.tokens).flatMap ([.comma] ++ ·) ++ .closeBrace :: rest) =
      run (deliver (.object ((members.map Member.pair).foldl Members.add done)) frames) rest := by
  induction members generalizing done with
  | nil => exact run_of_step rfl rest
  | cons m members ih =>
    rw [List.map_cons, List.flatMap_cons, List.append_assoc, List.append_assoc,
      List.singleton_append,
      run_of_step (show step (.afterMember done frames) .comma = some (.wantName false done frames)
        from rfl),
      run_member (h m List.mem_cons_self) hDepth,
      ih fun n hMem => h n (List.mem_cons_of_mem m hMem)]
    rfl

theorem isRead_object {d : Nat} {members : List Member}
    (h : ∀ m ∈ members, IsRead d m.item.tokens m.item.value) :
    IsRead (d + 1) (objectTokens members)
      (.object (Members.ofList (members.map Member.pair))) := by
  intro mayClose frames rest hDepth
  have hOpen : step (.wantValue mayClose frames) .openBrace = some (.wantName true [] frames) :=
    (step_wantValue mayClose frames (by simp)).trans (if_pos (by omega))
  rw [objectTokens, List.cons_append, run_of_step hOpen, List.append_assoc, List.singleton_append]
  cases members with
  | nil => exact run_of_step rfl rest
  | cons m members =>
    rw [List.map_cons, intercalate_cons, List.append_assoc,
      run_member (h m List.mem_cons_self) hDepth,
      run_afterMember (fun n hMem => h n (List.mem_cons_of_mem m hMem)) hDepth]
    rfl

theorem isRead_of_derives {d : Nat} {ts : List Token} {v : Value} (h : Derives d ts v) :
    IsRead d ts v := by
  have hScalar : ∀ {d : Nat} {t : Token} {v : Value}, t ≠ .closeBracket →
      (∀ frames, start frames t = some (deliver v frames)) → IsRead d [t] v :=
    fun hOther hStart mayClose frames rest _ =>
      run_of_step ((step_wantValue mayClose frames hOther).trans (hStart frames)) rest
  induction h with
  | list h ih => exact isRead_list ih
  | object h ih => exact isRead_object ih
  | _ => exact hScalar (by simp) fun _ => rfl

/-! ## What is read the grammar derives -/

/-- The tokens that lead to some open lists and objects. What they hold may nest as deep as what
encloses them leaves room for. -/
inductive Opened : List Frame → List Token → Prop
  | none : Opened [] []
  | list {frames : List Frame} {ts : List Token} {d : Nat} {items : List Item}
      (outer : Opened frames ts) (depth : frames.length + (d + 1) = maxDepth)
      (h : ∀ i ∈ items, Derives d i.tokens i.value) :
      Opened (.list (items.map Item.value).reverse :: frames)
        (ts ++ .openBracket :: (items.map Item.tokens).flatMap (· ++ [.comma]))
  | member {frames : List Frame} {ts : List Token} {d : Nat} {members : List Member}
      (name : String) (outer : Opened frames ts) (depth : frames.length + (d + 1) = maxDepth)
      (h : ∀ m ∈ members, Derives d m.item.tokens m.item.value) :
      Opened (.member (Members.ofList (members.map Member.pair)) name :: frames)
        (ts ++ .openBrace :: ((members.map Member.tokens).flatMap (· ++ [.comma]) ++
          [.text name, .colon]))

/-- The tokens that lead to a state. -/
inductive Leads : ReadState → List Token → Prop
  | wantValue (mayClose : Bool) {frames : List Frame} {ts : List Token} (h : Opened frames ts) :
      Leads (.wantValue mayClose frames) ts
  | wantName (mayClose : Bool) {frames : List Frame} {ts : List Token} {d : Nat}
      {members : List Member} (outer : Opened frames ts)
      (depth : frames.length + (d + 1) = maxDepth)
      (h : ∀ m ∈ members, Derives d m.item.tokens m.item.value) :
      Leads (.wantName mayClose (Members.ofList (members.map Member.pair)) frames)
        (ts ++ .openBrace :: (members.map Member.tokens).flatMap (· ++ [.comma]))
  | wantColon {frames : List Frame} {ts : List Token} {d : Nat} {members : List Member}
      (name : String) (outer : Opened frames ts) (depth : frames.length + (d + 1) = maxDepth)
      (h : ∀ m ∈ members, Derives d m.item.tokens m.item.value) :
      Leads (.wantColon (Members.ofList (members.map Member.pair)) name frames)
        (ts ++ .openBrace :: ((members.map Member.tokens).flatMap (· ++ [.comma]) ++
          [.text name]))
  | afterItem {frames : List Frame} {ts us : List Token} {d : Nat} {items : List Item} {v : Value}
      (outer : Opened frames ts) (depth : frames.length + (d + 1) = maxDepth)
      (h : ∀ i ∈ items, Derives d i.tokens i.value) (hLast : Derives d us v) :
      Leads (.afterItem (v :: (items.map Item.value).reverse) frames)
        (ts ++ .openBracket :: ((items.map Item.tokens).flatMap (· ++ [.comma]) ++ us))
  | afterMember {frames : List Frame} {ts us : List Token} {d : Nat} {members : List Member}
      {v : Value} (name : String) (outer : Opened frames ts)
      (depth : frames.length + (d + 1) = maxDepth)
      (h : ∀ m ∈ members, Derives d m.item.tokens m.item.value) (hLast : Derives d us v) :
      Leads (.afterMember ((Members.ofList (members.map Member.pair)).insert name v) frames)
        (ts ++ .openBrace :: ((members.map Member.tokens).flatMap (· ++ [.comma]) ++
          .text name :: .colon :: us))
  | finished {ts : List Token} {v : Value} (h : Derives maxDepth ts v) : Leads (.finished v) ts

theorem Opened.length_le {frames : List Frame} {ts : List Token} (h : Opened frames ts) :
    frames.length ≤ maxDepth := by
  cases h with
  | none => exact Nat.zero_le _
  | list outer depth h =>
    rw [List.length_cons]
    omega
  | member name outer depth h =>
    rw [List.length_cons]
    omega

/-- A complete value leads on to what encloses it. -/
theorem Opened.deliver {frames : List Frame} {ts us : List Token} {v : Value} {d : Nat}
    (h : Opened frames ts) (hValue : Derives d us v) (hDepth : frames.length + d = maxDepth) :
    Leads (deliver v frames) (ts ++ us) := by
  cases h with
  | none =>
    rw [List.length_nil, Nat.zero_add] at hDepth
    exact .finished (hDepth ▸ hValue)
  | @list frames ts d' items outer depth h =>
    rw [List.length_cons] at hDepth
    obtain rfl : d = d' := by omega
    rw [ReadState.deliver, List.append_assoc]
    exact .afterItem outer depth h hValue
  | @member frames ts d' members name outer depth h =>
    rw [List.length_cons] at hDepth
    obtain rfl : d = d' := by omega
    rw [ReadState.deliver, List.append_assoc, List.cons_append, List.append_assoc]
    exact .afterMember name outer depth h hValue

theorem leads_start {frames : List Frame} {ts : List Token} (h : Opened frames ts) {t : Token}
    {next : ReadState} (hStart : start frames t = some next) : Leads next (ts ++ [t]) := by
  have hDepth : frames.length + (maxDepth - frames.length) = maxDepth :=
    Nat.add_sub_cancel' h.length_le
  cases t with
  | null =>
    obtain rfl := Option.some.inj hStart
    exact h.deliver .null hDepth
  | bool b =>
    obtain rfl := Option.some.inj hStart
    exact h.deliver (.bool b) hDepth
  | number n =>
    obtain rfl := Option.some.inj hStart
    exact h.deliver (.number n) hDepth
  | text s =>
    obtain rfl := Option.some.inj hStart
    exact h.deliver (.text s) hDepth
  | openBracket =>
    simp only [start] at hStart
    split at hStart
    · next hRoom =>
      obtain rfl := Option.some.inj hStart
      have hInner : frames.length + (maxDepth - frames.length - 1 + 1) = maxDepth := by omega
      exact .wantValue true (@Opened.list _ _ _ [] h hInner (List.forall_mem_nil _))
    · cases hStart
  | openBrace =>
    simp only [start] at hStart
    split at hStart
    · next hRoom =>
      obtain rfl := Option.some.inj hStart
      have hInner : frames.length + (maxDepth - frames.length - 1 + 1) = maxDepth := by omega
      exact @Leads.wantName true _ _ _ [] h hInner (List.forall_mem_nil _)
    · cases hStart
  | closeBrace | closeBracket | comma | colon => cases hStart

theorem step_closeBracket {mayClose : Bool} {frames : List Frame} {next : ReadState}
    (h : step (.wantValue mayClose frames) .closeBracket = some next) :
    ∃ outer, frames = .list [] :: outer ∧ next = deliver (.list []) outer := by
  unfold step at h
  split at h <;> simp_all [start]

theorem step_wantName {mayClose : Bool} {done : Members} {frames : List Frame} {t : Token}
    {next : ReadState} (h : step (.wantName mayClose done frames) t = some next) :
    (t = .closeBrace ∧ done = [] ∧ next = deliver (.object []) frames) ∨
      ∃ name, t = .text name ∧ next = .wantColon done name frames := by
  unfold step at h
  split at h <;> simp_all

/-- Each token leads on: this is the invariant of the reader. -/
theorem leads_step {state next : ReadState} {ts : List Token} {t : Token} (h : Leads state ts)
    (hStep : step state t = some next) : Leads next (ts ++ [t]) := by
  cases h with
  | @wantValue mayClose frames ts h =>
    by_cases hClose : t = .closeBracket
    · subst hClose
      obtain ⟨outer, hFrames, rfl⟩ := step_closeBracket hStep
      cases h with
      | @list frames ts d items outer depth h =>
        -- The list was closed at once, so nothing stands between its brackets.
        obtain ⟨hFrame, rfl⟩ := List.cons.inj hFrames
        obtain rfl : items = [] := by simpa using Frame.list.inj hFrame
        rw [List.append_assoc]
        exact outer.deliver (.list h) depth
      | _ => cases hFrames
    · rw [step_wantValue mayClose frames hClose] at hStep
      exact leads_start h hStep
  | @wantName mayClose frames ts d members outer depth h =>
    rcases step_wantName hStep with ⟨rfl, hNil, rfl⟩ | ⟨name, rfl, rfl⟩
    · obtain rfl : members = [] := by simpa using Members.eq_nil_of_ofList hNil
      rw [List.append_assoc]
      exact outer.deliver (.object h) depth
    · rw [List.append_assoc]
      exact .wantColon name outer depth h
  | wantColon name outer depth h =>
    cases t with
    | colon =>
      obtain rfl := Option.some.inj hStep
      simpa using Leads.wantValue false (.member name outer depth h)
    | _ => cases hStep
  | @afterItem frames ts us d items v outer depth h hLast =>
    have hAll : ∀ i ∈ items ++ [⟨us, v⟩], Derives d i.tokens i.value :=
      List.forall_mem_append.mpr ⟨h, List.forall_mem_singleton.mpr hLast⟩
    cases t with
    | comma =>
      obtain rfl := Option.some.inj hStep
      simpa using Leads.wantValue false (.list outer depth hAll)
    | closeBracket =>
      obtain rfl := Option.some.inj hStep
      have hList := outer.deliver (.list hAll) depth
      simp only [listTokens, List.map_append, List.map_singleton, intercalate_concat] at hList
      simpa using hList
    | _ => cases hStep
  | @afterMember frames ts us d members v name outer depth h hLast =>
    have hAll : ∀ m ∈ members ++ [⟨name, us, v⟩], Derives d m.item.tokens m.item.value :=
      List.forall_mem_append.mpr ⟨h, List.forall_mem_singleton.mpr hLast⟩
    cases t with
    | comma =>
      obtain rfl := Option.some.inj hStep
      have hName := Leads.wantName false outer depth hAll
      simp only [List.map_append, List.map_singleton, Member.pair, Members.ofList_concat] at hName
      simpa [Member.tokens] using hName
    | closeBrace =>
      obtain rfl := Option.some.inj hStep
      have hObject := outer.deliver (.object hAll) depth
      simp only [objectTokens, List.map_append, List.map_singleton, Member.pair,
        Members.ofList_concat, intercalate_concat] at hObject
      simpa [Member.tokens] using hObject
    | _ => cases hStep
  | finished h => cases t <;> cases hStep

theorem leads_run {state final : ReadState} {before ts : List Token} (h : Leads state before)
    (hRun : run state ts = some final) : Leads final (before ++ ts) := by
  induction ts generalizing state before with
  | nil =>
    obtain rfl := Option.some.inj hRun
    rwa [List.append_nil]
  | cons t ts ih =>
    obtain ⟨next, hStep, hRest⟩ := Option.bind_eq_some_iff.mp (run_cons state t ts ▸ hRun)
    have hLeads := ih (leads_step h hStep) hRest
    rwa [List.append_assoc, List.singleton_append] at hLeads

end ReadState

theorem ofTokens?_eq_some_iff {ts : List Token} {v : Value} :
    ofTokens? ts = some v ↔ Derives ReadState.maxDepth ts v := by
  constructor
  · intro h
    unfold ofTokens? at h
    split at h
    · next w hRun =>
      obtain rfl := Option.some.inj h
      have hLeads := ReadState.leads_run (.wantValue false .none) hRun
      cases hLeads with
      | finished h => exact h
    · cases h
  · intro h
    have hRun := ReadState.isRead_of_derives h false [] [] (Nat.le_of_eq (Nat.zero_add _))
    rw [List.append_nil] at hRun
    rw [ofTokens?, hRun]
    rfl

/-- A text writes a value if it spells tokens from which the grammar derives it. -/
def Writes (s : String) (v : Value) : Prop :=
  ∃ ts, Token.Spelled s.toList ts ∧ Derives ReadState.maxDepth ts v

/-- **Reading is the inverse of writing.** -/
theorem parse?_eq_some_iff {s : String} {v : Value} : parse? s = some v ↔ Writes s v := by
  constructor
  · intro h
    obtain ⟨ts, hScan, hTokens⟩ := Option.bind_eq_some_iff.mp h
    exact ⟨ts, Token.spelled_of_scan hScan, ofTokens?_eq_some_iff.mp hTokens⟩
  · rintro ⟨ts, hSpelled, hDerives⟩
    rw [parse?, Token.scan_of_spelled hSpelled hDerives.apart, Option.bind_some,
      ofTokens?_eq_some_iff.mpr hDerives]

end ChatConsole.Json
