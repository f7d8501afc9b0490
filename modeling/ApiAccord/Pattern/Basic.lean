import ApiAccord.Pattern.CharClass

/-!
# Patterns over texts

A `Pattern` describes pieces of text and is matched by ordered choice: of several ways to match at a
place, the one preferred by the pattern is taken (`alt` prefers its left side, a greedy repetition
more rounds, a lazy one fewer).  `Pattern.run` passes the state after each way to a continuation
until one is accepted; `Pattern.outcomes` lists the same states in order of preference, and
`run_eq_findSome?` says that the two agree.
-/

namespace ApiAccord

/-- A description of pieces of text. -/
inductive Pattern where
  | empty
  | char (k : CharClass)
  | seq (a b : Pattern)
  | alt (a b : Pattern)
  /-- Between `least` and `most` rounds of `a`, each of which takes at least one character. -/
  | rounds (greedy : Bool) (least : Nat) (most : Option Nat) (a : Pattern)
  /-- Remembers the place of the piece that `a` matches. -/
  | group (i : Nat) (a : Pattern)
  | textStart
  /-- The end of the text, or the place before a line feed that ends it. -/
  | textEnd
  /-- A place between a word character and one that is none. -/
  | wordEdge

namespace Pattern

/-! ### Matching -/

/-- Where a match has got to, and the pieces remembered so far, latest first. -/
structure State where
  pos : Nat
  groups : List (Nat × Nat × Nat)

/-- Whether a word character stands at the place. -/
def wordAt (text : Array Char) (i : Nat) : Bool :=
  match text[i]? with
  | some c => Text.isWord c
  | none => false

/-- Whether a word begins or ends at the place. -/
def isWordEdge (text : Array Char) (i : Nat) : Bool :=
  wordAt text i != (0 < i && wordAt text (i - 1))

/-- Whether the place counts as the end of the text. -/
def isTextEnd (text : Array Char) (i : Nat) : Bool :=
  i == text.size || (i + 1 == text.size && text[i]? == some '\n')

/-- The number of rounds that a repetition may still take at a place. -/
def budget (text : Array Char) (most : Option Nat) (pos : Nat) : Nat :=
  match most with
  | some n => min n (text.size - pos)
  | none => text.size - pos

/-- Repeats `step`, which passes on the states after one round. -/
def runRounds {α : Type} (step : State → (State → Option α) → Option α) (greedy : Bool) :
    (least budget : Nat) → State → (State → Option α) → Option α
  | 0, 0, st, k => k st
  | _ + 1, 0, _, _ => none
  | least + 1, budget + 1, st, k =>
    step st fun st' => if st.pos < st'.pos then runRounds step greedy least budget st' k else none
  | 0, budget + 1, st, k =>
    if greedy then
      match step st fun st' =>
        if st.pos < st'.pos then runRounds step greedy 0 budget st' k else none with
      | some r => some r
      | none => k st
    else
      match k st with
      | some r => some r
      | none => step st fun st' =>
        if st.pos < st'.pos then runRounds step greedy 0 budget st' k else none

/-- Passes the states after each way to match at `st` to `k`, in order of preference, until one is
accepted. -/
def run {α : Type} (text : Array Char) : Pattern → State → (State → Option α) → Option α
  | .empty, st, k => k st
  | .char c, st, k =>
    match text[st.pos]? with
    | some d => if c.holds d then k { st with pos := st.pos + 1 } else none
    | none => none
  | .seq a b, st, k => run text a st fun st' => run text b st' k
  | .alt a b, st, k =>
    match run text a st k with
    | some r => some r
    | none => run text b st k
  | .rounds greedy least most a, st, k =>
    runRounds (run text a) greedy least (budget text most st.pos) st k
  | .group i a, st, k =>
    run text a st fun st' => k { st' with groups := (i, st.pos, st'.pos) :: st'.groups }
  | .textStart, st, k => if st.pos == 0 then k st else none
  | .textEnd, st, k => if isTextEnd text st.pos then k st else none
  | .wordEdge, st, k => if isWordEdge text st.pos then k st else none

/-! ### Outcomes -/

/-- The states after the rounds of a repetition. -/
def roundOutcomes (step : State → List State) (greedy : Bool) :
    (least budget : Nat) → State → List State
  | 0, 0, st => [st]
  | _ + 1, 0, _ => []
  | least + 1, budget + 1, st =>
    (step st).flatMap fun st' =>
      if st.pos < st'.pos then roundOutcomes step greedy least budget st' else []
  | 0, budget + 1, st =>
    let more := (step st).flatMap fun st' =>
      if st.pos < st'.pos then roundOutcomes step greedy 0 budget st' else []
    if greedy then more ++ [st] else st :: more

/-- The states after each way to match at `st`, in order of preference. -/
def outcomes (text : Array Char) : Pattern → State → List State
  | .empty, st => [st]
  | .char c, st =>
    match text[st.pos]? with
    | some d => if c.holds d then [{ st with pos := st.pos + 1 }] else []
    | none => []
  | .seq a b, st => (outcomes text a st).flatMap (outcomes text b)
  | .alt a b, st => outcomes text a st ++ outcomes text b st
  | .rounds greedy least most a, st =>
    roundOutcomes (outcomes text a) greedy least (budget text most st.pos) st
  | .group i a, st =>
    (outcomes text a st).map fun st' => { st' with groups := (i, st.pos, st'.pos) :: st'.groups }
  | .textStart, st => if st.pos == 0 then [st] else []
  | .textEnd, st => if isTextEnd text st.pos then [st] else []
  | .wordEdge, st => if isWordEdge text st.pos then [st] else []

theorem findSome?_flatMap {α β γ : Type} (f : α → List β) (k : β → Option γ) (l : List α) :
    (l.flatMap f).findSome? k = l.findSome? fun a => (f a).findSome? k := by
  induction l with
  | nil => rfl
  | cons a l ih =>
    rw [List.flatMap_cons, List.findSome?_append, ih, List.findSome?_cons]
    cases (f a).findSome? k <;> rfl

theorem runRounds_eq_findSome? {α : Type} {step : State → (State → Option α) → Option α}
    {after : State → List State} (h : ∀ st k, step st k = (after st).findSome? k) (greedy : Bool)
    (least budget : Nat) (st : State) (k : State → Option α) :
    runRounds step greedy least budget st k =
      (roundOutcomes after greedy least budget st).findSome? k := by
  induction budget generalizing least st with
  | zero => cases least <;> simp [runRounds, roundOutcomes]
  | succ budget ih =>
    have round (least : Nat) :
        (step st fun st' => if st.pos < st'.pos then runRounds step greedy least budget st' k
          else none) =
        ((after st).flatMap fun st' => if st.pos < st'.pos then
          roundOutcomes after greedy least budget st' else []).findSome? k := by
      rw [h, findSome?_flatMap]
      congr 1
      funext st'
      split
      · exact ih least st'
      · rfl
    cases least with
    | succ least => exact round least
    | zero =>
      simp only [runRounds, roundOutcomes, round 0]
      cases greedy
      · simp only [Bool.false_eq_true, if_false, List.findSome?_cons]
        cases k st <;> rfl
      · simp only [if_true, List.findSome?_append, List.findSome?_cons, List.findSome?_nil]
        cases List.findSome? k _ with
        | some r => rfl
        | none => cases k st <;> rfl

/-- Running a pattern finds the first outcome that the continuation accepts. -/
theorem run_eq_findSome? {α : Type} (text : Array Char) (p : Pattern) (st : State)
    (k : State → Option α) : run text p st k = (outcomes text p st).findSome? k := by
  induction p generalizing st k with
  | empty => simp [run, outcomes]
  | char c =>
    simp only [run, outcomes]
    cases text[st.pos]? with
    | none => rfl
    | some d => by_cases h : c.holds d <;> simp [h]
  | seq a b iha ihb =>
    simp only [run, outcomes, iha, findSome?_flatMap]
    congr 1
    funext st'
    exact ihb st' k
  | alt a b iha ihb =>
    simp only [run, outcomes, iha, ihb, List.findSome?_append]
    cases List.findSome? k _ <;> rfl
  | rounds greedy least most a ih =>
    exact runRounds_eq_findSome? ih greedy least _ st k
  | group i a ih => simp only [run, outcomes, ih, List.findSome?_map, Function.comp_def]
  | textStart => by_cases h : st.pos = 0 <;> simp [run, outcomes, h]
  | textEnd => by_cases h : isTextEnd text st.pos <;> simp [run, outcomes, h]
  | wordEdge => by_cases h : isWordEdge text st.pos <;> simp [run, outcomes, h]

/-! ### Matches -/

/-- A piece of text that a pattern matched. -/
structure Match where
  start : Nat
  stop : Nat
  groups : List (Nat × Nat × Nat)

/-- The match at a place, if there is one. -/
def matchAt (p : Pattern) (text : Array Char) (i : Nat) : Option Match :=
  run text p ⟨i, []⟩ fun st => some ⟨i, st.pos, st.groups⟩

/-- The first match that begins at `i` or at one of the `n` places after it. -/
def findFrom (p : Pattern) (text : Array Char) : (n i : Nat) → Option Match
  | 0, i => p.matchAt text i
  | n + 1, i =>
    match p.matchAt text i with
    | some m => some m
    | none => findFrom p text n (i + 1)

/-- The matches one after another, each searched for from the end of the one before. -/
def matchesFrom (p : Pattern) (text : Array Char) : (fuel i : Nat) → List Match
  | 0, _ => []
  | fuel + 1, i =>
    match p.findFrom text (text.size - i) i with
    | none => []
    | some m => m :: matchesFrom p text fuel (max m.stop (m.start + 1))

/-- All matches in a text, from left to right, none overlapping another. -/
def allMatches (p : Pattern) (text : Array Char) : List Match :=
  p.matchesFrom text (text.size + 1) 0

/-- Whether the pattern matches somewhere. -/
def occursIn (p : Pattern) (text : Array Char) : Bool :=
  (p.findFrom text text.size 0).isSome

/-- Whether the pattern matches a whole text. -/
def matchesAll (p : Pattern) (text : Array Char) : Bool :=
  (run text p ⟨0, []⟩ fun st => if st.pos == text.size then some () else none).isSome

/-- The text between two places. -/
def slice (text : Array Char) (start stop : Nat) : String :=
  String.ofList (text.extract start stop).toList

/-- The text of a match. -/
def Match.text (m : Match) (text : Array Char) : String := slice text m.start m.stop

/-- The place of a remembered piece. -/
def Match.group? (m : Match) (i : Nat) : Option (Nat × Nat) :=
  (m.groups.find? fun g => g.1 == i).map (·.2)

/-- The text of a remembered piece. -/
def Match.groupText? (m : Match) (text : Array Char) (i : Nat) : Option String :=
  (m.group? i).map fun g => slice text g.1 g.2

/-- The text without its matches. -/
def remove (p : Pattern) (s : String) : String :=
  let text := s.toList.toArray
  let (kept, last) := (p.allMatches text).foldl
    (fun (acc, i) m => (acc ++ (text.extract i m.start).toList, m.stop)) ([], 0)
  String.ofList (kept ++ (text.extract last text.size).toList)

/-! ### Writing patterns -/

instance : Append Pattern := ⟨.seq⟩

/-- A text as it stands. -/
def text (s : String) : Pattern :=
  s.toList.foldr (fun c p => .seq (.char (.one c)) p) .empty

/-- A text in either case. -/
def anyCaseText (s : String) : Pattern :=
  s.toList.foldr (fun c p => .seq (.char (.anyCase c)) p) .empty

/-- The first of several patterns that matches. -/
def firstOf : List Pattern → Pattern
  | [] => .char .nothing
  | [p] => p
  | p :: ps => .alt p (firstOf ps)

/-- Several patterns one after another, with `sep` between them. -/
def joinedBy (sep : Pattern) : List Pattern → Pattern
  | [] => .empty
  | [p] => p
  | p :: ps => .seq p (.seq sep (joinedBy sep ps))

/-- Any number of rounds, as many as possible. -/
def star (p : Pattern) : Pattern := .rounds true 0 none p

/-- One round or more, as many as possible. -/
def plus (p : Pattern) : Pattern := .rounds true 1 none p

/-- One round if possible. -/
def opt (p : Pattern) : Pattern := .rounds true 0 (some 1) p

/-- Between `least` and `most` rounds, as many as possible. -/
def upTo (least most : Nat) (p : Pattern) : Pattern := .rounds true least (some most) p

/-- Between `least` and `most` rounds, as few as possible. -/
def lazyUpTo (least most : Nat) (p : Pattern) : Pattern := .rounds false least (some most) p

/-- A character of a text. -/
def oneOf (s : String) : Pattern := .char (.anyOf s)

/-- Blanks, if there are any. -/
def blanks : Pattern := star (.char .blank)

/-- At least one blank. -/
def someBlanks : Pattern := plus (.char .blank)

/-- A word character or more. -/
def aWord : Pattern := plus (.char .word)

end Pattern

end ApiAccord
