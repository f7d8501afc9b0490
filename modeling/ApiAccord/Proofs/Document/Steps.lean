import ApiAccord.Proofs.Document.Pointer
import ApiAccord.Proofs.Text.Integer

/-!
# Pointers and the steps that they write

A node of a document is reached by steps, each to a member by its name or to an item by its index.
The pointer that writes these steps leads to that node (`resolve_written`).  The other way round a
pointer may lead to a node although no steps are written so: the readers of indices take every text
that is an integer, with a sign, blanks, underscores or the digits of another script, and count from
the end where it is negative.  `resolve_names_iff` says which pointers name what they lead to, in
every document: those without such a segment.
-/

namespace ApiAccord.Pointer

variable {ref pointer s : String} {segments : List String} {u v w root node : Value} {ms : Members}
  {items : List Value} {i : ℕ}

/-! ## Steps -/

/-- A step down a document: to a member or to an item. -/
inductive Step where
  | name (s : String)
  | index (i : ℕ)
deriving DecidableEq, Repr

/-- The name or the index, in decimal. -/
def Step.text : Step → String
  | .name s => s
  | .index i => toString i

/-- The step as a pointer has it. -/
def Step.segment : Step → String
  | .name s => escape s
  | .index i => toString i

variable {steps : List Step}

/-- Steps lead from a value to one of its nodes. -/
inductive Leads : List Step → Value → Value → Prop where
  | here {v : Value} : Leads [] v v
  | name {s : String} {steps : List Step} {ms : Members} {v w : Value} :
    ms.get? s = some v → Leads steps v w → Leads (.name s :: steps) (.map ms) w
  | index {i : ℕ} {steps : List Step} {items : List Value} {v w : Value} :
    items[i]? = some v → Leads steps v w → Leads (.index i :: steps) (.list items) w

/-- The pointer that writes the steps, each after a slash. -/
def written (steps : List Step) : String := String.join (steps.map fun s => "/" ++ s.segment)

/-- A pointer names a node if its segments are the steps to it. -/
def Names (pointer : String) (root node : Value) : Prop :=
  ∃ steps : List Step, segments? pointer = some (steps.map Step.text) ∧ Leads steps root node

/-! ## Escaping -/

theorem toList_escape (s : String) : (escape s).toList = s.toList.flatMap fun c =>
    if c = '~' then ['~', '0'] else if c = '/' then ['~', '1'] else [c] := by
  simp only [escape, Text.replaceChar, String.toList_ofList, List.flatMap_assoc, beq_iff_eq]
  congr 1
  funext c
  by_cases tilde : c = '~'
  · subst tilde
    decide
  · by_cases slash : c = '/' <;> simp [tilde, slash]

theorem slash_notMem_escape (s : String) : '/' ∉ (escape s).toList := by
  rw [toList_escape, List.mem_flatMap]
  rintro ⟨c, -, hc⟩
  split at hc
  · exact absurd hc (by decide)
  · split at hc
    · exact absurd hc (by decide)
    · next slash => exact slash (List.mem_singleton.1 hc).symm

/-- Slashes come back first, while the tildes still have their zeros. -/
theorem replacePair_slash (cs : List Char) :
    Text.Chars.replacePair '~' '1' ['/'] (cs.flatMap fun c =>
      if c = '~' then ['~', '0'] else if c = '/' then ['~', '1'] else [c]) =
    cs.flatMap fun c => if c = '~' then ['~', '0'] else [c] := by
  induction cs with
  | nil => rfl
  | cons c rest ih =>
    rw [List.flatMap_cons, List.flatMap_cons, ← ih]
    by_cases tilde : c = '~'
    · subst tilde
      simp [Text.Chars.replacePair, Text.Chars.replacePair_cons_of_ne]
    · by_cases slash : c = '/'
      · subst slash
        simp [Text.Chars.replacePair]
      · simp [tilde, slash, Text.Chars.replacePair_cons_of_ne]

theorem replacePair_tilde (cs : List Char) :
    Text.Chars.replacePair '~' '0' ['~'] (cs.flatMap fun c =>
      if c = '~' then ['~', '0'] else [c]) = cs := by
  induction cs with
  | nil => rfl
  | cons c rest ih =>
    rw [List.flatMap_cons]
    by_cases tilde : c = '~'
    · subst tilde
      simp [Text.Chars.replacePair, ih]
    · simp [tilde, Text.Chars.replacePair_cons_of_ne, ih]

/-- A name is had back from its segment. -/
theorem unescape_escape (s : String) : unescape (escape s) = s := by
  rw [unescape_eq, toList_escape, replacePair_slash, replacePair_tilde, String.ofList_toList]

theorem notMem_toString {c : Char} (hc : c.isDigit = false) (i : ℕ) : c ∉ (toString i).toList := by
  rw [Text.toList_toString_nat]
  exact fun h => Text.ne_of_isDigit (Json.digits_toDigits i c h) hc rfl

theorem unescape_segment (step : Step) : unescape step.segment = step.text := by
  cases step with
  | name s => exact unescape_escape s
  | index i => exact unescape_eq_self (notMem_toString rfl i)

theorem slash_notMem_segment (step : Step) : '/' ∉ step.segment.toList := by
  cases step with
  | name s => exact slash_notMem_escape s
  | index i => exact notMem_toString rfl i

/-- The segments of a written pointer are the steps. -/
theorem segments?_written (steps : List Step) :
    segments? (written steps) = some (steps.map Step.text) := by
  have split (first : Step) (rest : List Step) :
      Text.splitOn '/' (first.segment ++ written rest) =
        (first :: rest).map Step.segment := by
    induction rest generalizing first with
    | nil =>
      rw [written, List.map_nil, String.join_nil, String.append_empty,
        splitOn_single (slash_notMem_segment first)]
      rfl
    | cons second rest ih =>
      have next : written (second :: rest) = "/" ++ (second.segment ++ written rest) := by
        rw [written, List.map_cons, String.join_cons, String.append_assoc, written]
      rw [next, ← String.append_assoc, splitOn_cons _ (slash_notMem_segment first), ih]
      rfl
  cases steps with
  | nil => rfl
  | cons first rest =>
    have head : written (first :: rest) = "/" ++ (first.segment ++ written rest) := by
      rw [written, List.map_cons, String.join_cons, String.append_assoc, written]
    rw [head, segments?_of_slash, split, List.map_map]
    exact congrArg some (List.map_congr_left fun s _ => unescape_segment s)

/-! ## Following written steps -/

theorem itemAt?_natCast (items : List Value) (i : ℕ) : itemAt? items (i : ℤ) = items[i]? := by
  rw [itemAt?, if_neg (by omega), Int.toNat_natCast]

theorem down_toString_iff : Down (toString i) (.list items) v ↔
    items[i]? = some v ∧ i < 10 ^ Text.maxDigits := by
  have read : (Text.integer? (toString i)).bind (itemAt? items) =
      if i < 10 ^ Text.maxDigits then items[i]? else none := by
    rw [Text.integer?_toString]
    split
    · exact itemAt?_natCast items i
    · rfl
  constructor
  · intro h
    cases h with
    | item h =>
      rw [read] at h
      split at h
      · next short => exact ⟨h, short⟩
      · cases h
  · rintro ⟨h, short⟩
    exact .item (by rw [read, if_pos short, h])

theorem walk_texts (h : Leads steps v w)
    (short : ∀ i, Step.index i ∈ steps → i < 10 ^ Text.maxDigits) :
    walk ref (steps.map Step.text) v = .ok w := by
  induction h with
  | here => rfl
  | name hg _ ih =>
    have rest := ih fun i hi => short i (List.mem_cons_of_mem _ hi)
    exact walk_cons_eq_ok_iff.2 ⟨_, .member hg, rest⟩
  | index hi _ ih =>
    have rest := ih fun i hi => short i (List.mem_cons_of_mem _ hi)
    exact walk_cons_eq_ok_iff.2
      ⟨_, down_toString_iff.2 ⟨hi, short _ List.mem_cons_self⟩, rest⟩

/-- The pointer that writes the steps to a node leads to that node, whatever characters the names
have.  Integers of more than 4300 digits are not read, but no list has so many items. -/
theorem resolve_written (ref : String) (h : Leads steps root node)
    (short : ∀ i, Step.index i ∈ steps → i < 10 ^ Text.maxDigits) :
    resolve ref (written steps) root = .ok node :=
  resolve_eq_ok_iff.2 ⟨_, segments?_written steps, walk_texts h short⟩

/-- Names may be empty and may have the characters that pointers use. -/
theorem resolve_written_notes :
    let root := Value.map [(.str "~1/0", .map [(.str "", .list [.scalar .null, .scalar (.int 7)])])]
    let steps := [Step.name "~1/0", Step.name "", Step.index 1]
    written steps = "/~01~10//1" ∧
      resolve "#/~01~10//1" "/~01~10//1" root = .ok (.scalar (.int 7)) := by
  intro root steps
  have leads : Leads steps root (.scalar (.int 7)) :=
    .name rfl (.name rfl (.index rfl .here))
  have short : ∀ i, Step.index i ∈ steps → i < 10 ^ Text.maxDigits := by
    intro i hi
    obtain rfl : i = 1 := by simpa [steps] using hi
    exact Nat.one_lt_pow (by decide) (by decide)
  have text : written steps = "/~01~10//1" := by decide
  exact ⟨text, text ▸ resolve_written "#/~01~10//1" leads short⟩

/-! ## Pointers that lead elsewhere -/

/-- A segment is loose if it is read as an index although it writes none. -/
def LooseIndex (segment : String) : Prop :=
  (Text.integer? segment).isSome = true ∧ ¬ Text.IsDecimal segment

theorem Leads.append {steps' : List Step} (h : Leads steps u v) (h' : Leads steps' v w) :
    Leads (steps ++ steps') u w := by
  induction h with
  | here => exact h'
  | name hg _ ih => exact .name hg (ih h')
  | index hi _ ih => exact .index hi (ih h')

/-- A segment that is not loose is a step wherever it leads. -/
theorem exists_step_of_down (h : Down s v u) (strict : ¬ LooseIndex s) :
    ∃ step : Step, step.text = s ∧ Leads [step] v u := by
  cases h with
  | member hg => exact ⟨.name s, rfl, .name hg .here⟩
  | item hi =>
    obtain ⟨n, hn, -⟩ := Option.bind_eq_some_iff.1 hi
    have decimal : Text.IsDecimal s := by
      by_contra loose
      exact strict ⟨Option.isSome_of_eq_some hn, loose⟩
    obtain ⟨i, rfl⟩ := Text.isDecimal_iff.1 decimal
    exact ⟨.index i, rfl, .index (down_toString_iff.1 (.item hi)).1 .here⟩

theorem exists_steps_of_walk (h : walk ref segments v = .ok w)
    (strict : ∀ s ∈ segments, ¬ LooseIndex s) :
    ∃ steps : List Step, steps.map Step.text = segments ∧ Leads steps v w := by
  induction segments generalizing v with
  | nil =>
    obtain rfl := Except.ok.inj h
    exact ⟨[], rfl, .here⟩
  | cons s rest ih =>
    obtain ⟨u, down, h⟩ := walk_cons_eq_ok_iff.1 h
    obtain ⟨step, text, first⟩ := exists_step_of_down down (strict s List.mem_cons_self)
    obtain ⟨steps, texts, leads⟩ := ih h fun s hs => strict s (List.mem_cons_of_mem _ hs)
    exact ⟨step :: steps, by rw [List.map_cons, text, texts], first.append leads⟩

/-- The value under a name in a mapping with nothing else, under the next name, and so on. -/
def under : List String → Value → Value
  | [], v => v
  | name :: names, v => .map [(.str name, under names v)]

theorem get?_single (name : String) (v : Value) : Members.get? name [(.str name, v)] = some v := by
  rw [Members.get?, if_pos (beq_self_eq_true name)]

theorem walk_under (names segments : List String) (v : Value) :
    walk ref (names ++ segments) (under names v) = walk ref segments v := by
  induction names with
  | nil => rfl
  | cons name names ih =>
    rw [List.cons_append, walk, under, step_eq_ok_iff.2 (.member (get?_single name _))]
    exact ih

/-- Steps that lead through the names only lead on from the value. -/
theorem leads_under (names : List String) (h : Leads steps (under names v) w)
    (texts : steps.map Step.text = names ++ segments) :
    ∃ rest : List Step, rest.map Step.text = segments ∧ Leads rest v w := by
  induction names generalizing steps with
  | nil => exact ⟨steps, texts, h⟩
  | cons name names ih =>
    cases h with
    | here => cases texts
    | name hg h =>
      obtain ⟨rfl, others⟩ := List.cons.inj texts
      obtain rfl := Option.some.inj ((get?_single _ _).symm.trans hg)
      exact ih h others

/-- What is read as an index is one in a list that is long enough, counted from either end. -/
theorem itemAt?_replicate (n : ℤ) (v : Value) :
    itemAt? (List.replicate (n.natAbs + 1) v) n = some v := by
  unfold itemAt?
  split
  · rw [List.length_replicate, if_pos (by omega), List.getElem?_replicate, if_pos (by omega)]
  · rw [List.getElem?_replicate, if_pos (by omega)]

theorem not_leads_of_looseIndex (loose : LooseIndex s)
    (texts : steps.map Step.text = s :: segments) : ¬ Leads steps (.list items) w := by
  intro h
  cases h with
  | here => cases texts
  | index => exact loose.2 (Text.isDecimal_iff.2 ⟨_, (List.cons.inj texts).1.symm⟩)

/-- Without loose segments after the first, which is looked up in the document itself, a pointer
names what it leads to. -/
theorem names_of_walk (hs : segments? pointer = some segments)
    (h : walk ref segments (.map ms) = .ok node) (strict : ∀ s ∈ segments.tail, ¬ LooseIndex s) :
    Names pointer (.map ms) node := by
  cases segments with
  | nil =>
    obtain rfl := Except.ok.inj h
    exact ⟨[], hs, .here⟩
  | cons first tail =>
    obtain ⟨u, down, h⟩ := walk_cons_eq_ok_iff.1 h
    obtain ⟨steps, texts, leads⟩ := exists_steps_of_walk h strict
    cases down with
    | member hg =>
      exact ⟨.name first :: steps, by rw [hs, List.map_cons, texts, Step.text], .name hg leads⟩

/-- The document that a loose segment goes astray in has a list where that segment is applied, long
enough to have an item for it. -/
theorem exists_not_names {first : String} {before after : List String} (ref : String)
    (hs : segments? pointer = some (first :: (before ++ s :: after))) (loose : LooseIndex s) :
    ∃ (ms : Members) (node : Value), resolve ref pointer (.map ms) = .ok node ∧
      ¬ Names pointer (.map ms) node := by
  obtain ⟨n, hn⟩ := Option.isSome_iff_exists.1 loose.1
  let rest := under after (.scalar .null)
  let items := List.replicate (n.natAbs + 1) rest
  refine ⟨[(.str first, under before (.list items))], .scalar .null, ?_, ?_⟩
  · have item : Down s (.list items) rest := .item (by rw [hn, Option.bind_some, itemAt?_replicate])
    have ends : walk ref after rest = .ok (.scalar .null) := by
      have h : walk ref (after ++ []) rest = .ok (.scalar .null) := walk_under after [] _
      rwa [List.append_nil] at h
    have found := (walk_under (first :: before) (s :: after) (.list items)).trans
      (walk_cons_eq_ok_iff.2 ⟨rest, item, ends⟩)
    exact resolve_eq_ok_iff.2 ⟨_, hs, found⟩
  · rintro ⟨steps, written, leads⟩
    have texts := Option.some.inj (written.symm.trans hs)
    obtain ⟨steps, texts, leads⟩ := leads_under (first :: before) leads texts
    exact not_leads_of_looseIndex loose texts leads

/-- A pointer names what it leads to, in every document, exactly if none of its segments after the
first is loose. -/
theorem resolve_names_iff (ref pointer : String) :
    (∀ (ms : Members) (node : Value), resolve ref pointer (.map ms) = .ok node →
      Names pointer (.map ms) node) ↔
    ∀ segments, segments? pointer = some segments → ∀ s ∈ segments.tail, ¬ LooseIndex s := by
  constructor
  · intro names segments hs s mem loose
    cases segments with
    | nil => cases mem
    | cons first tail =>
      obtain ⟨before, after, rfl⟩ := List.append_of_mem mem
      obtain ⟨ms, node, found, unnamed⟩ := exists_not_names ref hs loose
      exact unnamed (names ms node found)
  · intro strict ms node h
    obtain ⟨segments, hs, h⟩ := resolve_eq_ok_iff.1 h
    exact names_of_walk hs h (strict segments hs)

/-- A negative index counts from the end, and no step is written like that. -/
theorem resolve_negative_index :
    let root := Value.map [(.str "a", .list [.scalar (.int 1), .scalar (.int 2)])]
    resolve "#/a/-1" "/a/-1" root = .ok (.scalar (.int 2)) ∧ ¬ ∃ node, Names "/a/-1" root node := by
  intro root
  have loose : LooseIndex "-1" := by
    refine ⟨by decide, ?_⟩
    rintro (h | ⟨-, digits, -⟩)
    · exact absurd h (by decide)
    · exact absurd (digits '-' (by decide)) (by decide)
  refine ⟨rfl, ?_⟩
  rintro ⟨node, steps, segments, leads⟩
  have texts : steps.map Step.text = ["a"] ++ ["-1"] := (Option.some.inj segments).symm
  obtain ⟨rest, texts, leads⟩ := leads_under ["a"] leads texts
  exact not_leads_of_looseIndex loose texts leads

end ApiAccord.Pointer
