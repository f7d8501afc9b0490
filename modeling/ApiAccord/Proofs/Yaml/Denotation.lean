import ApiAccord.Proofs.Correspondence
import ApiAccord.Yaml.Value
import Mathlib.Logic.Relation

/-!
# What the nodes of a document denote

The value of a document is read from its nodes with bounds on how deep they may go.  `Part` says,
without a bound, which nodes are read as parts of a collection, and `Denotes` which text a scalar is
read from.  A document breaks the reader exactly if it is well formed and a node in it is
`Undefined`: a scalar whose text fits its tag by form, but names nothing
(`undefined_of_valueOfRoot`, `not_undefined_of_valueOfRoot`), or it contains itself.
-/

namespace ApiAccord.Yaml

/-! ## Parts and texts -/

section Relations

variable (names : Names)

/-- Whether an entry takes over the entries of its value. -/
def Merging (e : Node × Node) : Prop := tagOf (target names e.1) = .merge

/-- The mappings that a node stands for where entries are taken over. -/
inductive Offers : Node → List (Node × Node) → Prop where
  | map {n : Node} {tag : Tag} {entries : List (Node × Node)} :
    target names n = .map tag entries → Offers n entries
  | item {n item : Node} {tag tag' : Tag} {items : List Node} {entries : List (Node × Node)} :
    target names n = .seq tag items → item ∈ items → target names item = .map tag' entries →
      Offers n entries

/-- The entries of a mapping, its own and those that it takes over. -/
inductive Entry : List (Node × Node) → Node × Node → Prop where
  | own {entries : List (Node × Node)} {e : Node × Node} : e ∈ entries → ¬ Merging names e →
    Entry entries (asKey names e.1, e.2)
  | taken {entries entries' : List (Node × Node)} {e e' : Node × Node} :
    e ∈ entries → Merging names e → Offers names e.2 entries' → Entry entries' e' →
      Entry entries e'

/-- `m` is read as a part of the collection `n`. -/
inductive Part : (n m : Node) → Prop where
  | item {n m : Node} {items : List Node} :
    target names n = .seq .seq items → m ∈ items → Part n m
  | pair {n item m : Node} {tag tag' : Tag} {items : List Node} {e : Node × Node} :
    target names n = .seq tag items → tag ≠ .seq → item ∈ items →
      target names item = .map tag' [e] → m = e.1 ∨ m = e.2 → Part n m
  | entry {n m : Node} {tag : Tag} {entries : List (Node × Node)} {e : Node × Node} :
    target names n = .map tag entries → tag = .map ∨ tag = .set → Entry names entries e →
      m = e.1 ∨ m = e.2 → Part n m

/-- The node is read as a scalar with this text. -/
inductive HasText : Node → String → Prop where
  | scalar {n : Node} {tag : Tag} {text : String} : target names n = .scalar tag text →
    HasText n text
  | value {n : Node} {tag : Tag} {entries : List (Node × Node)} {e : Node × Node} {text : String} :
    target names n = .map tag entries →
      (entries.find? fun e => tagOf (target names e.1) == .value) = some e → HasText e.2 text →
      HasText n text

/-- The text of the node fits its tag, but nothing is denoted by it. -/
def Undefined (n : Node) (m : Malformed) : Prop :=
  ∃ text, HasText names n text ∧ scalarOf (tagOf (target names n)) text = .error (.malformed m)

end Relations

variable {names : Names} {n p : Node} {fuel : Nat} {m : Malformed} {text text' : String}
  {entries es : List (Node × Node)} {e : Node × Node} {s : Scalar} {v : Value}

/-! ## Texts -/

theorem hasText_of_textOf (h : textOf names fuel n = .ok text) : HasText names n text := by
  induction fuel generalizing n with
  | zero => cases h
  | succ fuel ih =>
    unfold textOf at h
    split at h
    · next hn =>
      cases h
      exact .scalar hn
    · next hn =>
      split at h
      · next hf => exact .value hn hf (ih h)
      · cases h
    · cases h

theorem HasText.unique (h : HasText names n text) (h' : HasText names n text') : text = text' := by
  induction h with
  | scalar hn =>
    cases h' with
    | scalar hn' => exact (Node.scalar.inj (hn.symm.trans hn')).2
    | value hn' => cases hn.symm.trans hn'
  | value hn hf _ ih =>
    cases h' with
    | scalar hn' => cases hn.symm.trans hn'
    | value hn' hf' h' =>
      cases hn.symm.trans hn'
      cases hf.symm.trans hf'
      exact ih h'

theorem endless_of_textOf (h : textOf names fuel n = .error (.malformed m)) : m = .endless := by
  induction fuel generalizing n with
  | zero => cases h; rfl
  | succ fuel ih =>
    unfold textOf at h
    split at h
    · cases h
    · split at h
      · exact ih h
      · cases h
    · cases h

/-! ## Scalars -/

theorem scalarNode_cases (names : Names) (fuel : Nat) (n : Node) :
    scalarNode names fuel n = refuse ∨
      scalarNode names fuel n =
        (textOf names fuel n).bind (scalarOf (tagOf (target names n))) := by
  unfold scalarNode
  dsimp only
  split
  · exact .inl rfl
  · exact .inl rfl
  · exact .inl rfl
  · exact .inr rfl

theorem not_undefined_of_scalarNode (h : scalarNode names fuel n = .ok s) :
    ¬ Undefined names n m := by
  rintro ⟨text', ht', hm⟩
  obtain hs | hs := scalarNode_cases names fuel n
  · cases hs.symm.trans h
  · obtain ⟨text, ht, hs⟩ := bind_eq_ok_iff.1 (hs.symm.trans h)
    rw [(hasText_of_textOf ht).unique ht', hm] at hs
    cases hs

theorem undefined_of_scalarNode (h : scalarNode names fuel n = .error (.malformed m)) :
    m = .endless ∨ Undefined names n m := by
  obtain hs | hs := scalarNode_cases names fuel n
  · cases hs.symm.trans h
  · obtain h | ⟨text, ht, hs⟩ := bind_eq_error_iff.1 (hs.symm.trans h)
    · exact .inl (endless_of_textOf h)
    · exact .inr ⟨text, hasText_of_textOf ht, hs⟩

/-! ## Entries -/

/-- The entries that are read are those of the mapping; and nothing breaks the reader there but a
mapping that takes over itself. -/
structure EntriesRead (names : Names) (fuel : Nat) (entries : List (Node × Node)) : Prop where
  mem : ∀ es, entriesOf names fuel entries = .ok es → ∀ e, e ∈ es ↔ Entry names entries e
  endless : ∀ m, entriesOf names fuel entries = .error (.malformed m) → m = .endless

structure TakenRead (names : Names) (fuel : Nat) (n : Node) : Prop where
  mem : ∀ es, takenFrom names fuel n = .ok es →
    ∀ e, e ∈ es ↔ ∃ entries, Offers names n entries ∧ Entry names entries e
  endless : ∀ m, takenFrom names fuel n = .error (.malformed m) → m = .endless

theorem entry_iff : Entry names entries e ↔
    (∃ e' ∈ entries, ¬ Merging names e' ∧ e = (asKey names e'.1, e'.2)) ∨
      ∃ e' ∈ entries, Merging names e' ∧ ∃ entries', Offers names e'.2 entries' ∧
        Entry names entries' e := by
  constructor
  · intro h
    cases h with
    | own he hm => exact .inl ⟨_, he, hm, rfl⟩
    | taken he hm ho h => exact .inr ⟨_, he, hm, _, ho, h⟩
  · rintro (⟨e', he, hm, rfl⟩ | ⟨e', he, hm, entries', ho, h⟩)
    · exact .own he hm
    · exact .taken he hm ho h

theorem entriesRead_succ (h : ∀ n, TakenRead names fuel n) (entries : List (Node × Node)) :
    EntriesRead names (fuel + 1) entries := by
  constructor
  · intro es hes e
    rw [entriesOf] at hes
    obtain ⟨taken, ht, hes⟩ := bind_eq_ok_iff.1 hes
    cases hes
    rw [List.mem_append, mem_flatten_of_mapM ht, entry_iff, or_comm, List.mem_map]
    refine or_congr ⟨?_, ?_⟩ ⟨?_, ?_⟩
    · rintro ⟨e', he', rfl⟩
      obtain ⟨he', hm⟩ := List.mem_filter.1 he'
      exact ⟨e', he', by simpa [Merging] using hm, rfl⟩
    · rintro ⟨e', he', hm, rfl⟩
      exact ⟨e', List.mem_filter.2 ⟨he', by simpa [Merging] using hm⟩, rfl⟩
    · rintro ⟨e', he', es', hes', he⟩
      obtain ⟨he', hm⟩ := List.mem_filter.1 he'
      exact ⟨e', he', eq_of_beq hm, ((h e'.2).mem es' hes' e).1 he⟩
    · rintro ⟨e', he', hm, he⟩
      have he' : e' ∈ entries.filter fun e => tagOf (target names e.1) == .merge :=
        List.mem_filter.2 ⟨he', beq_iff_eq.2 hm⟩
      obtain ⟨es', -, hes'⟩ := exists_of_mapM_eq_ok ht he'
      exact ⟨e', he', es', hes', ((h e'.2).mem es' hes' e).2 he⟩
  · intro m hm
    rw [entriesOf] at hm
    obtain hm | ⟨_, -, hm⟩ := bind_eq_error_iff.1 hm
    · obtain ⟨e, -, hm⟩ := exists_of_mapM_eq_error hm
      exact (h e.2).endless m hm
    · cases hm

theorem takenRead_succ (h : ∀ entries, EntriesRead names fuel entries) (n : Node) :
    TakenRead names (fuel + 1) n := by
  constructor
  · intro es hes e
    rw [takenFrom] at hes
    split at hes
    · next tag entries hn =>
      rw [(h entries).mem es hes e]
      refine ⟨fun he => ⟨entries, .map hn, he⟩, ?_⟩
      rintro ⟨entries', ho, he⟩
      cases ho with
      | map hn' => cases hn.symm.trans hn'; exact he
      | item hn' => cases hn.symm.trans hn'
    · next tag items hn =>
      obtain ⟨parts, hp, hes⟩ := bind_eq_ok_iff.1 hes
      cases hes
      have mem : e ∈ parts.reverse.flatten ↔ e ∈ parts.flatten := by
        simp only [List.mem_flatten, List.mem_reverse]
      rw [mem, mem_flatten_of_mapM hp]
      constructor
      · rintro ⟨item, hi, es, hes, he⟩
        split at hes
        · next hm => exact ⟨_, .item hn hi hm, ((h _).mem es hes e).1 he⟩
        · cases hes
      · rintro ⟨entries, ho, he⟩
        cases ho with
        | map hn' => cases hn.symm.trans hn'
        | item hn' hi hm =>
          cases hn.symm.trans hn'
          obtain ⟨es, -, hes⟩ := exists_of_mapM_eq_ok hp hi
          refine ⟨_, hi, es, hes, ?_⟩
          simp only [hm] at hes
          exact ((h _).mem es hes e).2 he
    · cases hes
  · intro m hm
    rw [takenFrom] at hm
    split at hm
    · exact (h _).endless m hm
    · obtain hm | ⟨_, -, hm⟩ := bind_eq_error_iff.1 hm
      · obtain ⟨item, -, hm⟩ := exists_of_mapM_eq_error hm
        split at hm
        · exact (h _).endless m hm
        · cases hm
      · cases hm
    · cases hm

theorem entriesRead (names : Names) (fuel : Nat) :
    (∀ entries, EntriesRead names fuel entries) ∧ ∀ n, TakenRead names fuel n := by
  induction fuel with
  | zero =>
    refine ⟨fun entries => ⟨fun es h => ?_, fun m h => ?_⟩, fun n => ⟨fun es h => ?_, fun m h => ?_⟩⟩
    all_goals
      simp only [entriesOf, takenFrom] at h
      cases h
    all_goals rfl
  | succ fuel ih => exact ⟨entriesRead_succ ih.2, takenRead_succ ih.1⟩

theorem mem_entriesOf_iff (h : entriesOf names fuel entries = .ok es) :
    e ∈ es ↔ Entry names entries e :=
  ((entriesRead names fuel).1 entries).mem es h e

theorem endless_of_entriesOf (h : entriesOf names fuel entries = .error (.malformed m)) :
    m = .endless :=
  ((entriesRead names fuel).1 entries).endless m h

/-! ## What breaks the reader -/

/-- Reading the node leads to one that is undefined, or around a circle. -/
def Broken (names : Names) (n : Node) (m : Malformed) : Prop :=
  m = .endless ∨ ∃ p, Relation.ReflTransGen (Part names) n p ∧ Undefined names p m

/-- If anything breaks the computation, then something at the node or below it does. -/
def BrokenAt {α : Type} (names : Names) (n : Node) (x : Except Problem α) : Prop :=
  ∀ m, x = .error (.malformed m) → Broken names n m

namespace BrokenAt

variable {α β : Type} {x : Except Problem α} {k : α → Except Problem β}

theorem ok (a : α) : BrokenAt names n (.ok a) := fun _ h => nomatch h

theorem refuse : BrokenAt names n (refuse : Except Problem α) := fun _ h => nomatch h

theorem endless (h : ∀ m, x = .error (.malformed m) → m = .endless) : BrokenAt names n x :=
  fun m hm => .inl (h m hm)

theorem below (hp : Relation.ReflTransGen (Part names) n p) (h : BrokenAt names p x) :
    BrokenAt names n x :=
  fun m hm => (h m hm).imp_right fun ⟨q, hq, hu⟩ => ⟨q, hp.trans hq, hu⟩

theorem part (hp : Part names n p) (h : BrokenAt names p x) : BrokenAt names n x :=
  h.below (.single hp)

theorem bind (hx : BrokenAt names n x) (hk : ∀ a, x = .ok a → BrokenAt names n (k a)) :
    BrokenAt names n (x.bind k) := by
  intro m h
  obtain h | ⟨a, ha, h⟩ := bind_eq_error_iff.1 h
  · exact hx m h
  · exact hk a ha m h

theorem map (hx : BrokenAt names n x) (f : α → β) : BrokenAt names n (x.map f) :=
  fun m h => hx m (map_eq_error_iff.1 h)

theorem mapM {f : β → Except Problem α} {l : List β} (h : ∀ b ∈ l, BrokenAt names n (f b)) :
    BrokenAt names n (l.mapM f) := by
  intro m hm
  obtain ⟨b, hb, hm⟩ := exists_of_mapM_eq_error hm
  exact h b hb m hm

end BrokenAt

theorem brokenAt_scalarNode : BrokenAt names n (scalarNode names fuel n) :=
  fun _ h => (undefined_of_scalarNode h).imp_right fun hu => ⟨n, .refl, hu⟩

theorem brokenAt_entriesOf : BrokenAt names n (entriesOf names fuel entries) :=
  .endless fun _ => endless_of_entriesOf

theorem brokenAt_onlyEntry : BrokenAt names n (onlyEntry names p) := by
  unfold onlyEntry
  split
  · exact .ok _
  · exact .refuse

/-! ## Parts -/

theorem target_of_onlyEntry (h : onlyEntry names n = .ok e) :
    ∃ tag, target names n = .map tag [e] := by
  unfold onlyEntry at h
  split at h
  · next tag e' hn =>
    cases h
    exact ⟨tag, hn⟩
  · cases h

/-- The parts of a mapping, or of the entries of a sequence. -/
def entryParts (isKey : Bool) (es : List (Node × Node)) : List (Bool × Node) :=
  es.flatMap fun e => [(isKey, e.1), (false, e.2)]

theorem mem_entryParts {isKey : Bool} {q : Bool × Node} (h : q ∈ entryParts isKey es) :
    ∃ e ∈ es, q.2 = e.1 ∨ q.2 = e.2 := by
  obtain ⟨e, he, hq⟩ := List.mem_flatMap.1 h
  refine ⟨e, he, ?_⟩
  rcases List.mem_cons.1 hq with rfl | hq
  · exact .inl rfl
  · exact .inr (congrArg Prod.snd (List.mem_singleton.1 hq))

theorem partsOf_cases {x : Except Problem (List (Bool × Node))} (h : partsOf names fuel n = x) :
    (∃ items, target names n = .seq .seq items ∧ x = .ok (items.map (false, ·))) ∨
      (∃ tag items, target names n = .seq tag items ∧ tag ≠ .seq ∧
        x = (items.mapM (onlyEntry names)).map (entryParts false)) ∨
      (∃ tag entries, target names n = .map tag entries ∧ (tag = .map ∨ tag = .set) ∧
        x = (entriesOf names fuel entries).map (entryParts true)) ∨ x = refuse := by
  unfold partsOf at h
  dsimp only at h
  split at h
  · next hn => exact .inl ⟨_, hn, h.symm⟩
  · next hn => exact .inr (.inl ⟨_, _, hn, by decide, h.symm⟩)
  · next hn => exact .inr (.inl ⟨_, _, hn, by decide, h.symm⟩)
  · next hn => exact .inr (.inr (.inl ⟨_, _, hn, .inl rfl, h.symm⟩))
  · next hn => exact .inr (.inr (.inl ⟨_, _, hn, .inr rfl, h.symm⟩))
  · exact .inr (.inr (.inr h.symm))

theorem part_of_mem_partsOf {ps : List (Bool × Node)} (h : partsOf names fuel n = .ok ps)
    {q : Bool × Node} (hq : q ∈ ps) : Part names n q.2 := by
  obtain ⟨items, hn, h⟩ | ⟨tag, items, hn, ht, h⟩ | ⟨tag, entries, hn, ht, h⟩ | h := partsOf_cases h
  · cases h
    obtain ⟨item, hi, rfl⟩ := List.mem_map.1 hq
    exact .item hn hi
  · obtain ⟨es, he, rfl⟩ := map_eq_ok_iff.1 h.symm
    obtain ⟨e, hm, hq⟩ := mem_entryParts hq
    obtain ⟨item, hi, hm⟩ := exists_of_mem_mapM he hm
    obtain ⟨tag', hm⟩ := target_of_onlyEntry hm
    exact .pair hn ht hi hm hq
  · obtain ⟨es, he, rfl⟩ := map_eq_ok_iff.1 h.symm
    obtain ⟨e, hm, hq⟩ := mem_entryParts hq
    exact .entry hn ht ((mem_entriesOf_iff he).1 hm) hq
  · cases h

theorem brokenAt_partsOf : BrokenAt names n (partsOf names fuel n) := by
  obtain ⟨items, hn, h⟩ | ⟨tag, items, hn, ht, h⟩ | ⟨tag, entries, hn, ht, h⟩ | h :=
    partsOf_cases (x := partsOf names fuel n) rfl
  · exact h ▸ .ok _
  · exact h ▸ .map (.mapM fun _ _ => brokenAt_onlyEntry) _
  · exact h ▸ .map brokenAt_entriesOf _
  · exact h ▸ .refuse

/-! ## The check of a document -/

variable {ps : List (Bool × Node)} {ns : List Node}

theorem brokenAt_checkParts (h : ∀ q ∈ ps, Part names n q.2) :
    BrokenAt names n (checkParts names fuel ps) := by
  induction ps with
  | nil => exact .ok _
  | cons q rest ih =>
    have later := ih fun q' hq' => h q' (List.mem_cons_of_mem q hq')
    rw [checkParts]
    split
    · split
      · exact .refuse
      · exact .bind later fun _ _ => .ok _
    · exact .bind (.part (h q List.mem_cons_self) brokenAt_scalarNode) fun _ _ => later

theorem exists_of_mem_checkParts (h : checkParts names fuel ps = .ok ns) (hp : p ∈ ns) :
    ∃ q ∈ ps, q.2 = p := by
  induction ps generalizing ns with
  | nil => cases h; cases hp
  | cons q rest ih =>
    have later {ns : List Node} (h : checkParts names fuel rest = .ok ns) (hp : p ∈ ns) :
        ∃ q' ∈ q :: rest, q'.2 = p := by
      obtain ⟨q', hq', hb⟩ := ih h hp
      exact ⟨q', List.mem_cons_of_mem q hq', hb⟩
    rw [checkParts] at h
    split at h
    · split at h
      · cases h
      · obtain ⟨ns', h', h⟩ := bind_eq_ok_iff.1 h
        cases h
        rcases List.mem_cons.1 hp with rfl | hp
        · exact ⟨q, List.mem_cons_self, rfl⟩
        · exact later h' hp
    · obtain ⟨_, -, h⟩ := bind_eq_ok_iff.1 h
      exact later h hp

/-- The parts that are checked are below the node, and so are those on the next level. -/
theorem brokenAt_checkNode (n : Node) :
    BrokenAt names n ((partsOf names fuel n).bind (checkParts names fuel)) ∧
      ∀ ns, (partsOf names fuel n).bind (checkParts names fuel) = .ok ns →
        ∀ p ∈ ns, Part names n p := by
  refine ⟨.bind brokenAt_partsOf fun ps h =>
    brokenAt_checkParts fun q hq => part_of_mem_partsOf h hq, fun ns h p hp => ?_⟩
  obtain ⟨ps, hps, h⟩ := bind_eq_ok_iff.1 h
  obtain ⟨q, hq, rfl⟩ := exists_of_mem_checkParts h hp
  exact part_of_mem_partsOf hps hq

/-- Checking level after level finds nothing that is not below the nodes of the first level. -/
theorem brokenAt_checkLevels {root : Node} {rounds : Nat} {seen : List String} {level : List Node}
    (h : ∀ n ∈ level, Relation.ReflTransGen (Part names) root n) :
    BrokenAt names root (checkLevels names fuel rounds seen level) := by
  induction rounds generalizing seen level with
  | zero => exact .ok _
  | succ rounds ih =>
    cases level with
    | nil => exact .ok _
    | cons first rest =>
      rw [checkLevels]
      · refine .bind (.mapM fun n hn => ?_) fun parts hp => ih fun p hmem => ?_
        · exact (brokenAt_checkNode n).1.below (h n (List.mem_filter.1 hn).1)
        · obtain ⟨n, hn, ns, hns, hmem⟩ := (mem_flatten_of_mapM hp p).1 hmem
          exact (h n (List.mem_filter.1 hn).1).tail ((brokenAt_checkNode n).2 ns hns p hmem)
      · exact fun h => nomatch h

/-! ## Values -/

variable {inside : List String}

theorem brokenAt_valueOf : BrokenAt names n (valueOf names fuel inside n) := by
  induction fuel generalizing inside n with
  | zero => exact .endless fun m h => by cases h; rfl
  | succ fuel ih =>
    rw [valueOf]
    split
    · exact .endless fun m h => by cases h; rfl
    · dsimp only
      split
      · next items hn => exact .bind (.mapM fun item hi => .part (.item hn hi) ih) fun _ _ => .ok _
      · next tag items ht hn =>
        refine .bind (.mapM fun item hi => .bind brokenAt_onlyEntry fun e he => ?_) fun _ _ => .ok _
        obtain ⟨tag', hm⟩ := target_of_onlyEntry he
        exact .bind (.part (.pair hn ht hi hm (.inl rfl)) ih) fun _ _ =>
          .bind (.part (.pair hn ht hi hm (.inr rfl)) ih) fun _ _ => .ok _
      · next entries hn =>
        refine .bind brokenAt_entriesOf fun es he => .bind (.mapM fun e hm => ?_) fun _ _ => .ok _
        have part {p : Node} := Part.entry (m := p) hn (.inr rfl) ((mem_entriesOf_iff he).1 hm)
        exact .bind (.part (part (.inr rfl)) ih) fun _ _ =>
          .bind (.part (part (.inl rfl)) brokenAt_scalarNode) fun _ _ => .ok _
      · next entries hn =>
        refine .bind brokenAt_entriesOf fun es he => .bind (.mapM fun e hm => ?_) fun _ _ => .ok _
        have part {p : Node} := Part.entry (m := p) hn (.inl rfl) ((mem_entriesOf_iff he).1 hm)
        exact .bind (.part (part (.inl rfl)) brokenAt_scalarNode) fun _ _ =>
          .bind (.part (part (.inr rfl)) ih) fun _ _ => .ok _
      · exact .bind brokenAt_scalarNode fun _ _ => .ok _

/-- Neither the node nor anything below it is undefined. -/
def Defined (names : Names) (n : Node) : Prop :=
  ∀ p, Relation.ReflTransGen (Part names) n p → ∀ m, ¬ Undefined names p m

section Parts

variable {items : List Node} {tag : Tag}

theorem Part.mem_items (hp : Part names n p) (hn : target names n = .seq .seq items) :
    p ∈ items := by
  cases hp with
  | item hn' hi => cases hn.symm.trans hn'; exact hi
  | pair hn' ht => cases hn.symm.trans hn'; exact absurd rfl ht
  | entry hn' => cases hn.symm.trans hn'

theorem Part.exists_onlyEntry (hp : Part names n p) (hn : target names n = .seq tag items)
    (ht : tag ≠ .seq) : ∃ item ∈ items, ∃ e, onlyEntry names item = .ok e ∧ (p = e.1 ∨ p = e.2) := by
  cases hp with
  | item hn' => cases hn.symm.trans hn'; exact absurd rfl ht
  | pair hn' _ hi hm hp =>
    cases hn.symm.trans hn'
    exact ⟨_, hi, _, by rw [onlyEntry, hm], hp⟩
  | entry hn' => cases hn.symm.trans hn'

theorem Part.exists_entry (hp : Part names n p) (hn : target names n = .map tag entries) :
    (tag = .map ∨ tag = .set) ∧ ∃ e, Entry names entries e ∧ (p = e.1 ∨ p = e.2) := by
  cases hp with
  | item hn' => cases hn.symm.trans hn'
  | pair hn' => cases hn.symm.trans hn'
  | entry hn' ht he hp => cases hn.symm.trans hn'; exact ⟨ht, _, he, hp⟩

theorem not_hasText_of_seq (hn : target names n = .seq tag items) : ¬ HasText names n text := by
  intro h
  cases h with
  | scalar hn' => cases hn.symm.trans hn'
  | value hn' => cases hn.symm.trans hn'

theorem Defined.of_parts (h : ∀ m, ¬ Undefined names n m)
    (parts : ∀ p, Part names n p → Defined names p) : Defined names n := by
  intro p hp
  obtain rfl | ⟨q, hq, hp⟩ := hp.cases_head
  · exact h
  · exact parts q hq p hp

theorem Defined.of_seq (hn : target names n = .seq tag items)
    (parts : ∀ p, Part names n p → Defined names p) : Defined names n :=
  .of_parts (fun _ ⟨_, ht, _⟩ => not_hasText_of_seq hn ht) parts

theorem Defined.of_map (hn : target names n = .map tag entries) (ht : tag = .map ∨ tag = .set)
    (parts : ∀ e, Entry names entries e → Defined names e.1 ∧ Defined names e.2) :
    Defined names n := by
  refine .of_parts (fun m => ?_) fun p hp => ?_
  · rintro ⟨text, -, h⟩
    rw [hn, tagOf] at h
    obtain rfl | rfl := ht <;> cases h
  · obtain ⟨-, e, he, rfl | rfl⟩ := hp.exists_entry hn
    · exact (parts e he).1
    · exact (parts e he).2

end Parts

theorem defined_of_scalarNode (h : scalarNode names fuel n = .ok s) : Defined names n := by
  refine .of_parts (fun m => not_undefined_of_scalarNode h) fun p hp => ?_
  obtain hs | hs := scalarNode_cases names fuel n
  · cases hs.symm.trans h
  · obtain ⟨text, ht, hs⟩ := bind_eq_ok_iff.1 (hs.symm.trans h)
    have hasText := hasText_of_textOf ht
    cases hp with
    | item hn => exact absurd hasText (not_hasText_of_seq hn)
    | pair hn => exact absurd hasText (not_hasText_of_seq hn)
    | entry hn ht =>
      rw [hn, tagOf] at hs
      obtain rfl | rfl := ht <;> cases hs

/-- A node with a value is defined, by induction on how deep it may go. -/
theorem defined_of_valueOf (h : valueOf names fuel inside n = .ok v) : Defined names n := by
  induction fuel generalizing inside n v with
  | zero => cases h
  | succ fuel ih =>
    rw [valueOf] at h
    split at h
    · cases h
    · dsimp only at h
      split at h
      · next items hn =>
        obtain ⟨vs, hv, -⟩ := bind_eq_ok_iff.1 h
        refine .of_seq hn fun p hp => ?_
        obtain ⟨_, -, hv⟩ := exists_of_mapM_eq_ok hv (hp.mem_items hn)
        exact ih hv
      · next tag items ht hn =>
        obtain ⟨vs, hv, -⟩ := bind_eq_ok_iff.1 h
        refine .of_seq hn fun p hp => ?_
        obtain ⟨item, hi, e, he, hp⟩ := hp.exists_onlyEntry hn ht
        obtain ⟨_, -, hv⟩ := exists_of_mapM_eq_ok hv hi
        obtain ⟨e', he', hv⟩ := bind_eq_ok_iff.1 hv
        cases he.symm.trans he'
        obtain ⟨_, hk, hv⟩ := bind_eq_ok_iff.1 hv
        obtain ⟨_, hv, -⟩ := bind_eq_ok_iff.1 hv
        obtain rfl | rfl := hp
        · exact ih hk
        · exact ih hv
      · next entries hn =>
        obtain ⟨es, hes, h⟩ := bind_eq_ok_iff.1 h
        obtain ⟨keys, hk, -⟩ := bind_eq_ok_iff.1 h
        refine .of_map hn (.inr rfl) fun e he => ?_
        obtain ⟨_, -, hk⟩ := exists_of_mapM_eq_ok hk ((mem_entriesOf_iff hes).2 he)
        obtain ⟨_, hv, hk⟩ := bind_eq_ok_iff.1 hk
        obtain ⟨_, hs, -⟩ := bind_eq_ok_iff.1 hk
        exact ⟨defined_of_scalarNode hs, ih hv⟩
      · next entries hn =>
        obtain ⟨es, hes, h⟩ := bind_eq_ok_iff.1 h
        obtain ⟨members, hm, -⟩ := bind_eq_ok_iff.1 h
        refine .of_map hn (.inl rfl) fun e he => ?_
        obtain ⟨_, -, hm⟩ := exists_of_mapM_eq_ok hm ((mem_entriesOf_iff hes).2 he)
        obtain ⟨_, hs, hm⟩ := bind_eq_ok_iff.1 hm
        obtain ⟨_, hv, -⟩ := bind_eq_ok_iff.1 hm
        exact ⟨defined_of_scalarNode hs, ih hv⟩
      · obtain ⟨_, hs, -⟩ := bind_eq_ok_iff.1 h
        exact defined_of_scalarNode hs

/-! ## Documents -/

/-- Whatever breaks the reading of a document is a node below its root, or a circle. -/
theorem brokenAt_valueOfRoot (root : Node) : BrokenAt (namedNodes root) root (valueOfRoot root) := by
  unfold valueOfRoot
  refine .bind ?_ fun _ _ => .bind (brokenAt_checkLevels fun n hn => ?_) fun _ _ => brokenAt_valueOf
  · rw [checkParts]
    split
    · exact .ok _
    · exact .bind brokenAt_scalarNode fun _ _ => .ok _
  · split at hn
    · exact List.mem_singleton.1 hn ▸ .refl
    · cases hn

theorem defined_of_valueOfRoot {root : Node} (h : valueOfRoot root = .ok v) :
    Defined (namedNodes root) root := by
  unfold valueOfRoot at h
  obtain ⟨_, -, h⟩ := bind_eq_ok_iff.1 h
  obtain ⟨_, -, h⟩ := bind_eq_ok_iff.1 h
  exact defined_of_valueOf h

/-- The text is well formed, but for escapes, and something in it has no meaning: an escape names no
character, a node is undefined, or a value contains itself. -/
inductive Breaks (text : List Char) : Prop where
  | escape {f : Fault} : Node.ofText text = .error f → f ≠ .illFormed → Breaks text
  | undefined {root n : Node} {m : Malformed} : Node.ofText text = .ok (some root) →
    valueOfRoot root ≠ .error .illFormed →
      Relation.ReflTransGen (Part (namedNodes root)) root n → Undefined (namedNodes root) n m →
        Breaks text
  | circle {root : Node} : Node.ofText text = .ok (some root) →
    valueOfRoot root = .error (.malformed .endless) → Breaks text

theorem breaks_iff_of_root {cs : List Char} {root : Node} (hr : Node.ofText cs = .ok (some root)) :
    Breaks cs ↔ ∃ m, valueOfRoot root = .error (.malformed m) := by
  constructor
  · intro h
    cases h with
    | escape hr' => cases hr.symm.trans hr'
    | undefined hr' hw hn hu =>
      cases hr.symm.trans hr'
      cases hv : valueOfRoot root with
      | ok v => exact absurd hu (defined_of_valueOfRoot hv _ hn _)
      | error p =>
        cases p with
        | illFormed => exact absurd hv hw
        | malformed m => exact ⟨m, rfl⟩
    | circle hr' hc => cases hr.symm.trans hr'; exact ⟨_, hc⟩
  · rintro ⟨m, hv⟩
    obtain rfl | ⟨n, hn, hu⟩ := brokenAt_valueOfRoot root m hv
    · exact .circle hr hv
    · exact .undefined hr (by rw [hv]; exact fun h => nomatch h) hn hu

/-- The reader of YAML is broken exactly by the texts in which something has no meaning. -/
theorem read_eq_malformed_iff (cs : List Char) :
    (∃ m, read cs = .error (.malformed m)) ↔ Breaks cs := by
  unfold read
  cases hr : Node.ofText cs with
  | error f =>
    have broken : Breaks cs ↔ f ≠ .illFormed := by
      refine ⟨fun h => ?_, .escape hr⟩
      cases h with
      | escape hr' hf => cases hr.symm.trans hr'; exact hf
      | undefined hr' => cases hr.symm.trans hr'
      | circle hr' => cases hr.symm.trans hr'
    rw [broken]
    cases f <;> simp [Fault.problem]
  | ok root =>
    cases root with
    | none =>
      refine iff_of_false (fun ⟨_, h⟩ => nomatch h) fun h => ?_
      cases h with
      | escape hr' => cases hr.symm.trans hr'
      | undefined hr' => cases hr.symm.trans hr'
      | circle hr' => cases hr.symm.trans hr'
    | some root =>
      rw [breaks_iff_of_root hr]
      simp only [map_eq_error_iff]

end ApiAccord.Yaml
