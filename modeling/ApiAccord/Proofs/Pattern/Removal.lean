import ApiAccord.Proofs.Pattern.Matches

/-!
# Texts without their matches

Where it depends on nothing but what follows whether a pattern matches at a place (`ReadBy`), a text
without its matches can be read off from the left, one match or one character after another:
`leftBy` does so, and leaves what `remove` leaves (`toList_remove`).  So the parts of a text can be
looked at one by one, as long as no match begins in one part and ends in the next (`leftBy_append`).
-/

namespace ApiAccord.Pattern

variable {p : Pattern} {rest? : List Char → Option (List Char)} {cs t tail rest : List Char}
  {c : Char} {i n fuel : ℕ} {m : Match}

/-- The pattern matches at a place just if `rest?` finds something left of what follows, and the
match ends there.  It remembers nothing, and takes at least one character. -/
structure ReadBy (p : Pattern) (rest? : List Char → Option (List Char)) : Prop where
  matchAt : ∀ (cs : List Char) (i : ℕ), p.matchAt cs.toArray i =
    (rest? (cs.drop i)).map fun rest => ⟨i, cs.length - rest.length, []⟩
  suffix : ∀ {cs rest : List Char}, rest? cs = some rest → rest <:+ cs
  length_lt : ∀ {cs rest : List Char}, rest? cs = some rest → rest.length < cs.length

/-- What is left of a text when all is taken away after which `rest?` goes on. -/
def leftBy (rest? : List Char → Option (List Char)) : List Char → List Char
  | [] => []
  | c :: cs =>
    match rest? (c :: cs) with
    | some rest => if rest.length ≤ cs.length then leftBy rest? rest else []
    | none => c :: leftBy rest? cs
termination_by cs => cs.length

@[simp] theorem leftBy_nil : leftBy rest? [] = [] := by rw [leftBy]

theorem leftBy_cons_of_none (h : rest? (c :: cs) = none) :
    leftBy rest? (c :: cs) = c :: leftBy rest? cs := by
  rw [leftBy, h]

theorem ReadBy.leftBy_of_some (r : ReadBy p rest?) (h : rest? cs = some rest) :
    leftBy rest? cs = leftBy rest? rest := by
  have lt := r.length_lt h
  cases cs with
  | nil => cases lt
  | cons c cs =>
    rw [List.length_cons, Nat.lt_succ_iff] at lt
    rw [leftBy, h]
    exact if_pos lt

/-- What follows tells the match at a place if it tells all the ways to match there. -/
theorem matchAt_eq_of_outcomes (h : ∀ st, st ∈ outcomes cs.toArray p ⟨i, []⟩ ↔
      ∃ rest, rest? (cs.drop i) = some rest ∧ st = ⟨cs.length - rest.length, []⟩) :
    p.matchAt cs.toArray i =
      (rest? (cs.drop i)).map fun rest => ⟨i, cs.length - rest.length, []⟩ := by
  rw [matchAt_eq]
  cases first : (outcomes cs.toArray p ⟨i, []⟩).head? with
  | none =>
    cases found : rest? (cs.drop i) with
    | none => rfl
    | some rest =>
      rw [List.head?_eq_none_iff] at first
      have reached := (h _).2 ⟨rest, found, rfl⟩
      rw [first] at reached
      cases reached
  | some st =>
    obtain ⟨rest, found, rfl⟩ := (h st).1 (List.mem_of_head? first)
    rw [found]
    rfl

/-! ## Reading off what is left -/

theorem ReadBy.of_matchAt (r : ReadBy p rest?) (h : p.matchAt cs.toArray i = some m) :
    m.start = i ∧ i < m.stop ∧ m.stop ≤ cs.length ∧ rest? (cs.drop i) = some (cs.drop m.stop) := by
  rw [r.matchAt] at h
  obtain ⟨rest, found, rfl⟩ := Option.map_eq_some_iff.1 h
  have lt := r.length_lt found
  have suffix := (r.suffix found).trans (List.drop_suffix i cs)
  have fits := suffix.length_le
  rw [List.length_drop] at lt
  refine ⟨rfl, by dsimp only; omega, Nat.sub_le _ _, ?_⟩
  rw [found, ← List.suffix_iff_eq_drop.1 suffix]

/-- Up to the first match, all is left. -/
theorem ReadBy.leftBy_drop (r : ReadBy p rest?) (hn : i + n ≤ cs.length)
    (none : ∀ j, i ≤ j → j < i + n → p.matchAt cs.toArray j = none) :
    leftBy rest? (cs.drop i) = (cs.drop i).take n ++ leftBy rest? (cs.drop (i + n)) := by
  induction n generalizing i with
  | zero => rw [List.take_zero, List.nil_append, Nat.add_zero]
  | succ n ih =>
    have here := none i le_rfl (by omega)
    have next := ih (i := i + 1) (by omega) fun j hj lt => none j (by omega) (by omega)
    have first : cs.drop i = cs[i] :: cs.drop (i + 1) := List.drop_eq_getElem_cons (by omega)
    rw [r.matchAt, Option.map_eq_none_iff, first] at here
    rw [first, leftBy_cons_of_none here, next, List.take_succ_cons, List.cons_append,
      Nat.add_right_comm, Nat.add_assoc]

/-- What the matches leave is kept, in front of what is left behind the last one. -/
theorem ReadBy.foldl_matchesFrom (r : ReadBy p rest?) (acc : List Char)
    (room : cs.length < i + fuel) (hi : i ≤ cs.length) :
    let kept := (p.matchesFrom cs.toArray fuel i).foldl
      (fun (acc, i) m => (acc ++ (cs.toArray.extract i m.start).toList, m.stop)) (acc, i)
    kept.1 ++ (cs.toArray.extract kept.2 cs.toArray.size).toList =
      acc ++ leftBy rest? (cs.drop i) := by
  induction fuel generalizing i acc with
  | zero => omega
  | succ fuel ih =>
    have size : cs.toArray.size = cs.length := rfl
    rw [matchesFrom]
    cases found : p.findFrom cs.toArray (cs.toArray.size - i) i with
    | none =>
      have rest := r.leftBy_drop (n := cs.length - i) (by omega) fun j hj lt =>
        findFrom_eq_none found hj (by omega)
      have ends : i + (cs.length - i) = cs.length := by omega
      rw [rest, ends, List.drop_length, leftBy_nil, List.append_nil]
      simp
    | some m =>
      obtain ⟨le, -, here, before⟩ := findFrom_eq_some found
      obtain ⟨-, lt, fits, after⟩ := r.of_matchAt here
      have next : max m.stop (m.start + 1) = m.stop := by omega
      have kept := r.leftBy_drop (i := i) (n := m.start - i) (by omega) fun j hj lt =>
        before j hj (by omega)
      have reach : i + (m.start - i) = m.start := by omega
      rw [reach, r.leftBy_of_some after] at kept
      have rest := ih (i := m.stop) (acc ++ (cs.toArray.extract i m.start).toList) (by omega) fits
      dsimp only at rest ⊢
      rw [List.foldl_cons, next, rest, kept]
      simp

/-- A text without its matches is what is left when it is read. -/
theorem ReadBy.toList_remove (r : ReadBy p rest?) (s : String) :
    (p.remove s).toList = leftBy rest? s.toList := by
  have room : s.toList.length < 0 + (s.toList.length + 1) := by omega
  have kept := r.foldl_matchesFrom [] room (Nat.zero_le _)
  rw [remove, String.toList_ofList]
  exact kept

/-! ## Parts of a text -/

/-- If it makes no difference to the matches in one part of a text what comes behind it, the parts
can be looked at one by one. -/
theorem ReadBy.leftBy_append (r : ReadBy p rest?)
    (apart : ∀ u, u ≠ [] → u <:+ t → rest? (u ++ tail) = (rest? u).map (· ++ tail)) :
    leftBy rest? (t ++ tail) = leftBy rest? t ++ leftBy rest? tail := by
  obtain ⟨n, hn⟩ : ∃ n, t.length < n := ⟨_, Nat.lt_succ_self _⟩
  induction n generalizing t with
  | zero => omega
  | succ n ih =>
    cases t with
    | nil => rw [List.nil_append, leftBy_nil, List.nil_append]
    | cons c cs =>
      have first := apart (c :: cs) (List.cons_ne_nil c cs) List.suffix_rfl
      cases found : rest? (c :: cs) with
      | none =>
        rw [found, Option.map_none, List.cons_append] at first
        rw [List.cons_append, leftBy_cons_of_none first, leftBy_cons_of_none found,
          List.cons_append, ih (fun u ne hu => apart u ne (hu.trans (List.suffix_cons c cs)))
            (by simpa using hn)]
      | some rest =>
        have lt := r.length_lt found
        rw [found, Option.map_some] at first
        rw [r.leftBy_of_some first, r.leftBy_of_some found,
          ih (fun u ne hu => apart u ne (hu.trans (r.suffix found))) (by omega)]

end ApiAccord.Pattern
