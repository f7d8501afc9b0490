import ApiAccord.Proofs.Text
import ApiAccord.Script.Features
import Mathlib.Algebra.Ring.Nat
import Mathlib.Data.List.DropRight
import Mathlib.Data.List.SplitBy
import Mathlib.Data.Nat.Log
import Mathlib.Logic.Function.Iterate

/-!
# Joined paths have single slashes

The path that a decorator declares is put below the path of its router.  Every two slashes that
stand together are then written as one, in rounds, until no two are left.  A round halves each run
of slashes and leaves the other characters alone (`runs_halveSlashes`), so that two slashes still
stand together after `n` rounds exactly if there was a run of more than `2 ^ n`
(`doubled_iterate_iff`).  So the rounds come to an end, and one slash is left of every run
(`declared_path_collapsed`).
-/

namespace ApiAccord.Script

variable {path tail text : Codes} {router : Expr} {call : Call} {attr : String} {c n : ℕ}

/-! ## Runs of slashes -/

/-- The runs of a path: all slashes that stand together are one run, and each other character is a
run of its own (`List.splitBy_eq_iff`). -/
def runs (path : Codes) : List Codes := path.splitBy fun a b => a == slash && b == slash

theorem runs_cons_of_ne (h : c ≠ slash) (tail : Codes) : runs (c :: tail) = [c] :: runs tail := by
  have apart : ∀ x ∈ [c].getLast?, ∀ y ∈ tail.head?, (x == slash && y == slash) = false := by
    simp [h]
  exact List.splitBy_append apart

theorem runs_replicate_append (k : ℕ) (h : tail.head? ≠ some slash) :
    runs (List.replicate (k + 1) slash ++ tail) = List.replicate (k + 1) slash :: runs tail := by
  have apart : ∀ x ∈ (List.replicate (k + 1) slash).getLast?, ∀ y ∈ tail.head?,
      (x == slash && y == slash) = false := by
    intro x _ y hy
    have : y ≠ slash := fun hs => h (hs ▸ hy)
    simp [this]
  have one : (List.replicate (k + 1) slash).splitBy (fun a b => a == slash && b == slash) =
      [List.replicate (k + 1) slash] :=
    List.splitBy_of_isChain (by simp) (List.isChain_replicate_of_rel _ rfl)
  rw [runs, List.splitBy_append apart, one]
  rfl

/-- A path is empty, or begins with a character that is no slash, or with a run of slashes. -/
theorem runs_induction {P : Codes → Prop} (path : Codes) (nil : P [])
    (other : ∀ c tail, c ≠ slash → P tail → P (c :: tail))
    (run : ∀ k tail, tail.head? ≠ some slash → P tail →
      P (List.replicate (k + 1) slash ++ tail)) : P path := by
  -- Slashes already met are put in front of what is left to read.
  suffices ∀ k, P (List.replicate k slash ++ path) from this 0
  have front {tail : Codes} (h : tail.head? ≠ some slash) (ht : P tail) (k : ℕ) :
      P (List.replicate k slash ++ tail) := by
    cases k with
    | zero => exact ht
    | succ k => exact run k tail h ht
  induction path with
  | nil => exact front (by simp) nil
  | cons c rest ih =>
    by_cases hc : c = slash
    · subst hc
      intro k
      have more := ih (k + 1)
      rwa [List.replicate_succ', List.append_assoc] at more
    · exact front (by simp [hc]) (other c rest hc (ih 0))

/-- Two slashes stand together if some run has more than one character. -/
theorem doubled_iff : [slash, slash] <:+: path ↔ ∃ run ∈ runs path, 1 < run.length := by
  induction path using runs_induction with
  | nil => simp [runs]
  | other c tail hc ih =>
    rw [List.infix_cons_iff, ih, runs_cons_of_ne hc]
    simp [hc.symm]
  | run k tail h ih =>
    rw [runs_replicate_append k h]
    cases k with
    | zero =>
      have first : ¬ [slash, slash] <+: slash :: tail := by
        rintro ⟨rest, hr⟩
        obtain rfl := (List.cons.inj hr).2
        exact h rfl
      rw [List.replicate_one, List.singleton_append, List.infix_cons_iff, or_iff_right first, ih]
      simp
    | succ k =>
      have first : [slash, slash] <:+: List.replicate (k + 2) slash ++ tail :=
        List.IsPrefix.isInfix ⟨List.replicate k slash ++ tail, rfl⟩
      exact iff_of_true first ⟨_, List.mem_cons_self, by simp⟩

/-! ## One round -/

theorem halveSlashes_cons_of_ne (h : c ≠ slash) (tail : Codes) :
    halveSlashes (c :: tail) = c :: halveSlashes tail :=
  Text.Chars.replacePair_cons_of_ne h _ _

/-- Of a run of slashes half are left, rounded up. -/
theorem halveSlashes_replicate_append (k : ℕ) (h : tail.head? ≠ some slash) :
    halveSlashes (List.replicate k slash ++ tail) =
      List.replicate ((k + 1) / 2) slash ++ halveSlashes tail := by
  induction k using Nat.twoStepInduction with
  | zero => rfl
  | one =>
    cases tail with
    | nil => rfl
    | cons c rest =>
      have hc : c ≠ slash := fun hc => h (by rw [hc]; rfl)
      simp [halveSlashes, Text.Chars.replacePair, hc]
  | more k ih _ =>
    have pair : halveSlashes (List.replicate (k + 2) slash ++ tail) =
        slash :: halveSlashes (List.replicate k slash ++ tail) := by
      simp [halveSlashes, Text.Chars.replacePair, List.replicate_succ]
    have half : (k + 2 + 1) / 2 = (k + 1) / 2 + 1 := by omega
    rw [pair, ih, half, List.replicate_succ, List.cons_append]

/-- A path begins as before. -/
theorem head?_halveSlashes (path : Codes) : (halveSlashes path).head? = path.head? := by
  unfold halveSlashes
  fun_cases Text.Chars.replacePair slash slash [slash] path with
  | case1 => rfl
  | case2 => rfl
  | case3 a b rest h =>
    rw [Bool.and_eq_true, beq_iff_eq, beq_iff_eq] at h
    rw [h.1]
    rfl
  | case4 => rfl

/-- A round keeps the runs, and of each run the first half, rounded up. -/
theorem runs_halveSlashes (path : Codes) :
    runs (halveSlashes path) = (runs path).map fun run => run.take ((run.length + 1) / 2) := by
  induction path using runs_induction with
  | nil => rfl
  | other c tail hc ih =>
    have alone : [c].take (([c].length + 1) / 2) = [c] := by simp
    rw [halveSlashes_cons_of_ne hc, runs_cons_of_ne hc, runs_cons_of_ne hc, ih, List.map_cons,
      alone]
  | run k tail h ih =>
    obtain ⟨j, hj⟩ : ∃ j, (k + 1 + 1) / 2 = j + 1 := ⟨k / 2, by omega⟩
    have le : j + 1 ≤ k + 1 := by omega
    have h' : (halveSlashes tail).head? ≠ some slash := by rwa [head?_halveSlashes]
    rw [halveSlashes_replicate_append _ h, hj, runs_replicate_append j h',
      runs_replicate_append k h, List.map_cons, List.length_replicate, hj, List.take_replicate,
      Nat.min_eq_left le, ih]

/-- What is left when one character of each run is kept is the same after a round. -/
theorem flatMap_take_runs_halveSlashes (path : Codes) :
    (runs (halveSlashes path)).flatMap (List.take 1) = (runs path).flatMap (List.take 1) := by
  rw [runs_halveSlashes, List.flatMap_map]
  congr 1
  funext run
  cases run with
  | nil => rfl
  | cons c rest =>
    have : min 1 (((c :: rest).length + 1) / 2) = 1 := by
      rw [List.length_cons]
      omega
    rw [List.take_take, this]

/-! ## All rounds -/

/-- After `n` rounds two slashes stand together if there was a run of more than `2 ^ n`. -/
theorem doubled_iterate_iff (n : ℕ) (path : Codes) :
    [slash, slash] <:+: halveSlashes^[n] path ↔ ∃ run ∈ runs path, 2 ^ n < run.length := by
  induction n generalizing path with
  | zero => exact doubled_iff
  | succ n ih =>
    rw [Function.iterate_succ_apply, ih, runs_halveSlashes]
    simp only [List.mem_map, exists_exists_and_eq_and, List.length_take, Nat.pow_succ]
    refine exists_congr fun run => and_congr_right fun _ => ?_
    omega

/-- The rounds come to an end. -/
theorem exists_rounds (path : Codes) : ∃ n,
    (∀ i, [slash, slash] <:+: halveSlashes^[i] path ↔ i < n) ∧
      collapseSlashes path = halveSlashes^[n] path := by
  fun_induction collapseSlashes path with
  | case1 path doubled ih =>
    obtain ⟨n, rounds, result⟩ := ih
    refine ⟨n + 1, fun i => ?_, result⟩
    cases i with
    | zero => exact iff_of_true (Text.Chars.occursIn_iff.1 doubled) (Nat.succ_pos n)
    | succ i => exact (rounds i).trans Nat.succ_lt_succ_iff.symm
  | case2 path single =>
    rw [Text.Chars.occursIn_iff] at single
    refine ⟨0, fun i => iff_of_false (fun doubled => single ?_) (Nat.not_lt_zero i), rfl⟩
    obtain ⟨run, hr, long⟩ := (doubled_iterate_iff i path).1 doubled
    exact doubled_iff.2 ⟨run, hr, Nat.one_le_two_pow.trans_lt long⟩

/-- One character of every run is left. -/
theorem collapseSlashes_eq (path : Codes) :
    collapseSlashes path = (runs path).flatMap (List.take 1) := by
  fun_induction collapseSlashes path with
  | case1 path _ ih => rw [ih, flatMap_take_runs_halveSlashes]
  | case2 path single =>
    rw [Text.Chars.occursIn_iff] at single
    have whole : ∀ run ∈ runs path, run.take 1 = run := fun run hr =>
      List.take_of_length_le (Nat.le_of_not_lt fun long => single (doubled_iff.2 ⟨run, hr, long⟩))
    rw [List.flatMap_def, List.map_congr_left whole, List.map_id', runs, List.flatten_splitBy]

/-- There are few rounds, since each halves the longest run. -/
theorem rounds_le (rounds : ∀ i, [slash, slash] <:+: halveSlashes^[i] path ↔ i < n) :
    n ≤ Nat.clog 2 path.length := by
  cases n with
  | zero => exact Nat.zero_le _
  | succ n =>
    obtain ⟨run, hr, long⟩ := (doubled_iterate_iff n path).1 ((rounds n).2 (Nat.lt_succ_self n))
    have part : run <:+: path := by
      have := List.infix_of_mem_flatten hr
      rwa [runs, List.flatten_splitBy] at this
    exact (Nat.lt_clog_iff_pow_lt Nat.one_lt_two).2 (long.trans_le part.length_le)

/-! ## Declared paths -/

/-- A decorator that calls what is named as a method, or as a route, declares one. -/
theorem exists_declared (hf : call.function = .attribute router attr)
    (ht : call.arguments.head?.bind Expr.codes? = some text)
    (ha : attr ∈ verbNames ∨ attr = "route" ∨ attr = "api_route") (routers : Routers) :
    ∃ r, call.declared? routers = some r ∧ r.path = routePath (routers.pathOf router) text := by
  unfold Call.declared?
  rw [hf, ht]
  dsimp only
  by_cases verb : attr ∈ verbNames
  · rw [if_pos (List.contains_iff_mem.2 verb)]
    exact ⟨_, rfl, rfl⟩
  · have route : (attr == "route" || attr == "api_route") = true := by
      simpa using ha.resolve_left verb
    rw [if_neg (mt List.contains_iff_mem.1 verb), if_pos route]
    exact ⟨_, rfl, rfl⟩

theorem joinPaths_eq (above text : Codes) :
    joinPaths above text = if above = [] then text
      else above.rdropWhile (· == slash) ++ slash :: text.dropWhile (· == slash) := by
  cases above <;> rfl

/-- The path of a declared route is its text below the path of its router, if that is not empty,
with one slash between them, and then with one slash for every run of slashes.  It is reached in
rounds that write two slashes as one and end when no two stand together.  There are no more rounds
than the length of the path can be halved, rounding up. -/
theorem declared_path_collapsed (routers : Routers) (call : Call)
    (hf : call.function = .attribute router attr)
    (ht : call.arguments.head?.bind Expr.codes? = some text)
    (ha : attr ∈ verbNames ∨ attr = "route" ∨ attr = "api_route") :
    let above := routers.pathOf router
    let joined := if above = [] then text
      else above.rdropWhile (· == slash) ++ slash :: text.dropWhile (· == slash)
    ∃ r n, call.declared? routers = some r ∧ r.path = halveSlashes^[n] joined ∧
      (∀ i, [slash, slash] <:+: halveSlashes^[i] joined ↔ i < n) ∧
      n ≤ Nat.clog 2 joined.length ∧
      r.path = (runs joined).flatMap (List.take 1) ∧ ¬ [slash, slash] <:+: r.path := by
  intro above joined
  obtain ⟨r, declared, hr⟩ := exists_declared hf ht ha routers
  have path : r.path = collapseSlashes joined := by
    rw [hr, routePath, joinPaths_eq]
  obtain ⟨n, rounds, result⟩ := exists_rounds joined
  refine ⟨r, n, declared, path.trans result, rounds, rounds_le rounds,
    path.trans (collapseSlashes_eq joined), ?_⟩
  rw [path, result, rounds]
  exact Nat.lt_irrefl n

/-- Three rounds for five slashes that stand together. -/
theorem declared_path_collapsed_users :
    let call : Call := ⟨.attribute (.name "router") "get",
      [.constant (.text (Codes.ofChars "//users/////all/".toList) false)], [], ⟨⟨1, 1⟩, ⟨1, 31⟩⟩⟩
    let routers : Routers := [("router", Codes.ofChars "/api///v1//".toList)]
    "get" ∈ verbNames ∧ ∃ r, call.declared? routers = some r ∧
      r.path = Codes.ofChars "/api/v1/users/all/".toList ∧
      r.path = halveSlashes^[3] (Codes.ofChars "/api///v1/users/////all/".toList) := by
  intro call routers
  have verb : "get" ∈ verbNames := by decide
  obtain ⟨r, n, declared, path, rounds, -, collapsed, -⟩ :=
    declared_path_collapsed routers call rfl rfl (.inl verb)
  have two := (rounds 2).1 (by decide +kernel)
  have three := mt (rounds 3).2 (by decide +kernel)
  obtain rfl : n = 3 := by omega
  exact ⟨verb, r, declared, collapsed.trans (by decide +kernel), path.trans (by decide +kernel)⟩

end ApiAccord.Script
