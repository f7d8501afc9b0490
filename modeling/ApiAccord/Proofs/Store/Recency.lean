import ApiAccord.Proofs.Files.Tree
import ApiAccord.Store.Basic

/-!
# Tables with a bound, over whole runs

What a table holds is determined by the requests that it has served.  `lastUse` and `lastSet` read
off a list of requests when a key was used last and what was set for it last; `exact_after` says
that a table of capacity `n` is at every moment the table of the `n` entries used last:

* it lists its keys in the order of their last uses, and gives out what was set last;
* a request drops an entry only if it asks for that, or needs the room of the one used longest ago.

What one request preserves is `Ordered.step`, and the induction over a run is `ordered_after`.
-/

namespace ApiAccord.Recency

variable {α : Type} {n : Nat} {t : Recency α} {key k : String} {a : α}

/-! ## Runs -/

/-- A request to a table. -/
inductive Request (α : Type) where
  | set (key : String) (a : α)
  | get (key : String)
  | invalidate (key : String)
  | clear
  | stats
  | contains (key : String)

/-- The table after a request. -/
def perform (t : Recency α) : Request α → Recency α
  | .set key a => t.set key a
  | .get key => (t.get key).2
  | .invalidate key => t.invalidate key
  | .clear => t.clear
  | .stats | .contains _ => t

/-- The table after some requests, the latest of which is listed first. -/
def after (n : Nat) : List (Request α) → Recency α
  | [] => empty n
  | r :: past => (after n past).perform r

/-- Whether a request uses a key: it sets it, or looks it up and finds it. -/
def uses (t : Recency α) (key : String) : Request α → Bool
  | .set k _ => k == key
  | .get k => k == key && t.contains key
  | _ => false

/-- When a key was used last, counting requests from one; zero if never. -/
def lastUse (n : Nat) (key : String) : List (Request α) → Nat
  | [] => 0
  | r :: past => if (after n past).uses key r then past.length + 1 else lastUse n key past

/-- What was set for a key last. -/
def lastSet (key : String) : List (Request α) → Option α
  | [] => none
  | .set k a :: past => if k == key then some a else lastSet key past
  | _ :: past => lastSet key past

/-- Whether a request is a look-up. -/
def Request.isGet : Request α → Bool
  | .get _ => true
  | _ => false

variable {past : List (Request α)} {r : Request α}

theorem lastUse_le (n : Nat) (key : String) (past : List (Request α)) :
    lastUse n key past ≤ past.length := by
  induction past with
  | nil => exact Nat.le_refl 0
  | cons r past ih =>
    unfold lastUse
    rw [List.length_cons]
    split <;> omega

theorem lastUse_of_uses (h : (after n past).uses key r = true) :
    lastUse n key (r :: past) = past.length + 1 := if_pos h

theorem lastUse_of_not_uses (h : (after n past).uses key r = false) :
    lastUse n key (r :: past) = lastUse n key past := by
  simp [lastUse, h]

/-! ## Keys -/

theorem contains_iff : t.contains key = true ↔ key ∈ t.keys := List.contains_iff_mem

theorem keys_others : (t.others key).map (·.1) = t.keys.filter (· != key) := by
  simp only [others, keys, List.filter_map]
  rfl

theorem mem_others {e : String × α} : e ∈ t.others key ↔ e ∈ t.entries ∧ e.1 ≠ key := by
  simp [others]

theorem lookup_of_contains (h : t.contains key = true) : ∃ a, t.entries.lookup key = some a := by
  obtain ⟨⟨k, a⟩, he, rfl⟩ := List.mem_map.1 (contains_iff.1 h)
  cases hl : t.entries.lookup k with
  | some b => exact ⟨b, rfl⟩
  | none =>
    have := List.lookup_eq_none_iff.1 hl (k, a) he
    simp at this

theorem lookup_of_not_contains (h : t.contains key = false) : t.entries.lookup key = none := by
  cases hl : t.entries.lookup key with
  | none => rfl
  | some a =>
    have : key ∈ t.keys := List.mem_map.2 ⟨_, mem_of_lookup hl, rfl⟩
    rw [contains_iff.2 this] at h
    cases h

/-- A look-up that finds its key moves the entry to the end. -/
theorem get_of_lookup (h : t.entries.lookup key = some a) :
    t.get key = (some a, { t with entries := t.others key ++ [(key, a)], hits := t.hits + 1 }) := by
  simp only [get, h]

theorem get_of_not_contains (h : t.contains key = false) :
    t.get key = (none, { t with misses := t.misses + 1 }) := by
  simp only [get, lookup_of_not_contains h]

theorem uses_get_of_not_contains (h : t.contains key = false) (k : String) :
    t.uses k (.get key) = false := by
  by_cases hk : key = k
  · simp [uses, ← hk, h]
  · simp [uses, hk]

/-! ## The order of the entries -/

/-- What holds of a table after some requests: it keeps to its capacity, lists its keys in the order
of their last uses, and holds what was set last. -/
structure Ordered (n : Nat) (past : List (Request α)) (t : Recency α) : Prop where
  capacity_eq : t.capacity = n
  size_le : t.size ≤ n
  sorted : t.keys.Pairwise fun k k' => lastUse n k past < lastUse n k' past
  values : ∀ e ∈ t.entries, lastSet e.1 past = some e.2

theorem Ordered.nodup (h : Ordered n past t) : t.keys.Nodup :=
  h.sorted.imp fun hlt heq => by rw [heq] at hlt; exact Nat.lt_irrefl _ hlt

/-- A key that is used comes after all others. -/
theorem sorted_moved (key : String) (h : Ordered n past (after n past))
    (hu : (after n past).uses key r = true)
    (ho : ∀ k, k ≠ key → (after n past).uses k r = false) :
    ((after n past).keys.filter (· != key) ++ [key]).Pairwise
      fun k k' => lastUse n k (r :: past) < lastUse n k' (r :: past) := by
  have other : ∀ k ∈ (after n past).keys.filter (· != key),
      lastUse n k (r :: past) = lastUse n k past := by
    intro k hk
    refine lastUse_of_not_uses (ho k ?_)
    simpa using (List.mem_filter.1 hk).2
  refine List.pairwise_append.2 ⟨?_, List.pairwise_singleton .., ?_⟩
  · refine (h.sorted.filter _).imp_of_mem fun hk hk' hlt => ?_
    rwa [other _ hk, other _ hk']
  · intro k hk k' hk'
    obtain rfl := List.mem_singleton.1 hk'
    rw [other k hk, lastUse_of_uses hu]
    exact Nat.lt_succ_of_le (lastUse_le n k past)

/-- Keys that no request uses keep their order, and so do some of them. -/
theorem sorted_of_sublist (h : Ordered n past (after n past)) {keys : List String}
    (hs : keys.Sublist (after n past).keys) (ho : ∀ k, (after n past).uses k r = false) :
    keys.Pairwise fun k k' => lastUse n k (r :: past) < lastUse n k' (r :: past) := by
  simp only [fun k => lastUse_of_not_uses (ho k)]
  exact h.sorted.sublist hs

theorem keys_set : (t.set key a).keys =
    (t.keys.filter (· != key) ++ [key]).drop ((t.others key).length + 1 - t.capacity) := by
  rw [← keys_others]
  simp [set, keys, List.map_drop]

theorem keys_get (h : t.contains key = true) :
    (t.get key).2.keys = t.keys.filter (· != key) ++ [key] := by
  obtain ⟨a, ha⟩ := lookup_of_contains h
  rw [get_of_lookup ha, ← keys_others]
  simp [keys]

theorem length_others_lt (h : t.contains key = true) : (t.others key).length < t.size := by
  obtain ⟨e, he, hk⟩ := List.mem_map.1 (contains_iff.1 h)
  exact List.length_filter_lt_length_iff_exists.2 ⟨e, he, by simp [hk]⟩

theorem Ordered.set (h : Ordered n past (after n past)) (key : String) (a : α) :
    Ordered n (.set key a :: past) ((after n past).set key a) := by
  refine ⟨h.capacity_eq, ?_, ?_, fun e he => ?_⟩
  · have hc := h.capacity_eq
    simp only [Recency.set, size, List.length_drop]
    omega
  · rw [keys_set]
    refine (sorted_moved key h ?_ fun k hk => ?_).sublist (List.drop_sublist ..)
    · exact beq_self_eq_true key
    · exact beq_false_of_ne hk.symm
  · rcases List.mem_append.1 (List.mem_of_mem_drop he) with he | he
    · obtain ⟨he, hne⟩ := mem_others.1 he
      simp [lastSet, hne.symm, h.values e he]
    · obtain rfl := List.mem_singleton.1 he
      simp [lastSet]

theorem Ordered.get_held (h : Ordered n past (after n past))
    (hc : (after n past).contains key = true) :
    Ordered n (.get key :: past) ((after n past).get key).2 := by
  obtain ⟨a, ha⟩ := lookup_of_contains hc
  have sorted := sorted_moved (r := .get key) key h (by simp [uses, hc])
    fun k hk => by simp [uses, hk.symm]
  rw [← keys_get hc, get_of_lookup ha] at sorted
  rw [get_of_lookup ha]
  refine ⟨h.capacity_eq, ?_, sorted, fun e he => ?_⟩
  · have := length_others_lt hc
    have := h.size_le
    simp only [size, List.length_append, List.length_singleton] at *
    omega
  · rcases List.mem_append.1 he with he | he
    · exact h.values e (mem_others.1 he).1
    · obtain rfl := List.mem_singleton.1 he
      exact h.values _ (mem_of_lookup ha)

theorem Ordered.get_missing (h : Ordered n past (after n past))
    (hc : (after n past).contains key = false) :
    Ordered n (.get key :: past) ((after n past).get key).2 := by
  rw [get_of_not_contains hc]
  exact ⟨h.capacity_eq, h.size_le,
    sorted_of_sublist h (List.Sublist.refl _) (uses_get_of_not_contains hc), h.values⟩

theorem Ordered.invalidate (h : Ordered n past (after n past)) (key : String) :
    Ordered n (.invalidate key :: past) ((after n past).invalidate key) := by
  have hs : ((after n past).others key).Sublist (after n past).entries := List.filter_sublist
  exact ⟨h.capacity_eq, Nat.le_trans hs.length_le h.size_le,
    sorted_of_sublist h (hs.map _) fun _ => rfl, fun e he => h.values e (hs.subset he)⟩

/-- What one request preserves. -/
theorem Ordered.step (h : Ordered n past (after n past)) (r : Request α) :
    Ordered n (r :: past) (after n (r :: past)) := by
  cases r with
  | set key a => exact h.set key a
  | get key =>
    cases hc : (after n past).contains key with
    | true => exact h.get_held hc
    | false => exact h.get_missing hc
  | invalidate key => exact h.invalidate key
  | clear => exact ⟨h.capacity_eq, Nat.zero_le n, List.Pairwise.nil, fun e he => nomatch he⟩
  | stats | contains key =>
    exact ⟨h.capacity_eq, h.size_le, sorted_of_sublist h (List.Sublist.refl _) fun _ => rfl,
      h.values⟩

/-- What holds after any run. -/
theorem ordered_after (n : Nat) (past : List (Request α)) : Ordered n past (after n past) := by
  induction past with
  | nil => exact ⟨rfl, Nat.zero_le n, List.Pairwise.nil, fun e he => nomatch he⟩
  | cons r past ih => exact ih.step r

/-! ## What a request drops -/

/-- No use of a held key lies further back than that of a given one. -/
def Oldest (n : Nat) (past : List (Request α)) (key : String) : Prop :=
  ∀ k, (after n past).contains k = true → k ≠ key → lastUse n key past < lastUse n k past

/-- A request drops the entry of a held key: it asks for that, or it takes the room of the entry
used longest ago for a key that is not held. -/
def Drops (n : Nat) (past : List (Request α)) (key : String) : Request α → Prop
  | .clear => True
  | .invalidate k => k = key
  | .set k _ =>
    (after n past).contains k = false ∧ (after n past).size = n ∧ Oldest n past key
  | _ => False

/-- The first of the keys is the one used longest ago. -/
theorem Ordered.not_mem_tail_iff (h : Ordered n past (after n past))
    (hk : key ∈ (after n past).keys) : key ∉ (after n past).keys.tail ↔ Oldest n past key := by
  have sorted := h.sorted
  have nodup := h.nodup
  simp only [Oldest, contains_iff]
  cases hks : (after n past).keys with
  | nil => rw [hks] at hk; cases hk
  | cons first rest =>
    rw [hks] at hk sorted nodup
    have first_lt := (List.pairwise_cons.1 sorted).1
    have first_notMem := (List.nodup_cons.1 nodup).1
    rw [List.tail_cons]
    constructor
    · intro hr k hk' hne
      obtain rfl : key = first := (List.mem_cons.1 hk).resolve_right hr
      exact first_lt k ((List.mem_cons.1 hk').resolve_left hne)
    · intro oldest hr
      have hne : first ≠ key := fun heq => first_notMem (heq ▸ hr)
      have := oldest first (List.mem_cons_self ..) hne
      have := first_lt key hr
      omega

theorem mem_moved_iff : k ∈ t.keys.filter (· != key) ++ [key] ↔ k = key ∨ k ∈ t.keys := by
  by_cases h : k = key <;> simp [h]

theorem contains_get : (t.get key).2.contains k = t.contains k := by
  cases h : t.contains key with
  | false => rw [get_of_not_contains h]; rfl
  | true =>
    rw [Bool.eq_iff_iff, contains_iff, contains_iff, keys_get h, mem_moved_iff]
    have := contains_iff.1 h
    constructor
    · rintro (rfl | hk) <;> assumption
    · exact .inr

theorem contains_invalidate :
    (t.invalidate key).contains k = true ↔ t.contains k = true ∧ k ≠ key := by
  rw [contains_iff, contains_iff]
  show k ∈ (t.others key).map (·.1) ↔ _
  rw [keys_others]
  simp

theorem length_keys : t.keys.length = t.size := List.length_map ..

theorem others_of_not_contains (h : t.contains key = false) : t.others key = t.entries := by
  refine List.filter_eq_self.2 fun e he => ?_
  simp only [bne_iff_ne, ne_eq]
  rintro rfl
  rw [contains_iff.2 (List.mem_map_of_mem he)] at h
  cases h

/-- A set drops nothing where there is room, since its key is held or the table is not full. -/
theorem keys_set_of_room (h : (t.others key).length < t.capacity) :
    (t.set key a).keys = t.keys.filter (· != key) ++ [key] := by
  rw [keys_set, Nat.sub_eq_zero_of_le h, List.drop_zero]

/-- In a full table, the set of a key that is not held drops the first entry. -/
theorem keys_set_of_full (hk : t.contains key = false) (hf : t.size = t.capacity)
    (hn : 0 < t.capacity) : (t.set key a).keys = t.keys.tail ++ [key] := by
  have one : t.size + 1 - t.capacity = 1 := by omega
  rw [keys_set, ← keys_others, others_of_not_contains hk]
  show List.drop (t.size + 1 - t.capacity) (t.keys ++ [key]) = _
  rw [one, List.drop_append_of_le_length (by rw [length_keys]; omega), List.drop_one]

theorem Ordered.contains_set (h : Ordered n past (after n past)) (hn : 0 < n) :
    ((after n past).set key a).contains k = true ↔
      k = key ∨ (after n past).contains k = true ∧ ¬ Drops n past k (.set key a) := by
  have hcap := h.capacity_eq
  have hsize := h.size_le
  rw [contains_iff]
  by_cases full : (after n past).contains key = false ∧ (after n past).size = n
  · rw [keys_set_of_full full.1 (by omega) (by omega), List.mem_append, List.mem_singleton, or_comm]
    refine or_congr_right ⟨fun hk => ?_, fun ⟨hk, hd⟩ => ?_⟩
    · have hk' := List.mem_of_mem_tail hk
      exact ⟨contains_iff.2 hk', fun hd => (h.not_mem_tail_iff hk').2 hd.2.2 hk⟩
    · refine Decidable.byContradiction fun hk' => hd ⟨full.1, full.2, ?_⟩
      exact (h.not_mem_tail_iff (contains_iff.1 hk)).1 hk'
  · have room : ((after n past).others key).length < (after n past).capacity := by
      cases hc : (after n past).contains key with
      | true => have := length_others_lt hc; omega
      | false =>
        rw [others_of_not_contains hc]
        have : (after n past).size ≠ n := fun hs => full ⟨hc, hs⟩
        simp only [size] at *
        omega
    have none : ¬ Drops n past k (.set key a) := fun hd => full ⟨hd.1, hd.2.1⟩
    rw [keys_set_of_room room, mem_moved_iff, contains_iff]
    simp only [none, not_false_eq_true, and_true]

/-- After a request, a table holds the key that was set and the held keys that were not dropped. -/
theorem Ordered.contains_after_iff (h : Ordered n past (after n past)) (hn : 0 < n) :
    (after n (r :: past)).contains key = true ↔
      (∃ a, r = .set key a) ∨ (after n past).contains key = true ∧ ¬ Drops n past key r := by
  cases r with
  | set k a =>
    refine (h.contains_set hn).trans (or_congr_left ?_)
    simp [eq_comm]
  | get k =>
    show ((after n past).get k).2.contains key = true ↔ _
    simp [contains_get, Drops]
  | invalidate k =>
    refine contains_invalidate.trans ?_
    simp [Drops, @eq_comm _ key k]
  | clear => simp [after, perform, clear, contains, keys, Drops]
  | stats | contains k => simp [after, perform, Drops]

/-! ## Exactness -/

/-- The table of capacity `n` after some requests is what the requests say. -/
structure Exact (n : Nat) (past : List (Request α)) : Prop where
  /-- It holds at most `n` entries, at most one for a key. -/
  size_le : (after n past).size ≤ n
  nodup : (after n past).keys.Nodup
  /-- It lists the keys in the order of their last uses. -/
  sorted : (after n past).keys.Pairwise fun k k' => lastUse n k past < lastUse n k' past
  /-- A look-up gives out what was set last if the key is held, and nothing otherwise. -/
  get_held : ∀ key, (after n past).contains key = true →
    ∃ a, lastSet key past = some a ∧ ((after n past).get key).1 = some a
  get_missing : ∀ key, (after n past).contains key = false → ((after n past).get key).1 = none
  /-- What becomes held is what is set, and what is no longer held is what is dropped. -/
  new_iff : ∀ r key, (after n past).contains key = false →
    ((after n (r :: past)).contains key = true ↔ ∃ a, r = .set key a)
  gone_iff : ∀ r key, (after n past).contains key = true →
    ((after n (r :: past)).contains key = false ↔ Drops n past key r)
  /-- Statistics, tests and look-ups that fail change neither what is held nor the last uses. -/
  idle : ∀ r, (r = .stats ∨ (∃ key, r = .contains key) ∨
      ∃ key, r = .get key ∧ (after n past).contains key = false) →
    (after n (r :: past)).entries = (after n past).entries ∧
      ∀ k, lastUse n k (r :: past) = lastUse n k past
  /-- Every look-up counts as found or not found. -/
  counts : (after n past).hits + (after n past).misses = past.countP Request.isGet

/-- A look-up gives out what was set last. -/
theorem Ordered.get_eq (h : Ordered n past (after n past))
    (hk : (after n past).contains key = true) :
    ∃ a, lastSet key past = some a ∧ ((after n past).get key).1 = some a := by
  obtain ⟨a, ha⟩ := lookup_of_contains hk
  exact ⟨a, h.values _ (mem_of_lookup ha), by rw [get_of_lookup ha]⟩

/-- Of all requests, only look-ups are counted, each once. -/
theorem counts_after (n : Nat) (past : List (Request α)) :
    (after n past).hits + (after n past).misses = past.countP Request.isGet := by
  induction past with
  | nil => rfl
  | cons r past ih =>
    rw [List.countP_cons, ← ih]
    cases r with
    | get key =>
      show ((after n past).get key).2.hits + ((after n past).get key).2.misses = _
      cases hc : (after n past).contains key with
      | true =>
        obtain ⟨a, ha⟩ := lookup_of_contains hc
        simp only [get_of_lookup ha, Request.isGet, if_true]
        omega
      | false =>
        simp only [get_of_not_contains hc, Request.isGet, if_true]
        omega
    | _ => rfl

/-- A table with room for an entry is exact after every run. -/
theorem exact_after (hn : 0 < n) (past : List (Request α)) : Exact n past where
  size_le := (ordered_after n past).size_le
  nodup := (ordered_after n past).nodup
  sorted := (ordered_after n past).sorted
  get_held _ hk := (ordered_after n past).get_eq hk
  get_missing _ hk := by rw [get_of_not_contains hk]
  new_iff r key hk := by
    rw [(ordered_after n past).contains_after_iff hn, hk]
    simp
  gone_iff r key hk := by
    have set_keeps : (∃ a, r = .set key a) → ¬ Drops n past key r := by
      rintro ⟨a, rfl⟩ hd
      have missing : (after n past).contains key = false := hd.1
      rw [hk] at missing
      cases missing
    rw [← Bool.not_eq_true, (ordered_after n past).contains_after_iff hn, hk]
    by_cases hd : Drops n past key r
    · simpa [hd] using fun a hr => set_keeps ⟨a, hr⟩ hd
    · simp [hd]
  idle r hr := by
    rcases hr with rfl | ⟨key, rfl⟩ | ⟨key, rfl, hk⟩
    · exact ⟨rfl, fun _ => rfl⟩
    · exact ⟨rfl, fun _ => rfl⟩
    · have same : (after n (.get key :: past)).entries = (after n past).entries := by
        show ((after n past).get key).2.entries = _
        rw [get_of_not_contains hk]
      exact ⟨same, fun k => lastUse_of_not_uses (uses_get_of_not_contains hk k)⟩
  counts := counts_after n past

/-- With two keys held, the one that was looked up since stays, and the other makes room. -/
theorem exact_after_two :
    0 < 2 ∧ (after 2 [.get "a", .set "b" 2, .set "a" 1]).contains "b" = true ∧
      Drops 2 [.get "a", .set "b" 2, .set "a" 1] "b" (.set "c" 3) ∧
      (after 2 [.set "c" 3, .get "a", .set "b" 2, .set "a" 1]).contains "b" = false := by
  have exact := exact_after (n := 2) (by decide) [.get "a", .set "b" 2, .set "a" 1]
  have gone : (after 2 [.set "c" 3, .get "a", .set "b" 2, .set "a" 1]).contains "b" = false := by
    decide
  exact ⟨by decide, by decide, (exact.gone_iff (.set "c" 3) "b" (by decide)).1 gone, gone⟩

end ApiAccord.Recency
