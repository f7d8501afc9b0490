import ApiAccord.Files.Tree
import ApiAccord.Proofs.Files.Path

/-!
# Files that are written and removed

In a `Sound` tree no file is where a folder is.  Writing a file into a folder and removing a file
keep a tree sound and its folders as they were (`hasFolder_write`, `hasFolder_remove`), so that
paths lead to where they led before.  Folders that were made are not made again
(`makeFolders_again`).
-/

namespace ApiAccord

/-! ## Look-up after filtering -/

section Lookup

variable {α β : Type} [BEq α] [LawfulBEq α] {l : List (α × β)} {k k' : α} {b : β}

theorem lookup_filter_ne (h : k ≠ k') : (l.filter (·.1 != k')).lookup k = l.lookup k := by
  induction l with
  | nil => rfl
  | cons a rest ih =>
    by_cases ha : a.1 = k'
    · have hk : (k == a.1) = false := beq_false_of_ne (ha ▸ h)
      rw [List.filter_cons_of_neg (by simp [ha]), ih, List.lookup_cons, hk]
    · rw [List.filter_cons_of_pos (by simp [ha]), List.lookup_cons, List.lookup_cons, ih]

theorem lookup_filter_self : (l.filter (·.1 != k)).lookup k = none := by
  rw [List.lookup_eq_none_iff]
  intro a ha
  have := (List.mem_filter.1 ha).2
  simpa [bne, BEq.comm] using this

theorem mem_of_lookup (h : l.lookup k = some b) : (k, b) ∈ l := by
  obtain ⟨before, after, rfl, -⟩ := List.lookup_eq_some_iff.1 h
  exact List.mem_append_right before List.mem_cons_self

end Lookup

namespace FileTree

open Document

variable {t : FileTree} {place place' here : FilePlace} {c : FileContent} {p : Path}
  {steps : List String}

/-! ## Folders -/

theorem hasFolder_iff : t.hasFolder place = true ↔ place = [] ∨ (∃ d ∈ t.folders, place <+: d) ∨
    ∃ f ∈ t.files, place <+: f.1 ∧ place.length < f.1.length := by
  simp only [hasFolder, Bool.or_eq_true, List.isEmpty_iff, List.any_eq_true,
    List.isPrefixOf_iff_prefix, Bool.and_eq_true, decide_eq_true_eq, or_assoc]

/-- What is above a folder is a folder. -/
theorem hasFolder_above (hp : place' <+: place) (h : t.hasFolder place = true) :
    t.hasFolder place' = true := by
  rw [hasFolder_iff] at h ⊢
  rcases h with rfl | ⟨d, hd, h⟩ | ⟨f, hf, h, hl⟩
  · exact .inl (List.prefix_nil.1 hp)
  · exact .inr (.inl ⟨d, hd, hp.trans h⟩)
  · exact .inr (.inr ⟨f, hf, hp.trans h, Nat.lt_of_le_of_lt hp.length_le hl⟩)

theorem prefix_dropLast_iff (hne : place ≠ []) :
    place' <+: place.dropLast ↔ place' <+: place ∧ place'.length < place.length := by
  have hl : 0 < place.length := List.length_pos_iff.2 hne
  constructor
  · intro h
    have := h.length_le
    rw [List.length_dropLast] at this
    exact ⟨h.trans (List.dropLast_prefix place), by omega⟩
  · rintro ⟨h, hlt⟩
    refine List.prefix_of_prefix_length_le h (List.dropLast_prefix place) ?_
    rw [List.length_dropLast]
    omega

theorem hasFolder_above_file (hf : t.hasFile place = true) : t.hasFolder place.dropLast = true := by
  by_cases hne : place = []
  · rw [hne]
    rfl
  · obtain ⟨c, hc⟩ := Option.isSome_iff_exists.1 hf
    have above := (prefix_dropLast_iff hne).1 (List.prefix_refl place.dropLast)
    exact hasFolder_iff.2 (.inr (.inr ⟨_, mem_of_lookup hc, above⟩))

theorem hasFolder_write (hn : t.hasFolder place = false) (hd : t.hasFolder place.dropLast = true) :
    (t.write place c).hasFolder place' = t.hasFolder place' := by
  have hne : place ≠ [] := by
    rintro rfl
    cases hn
  rw [Bool.eq_iff_iff, hasFolder_iff]
  constructor
  · rintro (h | ⟨d, hd', h⟩ | ⟨f, hf, h, hl⟩)
    · exact hasFolder_iff.2 (.inl h)
    · exact hasFolder_iff.2 (.inr (.inl ⟨d, hd', h⟩))
    · rcases List.mem_append.1 hf with hf | hf
      · exact hasFolder_iff.2 (.inr (.inr ⟨f, (List.mem_filter.1 hf).1, h, hl⟩))
      · obtain rfl := List.mem_singleton.1 hf
        exact hasFolder_above ((prefix_dropLast_iff hne).2 ⟨h, hl⟩) hd
  · intro h
    rcases hasFolder_iff.1 h with h | ⟨d, hd', h⟩ | ⟨f, hf, h, hl⟩
    · exact .inl h
    · exact .inr (.inl ⟨d, hd', h⟩)
    · refine .inr (.inr ?_)
      by_cases hfp : f.1 = place
      · exact ⟨(place, c), List.mem_append_right _ List.mem_cons_self, hfp ▸ h, hfp ▸ hl⟩
      · exact ⟨f, List.mem_append_left _ (List.mem_filter.2 ⟨hf, by simp [hfp]⟩), h, hl⟩

theorem hasFolder_remove (hf : t.hasFile place = true) :
    (t.remove place).hasFolder place' = t.hasFolder place' := by
  rw [Bool.eq_iff_iff, hasFolder_iff]
  constructor
  · rintro (h | ⟨d, hd, h⟩ | ⟨f, hf', h, hl⟩)
    · exact hasFolder_iff.2 (.inl h)
    · rcases List.mem_append.1 hd with hd | hd
      · exact hasFolder_iff.2 (.inr (.inl ⟨d, hd, h⟩))
      · exact hasFolder_above (List.mem_singleton.1 hd ▸ h) (hasFolder_above_file hf)
    · exact hasFolder_iff.2 (.inr (.inr ⟨f, (List.mem_filter.1 hf').1, h, hl⟩))
  · intro h
    rcases hasFolder_iff.1 h with h | ⟨d, hd, h⟩ | ⟨f, hf', h, hl⟩
    · exact .inl h
    · exact .inr (.inl ⟨d, List.mem_append_left _ hd, h⟩)
    · by_cases hfp : f.1 = place
      · refine .inr (.inl ⟨place.dropLast, List.mem_append_right _ List.mem_cons_self, ?_⟩)
        rw [hfp] at h hl
        have hne : place ≠ [] := by
          rintro rfl
          exact absurd hl (Nat.not_lt_zero _)
        exact (prefix_dropLast_iff hne).2 ⟨h, hl⟩
      · exact .inr (.inr ⟨f, List.mem_filter.2 ⟨hf', by simp [hfp]⟩, h, hl⟩)

/-! ## Contents -/

theorem content?_write :
    (t.write place c).content? place' = if place' = place then some c else t.content? place' := by
  unfold content? write
  rw [List.lookup_append]
  split
  · next h =>
    rw [h, lookup_filter_self]
    simp
  · next h =>
    have hb : (place' == place) = false := beq_false_of_ne h
    rw [lookup_filter_ne h, List.lookup_cons, hb, List.lookup_nil, Option.or_none]

theorem content?_remove :
    (t.remove place).content? place' = if place' = place then none else t.content? place' := by
  unfold content? remove
  split
  · next h => rw [h, lookup_filter_self]
  · next h => rw [lookup_filter_ne h]

/-- No file is where a folder is. -/
def Sound (t : FileTree) : Prop := ∀ place, t.hasFile place = true → t.hasFolder place = false

theorem Sound.write (h : t.Sound) (hn : t.hasFolder place = false)
    (hd : t.hasFolder place.dropLast = true) : (t.write place c).Sound := by
  intro q hq
  rw [hasFolder_write hn hd]
  by_cases hqp : q = place
  · exact hqp ▸ hn
  · refine h q ?_
    rwa [hasFile, content?_write, if_neg hqp] at hq

theorem Sound.remove (h : t.Sound) (hf : t.hasFile place = true) : (t.remove place).Sound := by
  intro q hq
  rw [hasFolder_remove hf]
  refine h q ?_
  rw [hasFile, content?_remove] at hq
  split at hq
  · cases hq
  · exact hq

/-- A file can be written to where no folder is, inside of a folder. -/
theorem target_spec (h : t.target here p = .ok place) :
    t.hasFolder place = false ∧ t.hasFolder place.dropLast = true := by
  unfold target at h
  split at h
  · cases h
  · split at h
    · cases h
    · next hn =>
      split at h
      · next hd =>
        obtain rfl := Except.ok.inj h
        exact ⟨by simpa using hn, hd⟩
      · split at h <;> cases h

/-! ## Where paths lead -/

/-- A path leads, if anywhere, to where its steps do. -/
theorem walk?_eq_some (h : t.walk? place steps = some place') :
    place' = takeSteps place steps := by
  induction steps generalizing place with
  | nil => exact (Option.some.inj h).symm
  | cons s rest ih =>
    rw [walk?] at h
    split at h
    · rw [ih h, takeSteps]
      split <;> rfl
    · cases h

/-- The last step on the way to what is no folder is its name. -/
theorem getLast?_of_walk? (h : t.walk? place steps = some place') (hne : steps ≠ [])
    (hn : t.hasFolder place' = false) : steps.getLast? = place'.getLast? := by
  induction steps generalizing place with
  | nil => exact absurd rfl hne
  | cons s rest ih =>
    rw [walk?] at h
    split at h
    · next hf =>
      cases rest with
      | nil =>
        obtain rfl := Option.some.inj h
        split at hn
        · exact absurd (hasFolder_above (List.dropLast_prefix place) hf) (by simp [hn])
        · next hb => simp [hb]
      | cons r rest =>
        rw [List.getLast?_cons_cons]
        exact ih h (List.cons_ne_nil r rest)
    · cases h

theorem walk?_congr {u : FileTree} (h : ∀ q, u.hasFolder q = t.hasFolder q) :
    u.walk? place steps = t.walk? place steps := by
  induction steps generalizing place with
  | nil => rfl
  | cons s rest ih => rw [walk?, walk?, h, ih]

theorem locate?_of_target (h : t.target here p = .ok place) : t.locate? here p = some place := by
  unfold target at h
  split at h
  · cases h
  · next q hq =>
    split at h
    · cases h
    · split at h
      · exact Except.ok.inj h ▸ hq
      · split at h <;> cases h

/-- What is written to where a path leads is found there. -/
theorem fileAt?_write (h : t.target here p = .ok place) :
    (t.write place c).fileAt? here p = some c := by
  obtain ⟨hn, hd⟩ := target_spec h
  have located : (t.write place c).locate? here p = some place :=
    (walk?_congr fun _ => hasFolder_write hn hd).trans (locate?_of_target h)
  rw [fileAt?, located, Option.bind_some, content?_write, if_pos rfl]

/-! ## Folders that are made -/

section Making

variable {t' u : FileTree} {q : FilePlace}

theorem files_makeFolder : (t.makeFolder place).files = t.files := by
  unfold makeFolder
  split <;> rfl

theorem hasFolder_makeFolder (h : t.hasFolder q = true) :
    (t.makeFolder place).hasFolder q = true := by
  unfold makeFolder
  split
  · exact h
  · rcases hasFolder_iff.1 h with h | ⟨d, hd, h⟩ | h
    · exact hasFolder_iff.2 (.inl h)
    · exact hasFolder_iff.2 (.inr (.inl ⟨d, List.mem_append_left _ hd, h⟩))
    · exact hasFolder_iff.2 (.inr (.inr h))

theorem hasFolder_makeFolder_self : (t.makeFolder place).hasFolder place = true := by
  unfold makeFolder
  split
  · next h => exact h
  · exact hasFolder_iff.2 (.inr (.inl
      ⟨place, List.mem_append_right _ List.mem_cons_self, List.prefix_rfl⟩))

theorem makeFolders_cons_of_ne {s : String} {rest : List String} (hs : ¬ (s == "..") = true)
    (h : t.makeFolders place (s :: rest) = .ok (place', t')) :
    t.hasFile (place ++ [s]) = false ∧
      (t.makeFolder (place ++ [s])).makeFolders (place ++ [s]) rest = .ok (place', t') := by
  rw [makeFolders, if_neg hs] at h
  dsimp only at h
  split at h
  · cases h
  · next hf => exact ⟨Bool.eq_false_iff.2 hf, h⟩

/-- Making folders changes no file, and what was a folder stays one. -/
theorem makeFolders_spec (h : t.makeFolders place steps = .ok (place', t')) :
    t'.files = t.files ∧ ∀ q, t.hasFolder q = true → t'.hasFolder q = true := by
  induction steps generalizing t place with
  | nil =>
    obtain ⟨-, rfl⟩ := Prod.mk.inj (Except.ok.inj h)
    exact ⟨rfl, fun _ => id⟩
  | cons s rest ih =>
    by_cases hs : (s == "..") = true
    · rw [makeFolders, if_pos hs] at h
      exact ih h
    · obtain ⟨files, folders⟩ := ih (makeFolders_cons_of_ne hs h).2
      exact ⟨files.trans files_makeFolder, fun q hq => folders q (hasFolder_makeFolder hq)⟩

/-- Folders that were made are not made again. -/
theorem makeFolders_again (h : t.makeFolders place steps = .ok (place', t'))
    (hu : ∀ q, t'.hasFolder q = true → u.hasFolder q = true ∧ u.hasFile q = t'.hasFile q) :
    u.makeFolders place steps = .ok (place', u) := by
  induction steps generalizing t place with
  | nil =>
    obtain ⟨rfl, -⟩ := Prod.mk.inj (Except.ok.inj h)
    rfl
  | cons s rest ih =>
    by_cases hs : (s == "..") = true
    · rw [makeFolders, if_pos hs] at h ⊢
      exact ih h
    · obtain ⟨free, made⟩ := makeFolders_cons_of_ne hs h
      obtain ⟨files, folders⟩ := makeFolders_spec made
      obtain ⟨there, same⟩ := hu _ (folders _ hasFolder_makeFolder_self)
      have file : u.hasFile (place ++ [s]) = false := by
        rw [same, hasFile, content?, files, files_makeFolder]
        exact free
      have kept : u.makeFolder (place ++ [s]) = u := if_pos there
      rw [makeFolders, if_neg hs]
      simp only [file, kept, Bool.false_eq_true, if_false]
      exact ih made

end Making

end FileTree

end ApiAccord
