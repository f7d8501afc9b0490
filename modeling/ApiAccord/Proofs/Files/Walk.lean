import ApiAccord.Proofs.Files.Tree
import ApiAccord.Proofs.Surface
import ApiAccord.Scan
import Mathlib.Data.List.Nodup
import Mathlib.Data.List.Perm.Basic

/-!
# Walks through a tree

A walk comes upon the files below a folder to which every folder on the way is gone into
(`mem_walk_iff`), upon each of them once (`nodup_steps_walk`).  Nothing of this depends on the order
in which the tree lists files and folders, and neither does where paths lead (`Same`).
-/

namespace ApiAccord.FileTree

variable {t u : FileTree} {place here : FilePlace} {steps rel : List String} {name : String}
  {content : FileContent} {enters : List String → Bool} {f : List String × FileContent} {depth : ℕ}

/-! ## Files below a place -/

/-- The steps from a place to a file, with its content, if the file is below. -/
def stepsFrom? (place : FilePlace) (f : FilePlace × FileContent) :
    Option (List String × FileContent) :=
  if place.isPrefixOf f.1 && place.length < f.1.length then some (f.1.drop place.length, f.2)
  else none

theorem below_eq (t : FileTree) (place : FilePlace) :
    t.below place = t.files.filterMap (stepsFrom? place) := rfl

theorem stepsFrom?_eq_some_iff {file : FilePlace × FileContent} :
    stepsFrom? place file = some f ↔ f.1 ≠ [] ∧ file = (place ++ f.1, f.2) := by
  rw [stepsFrom?]
  constructor
  · intro h
    split at h
    · next below =>
      obtain rfl := Option.some.inj h
      obtain ⟨above, longer⟩ := Bool.and_eq_true_iff.1 below
      obtain ⟨rest, hr⟩ := List.isPrefixOf_iff_prefix.1 above
      rw [decide_eq_true_iff, ← hr, List.length_append] at longer
      simp only [← hr, List.drop_left, ne_eq, ← List.length_eq_zero_iff]
      exact ⟨by omega, Prod.ext hr.symm rfl⟩
    · cases h
  · rintro ⟨ne, rfl⟩
    have pos := List.length_pos_iff.2 ne
    simp [pos]

theorem mem_below_iff : f ∈ t.below place ↔ f.1 ≠ [] ∧ (place ++ f.1, f.2) ∈ t.files := by
  rw [below_eq, List.mem_filterMap]
  constructor
  · rintro ⟨file, mem, h⟩
    obtain ⟨ne, rfl⟩ := stepsFrom?_eq_some_iff.1 h
    exact ⟨ne, mem⟩
  · rintro ⟨ne, mem⟩
    exact ⟨_, mem, stepsFrom?_eq_some_iff.2 ⟨ne, rfl⟩⟩

/-- The name of a file and its content, if one step leads there. -/
def oneStep? : List String × FileContent → Option (String × FileContent)
  | ([name], content) => some (name, content)
  | _ => none

theorem filesIn_eq (t : FileTree) (place : FilePlace) :
    t.filesIn place = (t.below place).filterMap oneStep? := rfl

theorem oneStep?_eq_some_iff : oneStep? f = some (name, content) ↔ f = ([name], content) := by
  fun_cases oneStep? f with
  | case1 name' content' => simp
  | case2 _ other =>
    constructor
    · intro h
      cases h
    · rintro rfl
      exact absurd rfl (other name content)

theorem mem_filesIn_iff :
    (name, content) ∈ t.filesIn place ↔ (place ++ [name], content) ∈ t.files := by
  rw [filesIn_eq, List.mem_filterMap]
  simp only [oneStep?_eq_some_iff, exists_eq_right, mem_below_iff]
  exact and_iff_right (List.cons_ne_nil _ _)

theorem mem_foldersIn_iff : name ∈ t.foldersIn place ↔
    ∃ rest content, rest ≠ [] ∧ (place ++ name :: rest, content) ∈ t.files := by
  rw [foldersIn, List.mem_eraseDups, List.mem_filterMap]
  constructor
  · rintro ⟨f, mem, h⟩
    split at h
    · next name' next rest content =>
      obtain rfl := Option.some.inj h
      exact ⟨next :: rest, content, List.cons_ne_nil _ _, (mem_below_iff.1 mem).2⟩
    · cases h
  · rintro ⟨rest, content, ne, mem⟩
    obtain ⟨next, rest, rfl⟩ := List.exists_cons_of_ne_nil ne
    exact ⟨(name :: next :: rest, content), mem_below_iff.2 ⟨List.cons_ne_nil _ _, mem⟩, rfl⟩

/-! ## Walks -/

/-- Every folder on the way of some steps is gone into; `steps` lead to where they begin. -/
def Entered (enters : List String → Bool) (steps rel : List String) : Prop :=
  ∀ folders name rest, rel = folders ++ name :: rest → rest ≠ [] →
    enters (steps ++ folders ++ [name]) = true

theorem entered_cons : Entered enters steps (name :: rel) ↔
    (rel ≠ [] → enters (steps ++ [name]) = true) ∧ Entered enters (steps ++ [name]) rel := by
  constructor
  · intro h
    constructor
    · intro ne
      have := h [] name rel rfl ne
      rwa [List.append_nil] at this
    · rintro folders name' rest rfl ne
      have := h (name :: folders) name' rest rfl ne
      rwa [List.append_cons steps name folders] at this
  · rintro ⟨first, later⟩ folders name' rest eq ne
    cases folders with
    | nil =>
      obtain ⟨rfl, rfl⟩ := List.cons.inj eq
      rw [List.append_nil]
      exact first ne
    | cons folder folders =>
      obtain ⟨rfl, rfl⟩ := List.cons.inj eq
      have := later folders name' rest rfl ne
      rwa [List.append_cons steps name folders]

theorem entered_singleton : Entered enters steps [name] := by
  rw [entered_cons]
  refine ⟨fun ne => absurd rfl ne, fun folders name rest eq => ?_⟩
  simp at eq

/-- A walk comes upon the files to which every folder on the way is gone into, unless they are too
deep. -/
theorem mem_walk_iff : f ∈ t.walk enters depth steps place ↔
    ∃ rel, f.1 = steps ++ rel ∧ rel ≠ [] ∧ rel.length ≤ depth ∧ (place ++ rel, f.2) ∈ t.files ∧
      Entered enters steps rel := by
  induction depth generalizing steps place with
  | zero =>
    simp only [walk, List.not_mem_nil, false_iff]
    rintro ⟨rel, -, ne, le, -⟩
    exact ne (List.length_eq_zero_iff.1 (Nat.le_zero.1 le))
  | succ depth ih =>
    rw [walk, List.mem_append, List.mem_map, List.mem_flatMap]
    constructor
    · rintro (⟨⟨name, content⟩, mem, rfl⟩ | ⟨name, -, mem⟩)
      · exact ⟨[name], rfl, List.cons_ne_nil _ _, by simp, mem_filesIn_iff.1 mem,
          entered_singleton⟩
      · split at mem
        · next enter =>
          obtain ⟨rel, eq, -, le, file, entered⟩ := ih.1 mem
          refine ⟨name :: rel, ?_, List.cons_ne_nil _ _, Nat.succ_le_succ le, ?_,
            entered_cons.2 ⟨fun _ => enter, entered⟩⟩
          · rw [eq, List.append_cons steps name rel]
          · rwa [List.append_cons place name rel]
        · cases mem
    · rintro ⟨rel, eq, ne, le, file, entered⟩
      obtain ⟨name, rel, rfl⟩ := List.exists_cons_of_ne_nil ne
      by_cases last : rel = []
      · subst last
        exact .inl ⟨(name, f.2), mem_filesIn_iff.2 file, Prod.ext eq.symm rfl⟩
      · obtain ⟨enter, entered⟩ := entered_cons.1 entered
        refine .inr ⟨name, mem_foldersIn_iff.2 ⟨rel, f.2, last, file⟩, ?_⟩
        rw [if_pos (enter last), ih]
        exact ⟨rel, by rw [eq, List.append_cons steps name rel], last, Nat.le_of_succ_le_succ le,
          by rwa [List.append_cons place name rel] at file, entered⟩

theorem length_le_depth (h : f ∈ t.files) : f.1.length ≤ t.depth := by
  have mem : f.1.length ∈ t.files.map fun f => f.1.length := List.mem_map_of_mem h
  rw [FileTree.depth, List.foldl_max]
  exact (List.le_max?_getD_of_mem mem).trans (Nat.le_max_right _ _)

/-! ## Nothing comes twice -/

/-- No two files are in one place. -/
def Distinct (t : FileTree) : Prop := (t.files.map (·.1)).Nodup

theorem Distinct.content_eq (h : t.Distinct) {content' : FileContent}
    (mem : (place, content) ∈ t.files) (mem' : (place, content') ∈ t.files) :
    content = content' :=
  (Prod.mk.inj (List.inj_on_of_nodup_map h mem mem' rfl)).2

theorem Distinct.content?_eq_some_iff (h : t.Distinct) :
    t.content? place = some content ↔ (place, content) ∈ t.files := by
  constructor
  · exact mem_of_lookup
  · intro mem
    cases found : t.content? place with
    | none => exact absurd (List.lookup_eq_none_iff.1 found _ mem) (by simp)
    | some content' => rw [h.content_eq mem (mem_of_lookup found)]

theorem Distinct.remove (h : t.Distinct) (place : FilePlace) : (t.remove place).Distinct :=
  List.Nodup.sublist (List.filter_sublist.map _) h

/-- What is written takes the place of what was there. -/
theorem Distinct.write (h : t.Distinct) (place : FilePlace) (content : FileContent) :
    (t.write place content).Distinct := by
  rw [Distinct, FileTree.write, List.map_append, List.nodup_append]
  refine ⟨h.remove place, List.nodup_singleton _, ?_⟩
  intro kept hk written hw same
  obtain ⟨f, hf, rfl⟩ := List.mem_map.1 hk
  have other := (List.mem_filter.1 hf).2
  rw [same, List.mem_singleton.1 hw] at other
  simp at other

theorem Distinct.nodup_filesIn (h : t.Distinct) : (t.filesIn place).Nodup := by
  have below : (t.below place).Nodup := by
    rw [below_eq]
    apply List.Nodup.filterMap _ (List.Nodup.of_map _ h)
    intro file file' f hf hf'
    rw [(stepsFrom?_eq_some_iff.1 hf).2, (stepsFrom?_eq_some_iff.1 hf').2]
  rw [filesIn_eq]
  apply List.Nodup.filterMap _ below
  intro f f' named hf hf'
  rw [oneStep?_eq_some_iff.1 hf, oneStep?_eq_some_iff.1 hf']

theorem nodup_foldersIn (t : FileTree) (place : FilePlace) : (t.foldersIn place).Nodup :=
  nodup_eraseDups _

/-- What a walk comes upon inside of a folder has the name of the folder for its next step. -/
theorem exists_steps_of_mem (h : f ∈ if enters (steps ++ [name]) = true then
    t.walk enters depth (steps ++ [name]) place else []) :
    ∃ rel, rel ≠ [] ∧ f.1 = steps ++ name :: rel := by
  split at h
  · obtain ⟨rel, eq, ne, -⟩ := mem_walk_iff.1 h
    exact ⟨rel, ne, eq.trans (List.append_cons steps name rel).symm⟩
  · cases h

theorem Distinct.nodup_walk (h : t.Distinct) : (t.walk enters depth steps place).Nodup := by
  induction depth generalizing steps place with
  | zero => exact List.nodup_nil
  | succ depth ih =>
    rw [walk, List.nodup_append]
    refine ⟨?_, ?_, ?_⟩
    · apply List.Nodup.map _ h.nodup_filesIn
      rintro ⟨name, content⟩ ⟨name', content'⟩ same
      simpa using same
    · rw [List.nodup_flatMap]
      constructor
      · intro name _
        split
        · exact ih
        · exact List.nodup_nil
      · apply (nodup_foldersIn t place).imp
        intro name name' apart f mem mem'
        obtain ⟨rel, -, eq⟩ := exists_steps_of_mem mem
        obtain ⟨rel', -, eq'⟩ := exists_steps_of_mem mem'
        exact apart (List.cons.inj (List.append_cancel_left (eq.symm.trans eq'))).1
    · rintro f mem _ mem' rfl
      obtain ⟨named, -, rfl⟩ := List.mem_map.1 mem
      obtain ⟨name, -, mem'⟩ := List.mem_flatMap.1 mem'
      obtain ⟨rel, ne, eq⟩ := exists_steps_of_mem mem'
      exact ne (List.cons.inj (List.append_cancel_left eq)).2.symm

/-- A walk comes upon no file twice. -/
theorem Distinct.nodup_steps_walk (h : t.Distinct) :
    ((t.walk enters depth steps place).map (·.1)).Nodup := by
  apply List.Nodup.map_on _ h.nodup_walk
  intro f mem f' mem' same
  obtain ⟨rel, eq, -, -, file, -⟩ := mem_walk_iff.1 mem
  obtain ⟨rel', eq', -, -, file', -⟩ := mem_walk_iff.1 mem'
  obtain rfl : rel = rel' := List.append_cancel_left (eq.symm.trans (same.trans eq'))
  exact Prod.ext same (h.content_eq file file')

/-! ## The order of a listing -/

/-- The trees hold the same files and folders, in whatever order they list them. -/
structure Relists (u t : FileTree) : Prop where
  files : u.files.Perm t.files
  folders : u.folders.Perm t.folders

namespace Relists

theorem distinct (h : u.Relists t) (hd : t.Distinct) : u.Distinct :=
  (h.files.map _).nodup_iff.2 hd

theorem hasFolder_eq (h : u.Relists t) : u.hasFolder place = t.hasFolder place := by
  rw [Bool.eq_iff_iff, hasFolder_iff, hasFolder_iff]
  simp only [h.files.mem_iff, h.folders.mem_iff]

theorem content?_eq (h : u.Relists t) (hd : t.Distinct) : u.content? place = t.content? place := by
  ext content
  rw [(h.distinct hd).content?_eq_some_iff, hd.content?_eq_some_iff, h.files.mem_iff]

theorem locate?_eq (h : u.Relists t) (p : Path) : u.locate? here p = t.locate? here p :=
  walk?_congr fun _ => h.hasFolder_eq

theorem fileAt?_eq (h : u.Relists t) (hd : t.Distinct) (p : Path) :
    u.fileAt? here p = t.fileAt? here p := by
  rw [fileAt?, fileAt?, h.locate?_eq]
  exact congrArg _ (funext fun _ => h.content?_eq hd)

theorem folderAt?_eq (h : u.Relists t) (p : Path) : u.folderAt? here p = t.folderAt? here p := by
  rw [folderAt?, folderAt?, h.locate?_eq]
  exact congrArg (Option.filter · _) (funext fun _ => h.hasFolder_eq)

end Relists

end ApiAccord.FileTree
