import ApiAccord.Library
import ApiAccord.Proofs.Files.Tree
import ApiAccord.Proofs.Workspace

/-!
# What loading gives

`loadFile_spec` says what loading a file by way of the store gives: the specification of a stored
entry with the file's fingerprint and the options' stamp, or else what `fileOutcome` reads from the
workspace; and what the store holds afterwards, which gives out only what was put into it.
`specOf_congr` says on which documents of the workspace the specification depends.
-/

namespace ApiAccord

/-! ## Tasks one after another -/

namespace Task

variable {σ α β : Type}

theorem bind_run (t : Task σ α) (f : α → Task σ β) (s : σ) : (t >>= f).run s =
    match (t.run s).1.outcome with
    | .ok a => (⟨(t.run s).1.notices ++ ((f a).run (t.run s).2).1.notices,
        ((f a).run (t.run s).2).1.outcome⟩, ((f a).run (t.run s).2).2)
    | .error e => (⟨(t.run s).1.notices, .error e⟩, (t.run s).2) := by
  show (t.andThen f).run s = _
  cases h : (t.run s).1.outcome with
  | ok a => simp only [andThen, h]
  | error e => simp only [andThen, h]

theorem look_run (f : σ → α) (s : σ) : (look f).run s = (⟨[], .ok (f s)⟩, s) := rfl

theorem take_run (f : σ → α × σ) (s : σ) : (take f).run s = (⟨[], .ok (f s).1⟩, (f s).2) := rfl

theorem ofNoted_run (n : Noted α) (s : σ) : (ofNoted n).run s = (n, s) := rfl

theorem outcome_bind (t : Task σ α) (f : α → Task σ β) (s : σ) : ((t >>= f).run s).1.outcome =
    (t.run s).1.outcome >>= fun a => ((f a).run (t.run s).2).1.outcome := by
  rw [bind_run]
  cases (t.run s).1.outcome <;> rfl

/-- What holds of the state after each of two tasks holds after both. -/
theorem bind_state {P Q : σ → Prop} {t : Task σ α} {f : α → Task σ β} {s : σ}
    (ht : P (t.run s).2) (hf : ∀ a s, P s → Q ((f a).run s).2) (hPQ : ∀ s, P s → Q s) :
    Q ((t >>= f).run s).2 := by
  rw [bind_run]
  split
  · exact hf _ _ ht
  · exact hPQ _ ht

end Task

namespace Noted

variable {α β : Type} {n : Noted α} {f g : α → Noted β}

theorem bind_congr (h : ∀ a, n.outcome = .ok a → f a = g a) : (n >>= f) = n >>= g := by
  show n.andThen f = n.andThen g
  unfold andThen
  split
  · next a ha => rw [h a ha]
  · rfl

theorem outcome_ofExcept_bind (x : Except Failure α) (f : α → Noted β) :
    (ofExcept x >>= f).outcome = x.bind fun a => (f a).outcome := by
  cases x <;> rfl

end Noted

/-! ## What a store holds -/

namespace Store

variable {α : Type} {s : Store α} {key : String} {a : α} {e : String × α}

/-- The entries that a store holds. -/
def entries : Store α → Entries α
  | .memory t => t.entries
  | .disk _ _ entries => entries

theorem mem_entries_of_get (h : (s.get key).1 = some a) : (key, a) ∈ s.entries := by
  cases s with
  | memory t =>
    refine mem_of_lookup (l := t.entries) ?_
    unfold get Recency.get at h
    dsimp only at h
    split at h
    · next b hb => exact hb.trans h
    · cases h
  | disk d n entries => exact mem_of_lookup h

theorem mem_of_mem_entries_get (h : e ∈ (s.get key).2.entries) : e ∈ s.entries := by
  cases s with
  | memory t =>
    unfold get Recency.get at h
    dsimp only at h
    split at h
    · next b hb =>
      rcases List.mem_append.1 h with h | h
      · exact (List.mem_filter.1 h).1
      · obtain rfl := List.mem_singleton.1 h
        exact mem_of_lookup hb
    · exact h
  | disk d n entries => exact h

theorem mem_or_eq_of_mem_entries_set (h : e ∈ (s.set key a).entries) :
    e ∈ s.entries ∨ e = (key, a) := by
  have split : e ∈ s.entries.filter (·.1 != key) ++ [(key, a)] → e ∈ s.entries ∨ e = (key, a) := by
    intro h
    rcases List.mem_append.1 h with h | h
    · exact .inl (List.mem_filter.1 h).1
    · exact .inr (List.mem_singleton.1 h)
  cases s with
  | memory t => exact split (List.mem_of_mem_drop h)
  | disk d n entries => exact split h

end Store

namespace Library

variable {lib : Library} {ws ws' : Workspace} {o o' : LoadOptions} {location key : String}
  {path : Path} {entry : StoredSpec} {e : String × StoredSpec} {base : Option String} {doc : Value}

/-! ## The entries of a library -/

/-- The entries of the store, if there is one. -/
def entries (lib : Library) : Entries StoredSpec :=
  match lib.store with
  | some s => s.entries
  | none => []

theorem mem_entries_of_lookUp (h : (lookUp lib key).1 = some entry) :
    (key, entry) ∈ lib.entries := by
  unfold lookUp at h
  unfold entries
  cases hs : lib.store with
  | none => rw [hs] at h; cases h
  | some s => rw [hs] at h; exact Store.mem_entries_of_get h

theorem mem_of_mem_entries_lookUp (h : e ∈ (lookUp lib key).2.entries) : e ∈ lib.entries := by
  unfold lookUp entries at h
  unfold entries
  cases hs : lib.store with
  | none => simp only [hs, List.not_mem_nil] at h
  | some s => simp only [hs] at h; exact Store.mem_of_mem_entries_get h

theorem lookUp_workspace : (lookUp lib key).2.workspace = lib.workspace := by
  unfold lookUp
  cases lib.store <;> rfl

theorem mem_or_eq_of_mem_entries_keep (h : e ∈ (lib.keep key entry).entries) :
    e ∈ lib.entries ∨ e = (key, entry) := by
  unfold keep entries at h
  unfold entries
  cases hs : lib.store with
  | none => simp only [hs, Option.map_none, List.not_mem_nil] at h
  | some s => simp only [hs, Option.map_some] at h; exact Store.mem_or_eq_of_mem_entries_set h

/-! ## Loading a file -/

/-- The key under which the specification in a file is stored. -/
def fileKey (ws : Workspace) (path : Path) : String := (ws.resolve path).text

/-- What loading a file gives without a store. -/
def fileOutcome (ws : Workspace) (o : LoadOptions) (path : Path) : Except Failure Spec :=
  ((ws.document path.text).mapError Failure.ofLoad).bind fun doc =>
    (specOf ws o (some (fileKey ws path)) doc).outcome

theorem document_run (h : location ≠ "-") : (document location).run ws =
    (⟨[], (ws.document location).mapError Failure.ofLoad⟩, ws) := by
  unfold document
  rw [if_neg (by simpa using h), Task.bind_run, Task.look_run]
  rfl

theorem stored?_spec (lib : Library) (o : LoadOptions) (key : String)
    (fingerprint : Option Fingerprint) :
    ∃ found lib', (stored? o key fingerprint).run lib = (⟨[], .ok found⟩, lib') ∧
      lib'.workspace = lib.workspace ∧ (∀ e ∈ lib'.entries, e ∈ lib.entries) ∧
      ∀ spec, found = some spec → ∃ entry, (key, entry) ∈ lib.entries ∧
        fingerprint = some entry.fingerprint ∧ entry.stamp = o.stamp ∧ entry.spec = spec := by
  unfold stored?
  cases fingerprint with
  | none => exact ⟨none, lib, rfl, rfl, fun _ h => h, nofun⟩
  | some f =>
    by_cases hf : o.fresh = true
    · exact ⟨none, lib, by simp only [hf, if_true]; rfl, rfl, fun _ h => h, nofun⟩
    · refine ⟨((lookUp lib key).1.filter (isCurrent o f)).map (·.spec), (lookUp lib key).2, ?_,
        lookUp_workspace, fun _ => mem_of_mem_entries_lookUp, ?_⟩
      · simp only [hf]
        rfl
      · intro spec h
        obtain ⟨entry, hc, rfl⟩ := Option.map_eq_some_iff.1 h
        obtain ⟨hm, hc⟩ := Option.filter_eq_some_iff.1 hc
        rw [isCurrent, Bool.and_eq_true, beq_iff_eq, beq_iff_eq] at hc
        exact ⟨entry, mem_entries_of_lookUp hm, congrArg some hc.1.symm, hc.2, rfl⟩

theorem inWorkspace_document_run (h : location ≠ "-") :
    (inWorkspace (document location)).run lib =
      (⟨[], (lib.workspace.document location).mapError Failure.ofLoad⟩, lib) := by
  show (((document location).run lib.workspace).1, Library.mk
    ((document location).run lib.workspace).2 lib.store) = _
  rw [document_run h]

/-- Reading a file keeps nothing but what was read, and leaves the workspace as it is. -/
theorem readFile_spec (lib : Library) (o : LoadOptions) (fingerprint : Option Fingerprint)
    (hd : path.text ≠ "-") :
    ((readFile o (fileKey lib.workspace path) path fingerprint).run lib).1.outcome =
      fileOutcome lib.workspace o path ∧
    ((readFile o (fileKey lib.workspace path) path fingerprint).run lib).2.workspace =
      lib.workspace ∧
    ∀ e ∈ ((readFile o (fileKey lib.workspace path) path fingerprint).run lib).2.entries,
      e ∈ lib.entries ∨ ∃ f spec, fingerprint = some f ∧
        fileOutcome lib.workspace o path = .ok spec ∧
        e = (fileKey lib.workspace path, ⟨spec, f, o.stamp⟩) := by
  unfold readFile fileOutcome
  simp only [Task.bind_run, Task.look_run, inWorkspace_document_run hd, Task.ofNoted_run]
  cases (lib.workspace.document path.text).mapError Failure.ofLoad with
  | error f => exact ⟨rfl, rfl, fun e h => .inl h⟩
  | ok doc =>
    dsimp only [Except.bind]
    cases (specOf lib.workspace o (some (fileKey lib.workspace path)) doc).outcome with
    | error f => exact ⟨rfl, rfl, fun e h => .inl h⟩
    | ok spec =>
      cases fingerprint with
      | none => exact ⟨rfl, rfl, fun e h => .inl h⟩
      | some f =>
        refine ⟨rfl, rfl, fun e h => ?_⟩
        exact (mem_or_eq_of_mem_entries_keep h).imp_right fun h => ⟨f, spec, rfl, rfl, h⟩

/-- Loading a file gives what a current entry of the store holds, or what is in the file; it leaves
the workspace as it is, and adds to the store what it read, if that is a specification. -/
theorem loadFile_spec (lib : Library) (o : LoadOptions)
    (he : (Path.ofText location).expandHome? lib.workspace.home = some path)
    (hd : path.text ≠ "-") :
    ((∃ entry, (fileKey lib.workspace path, entry) ∈ lib.entries ∧
        lib.workspace.fingerprint? path = some entry.fingerprint ∧ entry.stamp = o.stamp ∧
        ((loadFile o location).run lib).1.outcome = .ok entry.spec) ∨
      ((loadFile o location).run lib).1.outcome = fileOutcome lib.workspace o path) ∧
    ((loadFile o location).run lib).2.workspace = lib.workspace ∧
    ∀ e ∈ ((loadFile o location).run lib).2.entries, e ∈ lib.entries ∨
      ∃ f spec, lib.workspace.fingerprint? path = some f ∧
        fileOutcome lib.workspace o path = .ok spec ∧
        e = (fileKey lib.workspace path, ⟨spec, f, o.stamp⟩) := by
  obtain ⟨found, lib', hrun, hws, hsub, hfound⟩ :=
    stored?_spec lib o (fileKey lib.workspace path) (lib.workspace.fingerprint? path)
  have key : (lib.workspace.resolve path).text = fileKey lib.workspace path := rfl
  unfold loadFile
  simp only [Task.bind_run, Task.look_run, he, key, hrun]
  cases found with
  | some spec =>
    obtain ⟨entry, hm, hf, hs, rfl⟩ := hfound spec rfl
    exact ⟨.inl ⟨entry, hm, hf, hs, rfl⟩, hws, fun e h => .inl (hsub e h)⟩
  | none =>
    dsimp only
    rw [← hws]
    obtain ⟨ho, hw, he⟩ := readFile_spec lib' o (lib'.workspace.fingerprint? path) hd
    exact ⟨.inr ho, hw, fun e h => (he e h).imp_left (hsub e)⟩

/-! ## Loading what is no file -/

/-- Two workspaces that differ in what is typed in only, as far as loading goes. -/
structure SameFiles (ws ws' : Workspace) : Prop where
  files : ws'.files = ws.files
  here : ws'.here = ws.here
  home : ws'.home = ws.home
  pages : ws'.pages = ws.pages

theorem document_sameFiles (ws : Workspace) (location : String) :
    SameFiles ws ((document location).run ws).2 := by
  unfold document
  split
  · rw [Task.bind_run, Task.take_run]
    exact ⟨rfl, rfl, rfl, rfl⟩
  · rw [Task.bind_run, Task.look_run]
    exact ⟨rfl, rfl, rfl, rfl⟩

/-- A document at hand, the input and an address are loaded without a look at the store. -/
theorem load_other_spec (lib : Library) (o : LoadOptions) {source : SpecSource}
    (h : ∀ location, source = .location location →
      (location == "-" || Document.isAddress location) = true) :
    ((load o source).run lib).1 = ((load o source).run ⟨lib.workspace, none⟩).1 ∧
    ((load o source).run lib).2.entries = lib.entries ∧
    SameFiles lib.workspace ((load o source).run lib).2.workspace := by
  cases source with
  | document doc => exact ⟨rfl, rfl, rfl, rfl, rfl, rfl⟩
  | location location =>
    rw [load, if_pos (h location rfl)]
    simp only [Task.bind_run, Task.look_run, Task.ofNoted_run]
    have run : ∀ lib : Library, (inWorkspace (document location)).run lib =
        (((document location).run lib.workspace).1,
          ⟨((document location).run lib.workspace).2, lib.store⟩) := fun _ => rfl
    have same := document_sameFiles lib.workspace location
    simp only [run]
    cases ((document location).run lib.workspace).1.outcome with
    | error f => exact ⟨rfl, rfl, same⟩
    | ok doc => exact ⟨rfl, rfl, same⟩

theorem load_unknownHome (lib : Library) (o : LoadOptions)
    (hl : (location == "-" || Document.isAddress location) = false)
    (he : (Path.ofText location).expandHome? lib.workspace.home = none) :
    (load o (.location location)).run lib = (.fail .unknownHome, lib) := by
  rw [load, if_neg (by simp [hl]), loadFile]
  simp only [Task.bind_run, Task.look_run, he]
  rfl

/-! ## What a specification depends on -/

/-- The options for references that loading uses. -/
def resolveOptions (ws : Workspace) (o : LoadOptions) : ResolveOptions :=
  ⟨o.external, o.tolerant, ws.here.text⟩

/-- The references of a document lead to the location `l` when its specification is read. -/
def Reaches (ws : Workspace) (o : LoadOptions) (base : Option String) (doc : Value) (l : String) :
    Prop :=
  o.dereference = true ∧ ∃ format version modern,
    Document.detectFormat doc = .ok (format, version) ∧ Spec.modernize format doc = .ok modern ∧
    Reference.ReachesLocation (resolveOptions ws o) (ws.shelf (resolveOptions ws o) base modern)
      (Reference.startOf (resolveOptions ws o) base modern) l

/-- The specification of a document depends on the documents that its references lead to, and on
the options in the stamp. -/
theorem specOf_congr (hh : ws'.here = ws.here) (hs : o'.stamp = o.stamp)
    (h : ∀ l, Reaches ws o base doc l → ws.document l = ws'.document l) :
    specOf ws o base doc = specOf ws' o' base doc := by
  obtain ⟨hd, he, ht⟩ : o'.dereference = o.dereference ∧ o'.external = o.external ∧
      o'.tolerant = o.tolerant := by simpa [LoadOptions.stamp] using hs
  unfold specOf Spec.ofAnyDocument
  rw [hh, hd, he, ht]
  refine Noted.bind_congr fun ⟨format, version⟩ hf => Noted.bind_congr fun modern hm => ?_
  by_cases hr : o.dereference = true
  · have same := Workspace.resolve_shelf_congr fun l hl =>
      h l ⟨hr, format, version, modern, hf, hm, hl⟩
    simp only [resolveOptions] at same
    simp only [hr, if_true, Reference.resolveNoting, same]
  · simp only [hr]
    rfl

end Library

end ApiAccord
