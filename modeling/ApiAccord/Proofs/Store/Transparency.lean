import ApiAccord.Proofs.Store.SameFile
import Mathlib.Logic.Relation

/-!
# What a store may hide

Files are written and removed, and specifications are loaded by way of a store; every writing gives
the file a fingerprint that it never had (`Session.Step`).  A load gives what loading without a
store would give at the moment (`load_transparent`), with one exception: if an earlier load of the
same file, which is as it was then, was led by references to another document that has changed
since, the load may give what the earlier one gave.

The invariant is that every stored entry is what some earlier load read (`Session.Remembers`), and
that a fingerprint tells the contents of a file apart (`Session.Inv`).
-/

namespace ApiAccord

/-- The contents that files have. -/
def FileTree.contents (t : FileTree) : List (FilePlace × FileContent) :=
  t.files.filter fun f => t.content? f.1 == some f.2

theorem FileTree.mem_contents_iff {t : FileTree} {place : FilePlace} {c : FileContent} :
    (place, c) ∈ t.contents ↔ t.content? place = some c := by
  simp only [contents, List.mem_filter, beq_iff_eq]
  exact ⟨And.right, fun h => ⟨mem_of_lookup h, h⟩⟩

/-- A load that happened: with which options, of what, and in which workspace. -/
structure Loading where
  options : LoadOptions
  source : SpecSource
  workspace : Workspace

/-- A library at work. -/
structure Session where
  library : Library
  /-- All contents that files have had, with their places. -/
  held : List (FilePlace × FileContent)
  loads : List Loading

namespace Session

open Library (fileKey fileOutcome)

/-- What loading gives without a store. -/
def plainOutcome (ws : Workspace) (o : LoadOptions) (source : SpecSource) : Except Failure Spec :=
  ((Library.load o source).run ⟨ws, none⟩).1.outcome

variable (s : Session)

def workspace : Workspace := s.library.workspace

/-- What loading gives by way of the store. -/
def outcome (o : LoadOptions) (source : SpecSource) : Except Failure Spec :=
  ((Library.load o source).run s.library).1.outcome

/-- The same session with other files. -/
def withFiles (files : FileTree) : Session :=
  { s with library := { s.library with workspace := { s.workspace with files := files } } }

def write (place : FilePlace) (c : FileContent) : Session :=
  { s.withFiles (s.workspace.files.write place c) with held := (place, c) :: s.held }

def remove (place : FilePlace) : Session := s.withFiles (s.workspace.files.remove place)

def load (o : LoadOptions) (source : SpecSource) : Session where
  library := ((Library.load o source).run s.library).2
  held := s.held
  loads := ⟨o, source, s.workspace⟩ :: s.loads

/-- The path that a location names, if it is the location of a file. -/
def pathOf? (ws : Workspace) (location : String) : Option Path :=
  if location == "-" || Document.isAddress location then none
  else (Path.ofText location).expandHome? ws.home

/-- No file is named by a path that is a single hyphen, which would be read as the input. -/
def NoHyphen (ws : Workspace) (source : SpecSource) : Prop :=
  ∀ location path, source = .location location → pathOf? ws location = some path →
    path.text ≠ "-"

variable {s}

/-- What can happen next: a file is written into a folder, with a fingerprint that it never had; a
file is removed; or something is loaded. -/
inductive Step : Session → Session → Prop where
  | write {s : Session} {path : Path} {place : FilePlace} {c : FileContent} :
    s.workspace.files.target s.workspace.here.steps path = .ok place →
      (∀ c', (place, c') ∈ s.held → c'.fingerprint ≠ c.fingerprint) → Step s (s.write place c)
  | remove {s : Session} {path : Path} {place : FilePlace} :
    s.workspace.files.locate? s.workspace.here.steps path = some place →
      s.workspace.files.hasFile place = true → Step s (s.remove place)
  | load {s : Session} {o : LoadOptions} {source : SpecSource} :
    NoHyphen s.workspace source → Step s (s.load o source)

/-- A session at its beginning. -/
def start (ws : Workspace) (store : Store StoredSpec) : Session :=
  ⟨⟨ws, some store⟩, ws.files.contents, []⟩

/-- What can come of a beginning. -/
def Reached (ws : Workspace) (store : Store StoredSpec) : Session → Prop :=
  Relation.ReflTransGen Step (start ws store)

/-! ## Workspaces of one session -/

/-- The workspaces know the same directories and pages. -/
structure Alike (ws ws' : Workspace) : Prop where
  here : ws'.here = ws.here
  home : ws'.home = ws.home
  pages : ws'.pages = ws.pages

theorem Alike.trans {ws ws' ws'' : Workspace} (h : Alike ws ws') (h' : Alike ws' ws'') :
    Alike ws ws'' :=
  ⟨h'.here.trans h.here, h'.home.trans h.home, h'.pages.trans h.pages⟩

/-- The load read this content of a file, and got the specification of the entry from it. -/
structure Remembers (s : Session) (x : Loading) (key : String) (entry : StoredSpec)
    (path : Path) (place : FilePlace) (c : FileContent) : Prop where
  proper : x.workspace.Proper
  source : ∃ location, x.source = .location location ∧ pathOf? x.workspace location = some path
  noHyphen : path.text ≠ "-"
  filed : key = fileKey x.workspace path
  leads : x.workspace.files.locate? x.workspace.here.steps path = some place
  content : x.workspace.files.content? place = some c
  held : (place, c) ∈ s.held
  fingerprint : entry.fingerprint = c.fingerprint
  stamp : entry.stamp = x.options.stamp
  outcome : fileOutcome x.workspace x.options path = .ok entry.spec

/-- What holds at every moment. -/
structure Inv (ws : Workspace) (s : Session) : Prop where
  proper : s.workspace.Proper
  alike : Alike ws s.workspace
  held : ∀ place c, s.workspace.files.content? place = some c → (place, c) ∈ s.held
  told : ∀ place c c', (place, c) ∈ s.held → (place, c') ∈ s.held →
    c.fingerprint = c'.fingerprint → c = c'
  stored : ∀ key entry, (key, entry) ∈ s.library.entries → ∃ x ∈ s.loads, ∃ path place c,
    Alike ws x.workspace ∧ Remembers s x key entry path place c

variable {ws : Workspace} {store : Store StoredSpec} {s s' : Session} {o : LoadOptions}
  {source : SpecSource} {location key : String} {path : Path} {place : FilePlace} {c : FileContent}
  {entry : StoredSpec}

/-! ## What every step keeps -/

theorem inv_start (hp : ws.Proper) (empty : store.entries = []) : Inv ws (start ws store) where
  proper := hp
  alike := ⟨rfl, rfl, rfl⟩
  held := fun _ _ h => FileTree.mem_contents_iff.2 h
  told := fun place c c' h h' _ => by
    rw [start, FileTree.mem_contents_iff] at h h'
    exact Option.some.inj (h.symm.trans h')
  stored := fun key entry h => by
    have h : (key, entry) ∈ store.entries := h
    rw [empty] at h
    exact absurd h List.not_mem_nil

theorem Remembers.mono {x : Loading} (h : Remembers s x key entry path place c)
    (hs : ∀ e ∈ s.held, e ∈ s'.held) : Remembers s' x key entry path place c :=
  { h with held := hs _ h.held }

theorem Inv.write (h : Inv ws s)
    (ht : s.workspace.files.target s.workspace.here.steps path = .ok place)
    (hf : ∀ c', (place, c') ∈ s.held → c'.fingerprint ≠ c.fingerprint) :
    Inv ws (s.write place c) where
  proper := by
    obtain ⟨hn, hd⟩ := FileTree.target_spec ht
    exact ⟨h.proper.here, h.proper.home, (FileTree.hasFolder_write hn hd).trans h.proper.hereFolder,
      h.proper.sound.write hn hd⟩
  alike := ⟨h.alike.here, h.alike.home, h.alike.pages⟩
  held := fun place' c' hc => by
    have hc : (s.workspace.files.write place c).content? place' = some c' := hc
    rw [FileTree.content?_write] at hc
    split at hc
    · next hp => exact hp ▸ Option.some.inj hc ▸ List.mem_cons_self
    · exact List.mem_cons_of_mem _ (h.held place' c' hc)
  told := fun place' c₁ c₂ h₁ h₂ he => by
    rcases List.mem_cons.1 h₁ with e₁ | m₁ <;> rcases List.mem_cons.1 h₂ with e₂ | m₂
    · rw [(Prod.mk.inj e₁).2, (Prod.mk.inj e₂).2]
    · obtain ⟨rfl, rfl⟩ := Prod.mk.inj e₁
      exact absurd he.symm (hf _ m₂)
    · obtain ⟨rfl, rfl⟩ := Prod.mk.inj e₂
      exact absurd he (hf _ m₁)
    · exact h.told place' c₁ c₂ m₁ m₂ he
  stored := fun key entry he => by
    obtain ⟨x, hx, path, place, c, ha, hr⟩ := h.stored key entry he
    exact ⟨x, hx, path, place, c, ha, hr.mono fun e => List.mem_cons_of_mem _⟩

theorem Inv.remove (h : Inv ws s) (hf : s.workspace.files.hasFile place = true) :
    Inv ws (s.remove place) where
  proper := ⟨h.proper.here, h.proper.home, (FileTree.hasFolder_remove hf).trans h.proper.hereFolder,
    h.proper.sound.remove hf⟩
  alike := ⟨h.alike.here, h.alike.home, h.alike.pages⟩
  held := fun place' c' hc => by
    have hc : (s.workspace.files.remove place).content? place' = some c' := hc
    rw [FileTree.content?_remove] at hc
    split at hc
    · cases hc
    · exact h.held place' c' hc
  told := h.told
  stored := fun key entry he => by
    obtain ⟨x, hx, path, place, c, ha, hr⟩ := h.stored key entry he
    exact ⟨x, hx, path, place, c, ha, hr.mono fun _ he => he⟩

/-! ## Loading -/

theorem isWritten_of_pathOf? (hp : ws.Proper) (h : pathOf? ws location = some path) :
    path.IsWritten := by
  unfold pathOf? at h
  split at h
  · cases h
  · exact Path.isWritten_of_expandHome? Path.isWritten_ofText hp.home h

/-- A source is the location of a file, or loading it has nothing to do with the store. -/
theorem load_cases (s : Session) (o : LoadOptions) (source : SpecSource) :
    (∃ location path, source = .location location ∧ pathOf? s.workspace location = some path ∧
      (Path.ofText location).expandHome? s.workspace.home = some path ∧
      Library.load o source = Library.loadFile o location) ∨
    (s.outcome o source = plainOutcome s.workspace o source ∧
      (s.load o source).library.entries = s.library.entries ∧
      Library.SameFiles s.workspace (s.load o source).workspace) := by
  have other : (∀ location, source = .location location →
        (location == "-" || Document.isAddress location) = true) →
      s.outcome o source = plainOutcome s.workspace o source ∧
        (s.load o source).library.entries = s.library.entries ∧
        Library.SameFiles s.workspace (s.load o source).workspace := fun h => by
    obtain ⟨ho, he, hw⟩ := Library.load_other_spec s.library o h
    exact ⟨congrArg Noted.outcome ho, he, hw⟩
  cases source with
  | document doc => exact .inr (other nofun)
  | location location =>
    by_cases hl : (location == "-" || Document.isAddress location) = true
    · exact .inr (other fun l h => SpecSource.location.inj h ▸ hl)
    · cases he : (Path.ofText location).expandHome? s.workspace.home with
      | none =>
        have file : (location == "-" || Document.isAddress location) = false := by simpa using hl
        have run := Library.load_unknownHome s.library o file he
        have plain := Library.load_unknownHome ⟨s.workspace, none⟩ o file he
        refine .inr ⟨?_, ?_, ?_⟩
        · rw [outcome, plainOutcome, run, plain]
        · rw [load, run]
        · rw [workspace, load, run]
          exact ⟨rfl, rfl, rfl, rfl⟩
      | some path =>
        refine .inl ⟨location, path, rfl, ?_, he, ?_⟩
        · rw [pathOf?, if_neg hl, he]
        · rw [Library.load, if_neg hl]

theorem Inv.load (h : Inv ws s) (hn : NoHyphen s.workspace source) : Inv ws (s.load o source) := by
  rcases load_cases s o source with ⟨location, path, rfl, hp, he, hl⟩ | ⟨-, entries, same⟩
  · have noHyphen := hn location path rfl hp
    obtain ⟨-, hw, hs⟩ := Library.loadFile_spec s.library o he noHyphen
    have workspace : (s.load o (.location location)).workspace = s.workspace := by
      rw [Session.workspace, Session.load, hl]
      exact hw
    refine ⟨workspace ▸ h.proper, workspace ▸ h.alike, workspace ▸ h.held, h.told, ?_⟩
    intro key entry hm
    rw [Session.load, hl] at hm
    rcases hs _ hm with hm | ⟨f, spec, hf, ho, hm⟩
    · obtain ⟨x, hx, path', place, c, ha, hr⟩ := h.stored key entry hm
      exact ⟨x, List.mem_cons_of_mem _ hx, path', place, c, ha, hr.mono fun _ he => he⟩
    · obtain ⟨rfl, rfl⟩ := Prod.mk.inj hm
      -- What was read is not empty, so that the fingerprint is that of the file.
      have written := isWritten_of_pathOf? h.proper hp
      obtain ⟨doc, hd, -⟩ := bind_eq_ok_iff.1 ho
      obtain ⟨c, hc, -⟩ := Workspace.exists_content_of_document written (mapError_eq_ok_iff.1 hd)
      obtain ⟨place, leads, content⟩ := Workspace.fileAt?_eq_some_iff.1 hc
      have same : f = c.fingerprint :=
        Option.some.inj (hf.symm.trans (Workspace.fingerprint?_of_fileAt? hc))
      exact ⟨⟨o, .location location, s.workspace⟩, List.mem_cons_self, path, place, c, h.alike,
        ⟨h.proper, ⟨location, rfl, hp⟩, noHyphen, rfl, leads, content, h.held place c content, same,
          rfl, ho⟩⟩
  · have proper : (s.load o source).workspace.Proper := by
      refine ⟨same.here ▸ h.proper.here, same.home ▸ h.proper.home, ?_, same.files ▸ h.proper.sound⟩
      rw [same.files, same.here]
      exact h.proper.hereFolder
    refine ⟨proper, h.alike.trans ⟨same.here, same.home, same.pages⟩, ?_, h.told, ?_⟩
    · rw [same.files]
      exact h.held
    · intro key entry hm
      obtain ⟨x, hx, path, place, c, ha, hr⟩ := h.stored key entry (entries ▸ hm)
      exact ⟨x, List.mem_cons_of_mem _ hx, path, place, c, ha, hr.mono fun _ he => he⟩

theorem inv_of_reached (hp : ws.Proper) (empty : store.entries = []) (h : Reached ws store s) :
    Inv ws s := by
  induction h with
  | refl => exact inv_start hp empty
  | tail _ step ih =>
    cases step with
    | write ht hf => exact ih.write ht hf
    | remove _ hf => exact ih.remove hf
    | load hn => exact ih.load hn

/-! ## Loads from the store -/

theorem load_eq_loadFile (hp : pathOf? ws location = some path) :
    Library.load o (.location location) = Library.loadFile o location ∧
      (Path.ofText location).expandHome? ws.home = some path := by
  unfold pathOf? at hp
  split at hp
  · cases hp
  · next hl => exact ⟨by rw [Library.load, if_neg hl], hp⟩

theorem plainOutcome_file (hp : pathOf? ws location = some path) (hn : path.text ≠ "-") :
    plainOutcome ws o (.location location) = fileOutcome ws o path := by
  obtain ⟨hl, he⟩ := load_eq_loadFile (o := o) hp
  rw [plainOutcome, hl]
  obtain ⟨ho, -⟩ := Library.loadFile_spec ⟨ws, none⟩ o he hn
  rcases ho with ⟨entry, hm, -⟩ | ho
  · exact absurd hm List.not_mem_nil
  · exact ho

/-- The file that an entry was read from still holds the same document, if its fingerprint is that
of the entry. -/
theorem Remembers.document_eq {x : Loading} {path' : Path} (h : Inv ws s)
    (hr : Remembers s x key entry path' place c) (ha : Alike ws x.workspace)
    (hw : path.IsWritten) (hk : fileKey s.workspace path = key)
    (hf : s.workspace.fingerprint? path = some entry.fingerprint) :
    s.workspace.resolve path = x.workspace.resolve path' ∧
      ∃ doc, x.workspace.document path'.text = .ok doc ∧
        s.workspace.document path.text = .ok doc := by
  obtain ⟨location, -, hp'⟩ := hr.source
  have hw' := isWritten_of_pathOf? hr.proper hp'
  have here : x.workspace.here = s.workspace.here := ha.here.trans h.alike.here.symm
  have steps : (s.workspace.resolve path).steps = (x.workspace.resolve path').steps := by
    have hk' := hk.trans hr.filed
    rw [fileKey, fileKey, Workspace.resolve, Workspace.resolve, here] at hk'
    rw [Workspace.resolve, Workspace.resolve, here]
    exact Path.steps_eq_of_resolve_text_eq hw hw' h.proper.here hk'
  refine ⟨congrArg (Path.mk "/") steps, ?_⟩
  obtain ⟨doc, hd, -⟩ := bind_eq_ok_iff.1 hr.outcome
  have hd := mapError_eq_ok_iff.1 hd
  refine ⟨doc, hd, ?_⟩
  have was : x.workspace.fileAt? path' = some c :=
    Workspace.fileAt?_eq_some_iff.2 ⟨place, hr.leads, hr.content⟩
  have size : entry.fingerprint.size ≠ 0 := by
    obtain ⟨c', hc', hne⟩ := Workspace.exists_content_of_document hw' hd
    obtain rfl := Option.some.inj (was.symm.trans hc')
    rw [hr.fingerprint]
    exact fun hz => hne (List.length_eq_zero_iff.1 hz)
  obtain ⟨c', hc', he⟩ := Workspace.exists_content_of_fingerprint? hf size
  obtain ⟨place', leads', content'⟩ := Workspace.fileAt?_eq_some_iff.1 hc'
  -- Both paths lead to the same place, where fingerprints tell the contents apart.
  have same : place' = place := by
    rw [Workspace.place_eq leads', Workspace.place_eq hr.leads, steps]
  subst same
  obtain rfl := h.told place' c' c (h.held place' c' content') hr.held (he.trans hr.fingerprint)
  refine Workspace.document_eq_of_content hw' hw was hc' ?_ hd
  rw [Workspace.name_eq hr.proper hr.leads hr.content, Workspace.name_eq h.proper leads' content']

/-- What a load from the store gives that loading without one might not: what the earlier load `x`
of the same file gave, when the document at `l` was another one than now. -/
structure Stale (s : Session) (o : LoadOptions) (source : SpecSource) (x : Loading)
    (path path' : Path) (doc : Value) (l : String) : Prop where
  named : ∃ location, source = .location location ∧ pathOf? s.workspace location = some path
  earlier : ∃ location, x.source = .location location ∧ pathOf? x.workspace location = some path'
  sameFile : s.workspace.resolve path = x.workspace.resolve path'
  unchanged : s.workspace.fingerprint? path = x.workspace.fingerprint? path'
  stamp : o.stamp = x.options.stamp
  outcome : s.outcome o source = plainOutcome x.workspace x.options x.source
  read : x.workspace.document path'.text = .ok doc
  reached : Library.Reaches x.workspace x.options (some (fileKey x.workspace path')) doc l
  changed : x.workspace.document l ≠ s.workspace.document l

/-- A load by way of the store gives what loading without one gives at the moment, unless it gives
what an earlier load of the same file gave, with options of the same stamp and while the file was as
it is now, whose references led to a document that has changed since. -/
theorem load_transparent (ws : Workspace) (proper : ws.Proper) (store : Store StoredSpec)
    (empty : store.entries = []) (s : Session) (reached : Reached ws store s) (o : LoadOptions)
    (source : SpecSource) (noHyphen : NoHyphen s.workspace source) :
    s.outcome o source = plainOutcome s.workspace o source ∨
      ∃ x ∈ s.loads, ∃ path path' doc l, Stale s o source x path path' doc l := by
  have h := inv_of_reached proper empty reached
  rcases load_cases s o source with ⟨location, path, rfl, hp, he, hl⟩ | ⟨same, -⟩
  · have hn := noHyphen location path rfl hp
    obtain ⟨ho, -⟩ := Library.loadFile_spec s.library o he hn
    rw [plainOutcome_file hp hn, outcome, hl]
    rcases ho with ⟨entry, hm, hf, hs, ho⟩ | ho
    · obtain ⟨x, hx, path', place, c, ha, hr⟩ := h.stored _ entry hm
      obtain ⟨sameFile, doc, hd, hd'⟩ :=
        hr.document_eq h ha (isWritten_of_pathOf? h.proper hp) rfl hf
      obtain ⟨location', hsrc, hp'⟩ := hr.source
      have here : s.workspace.here = x.workspace.here := h.alike.here.trans ha.here.symm
      have key : fileKey s.workspace path = fileKey x.workspace path' := hr.filed
      by_cases agree : ∀ l, Library.Reaches x.workspace x.options
          (some (fileKey x.workspace path')) doc l →
            x.workspace.document l = s.workspace.document l
      · refine .inl (ho.trans ?_)
        have now := Library.specOf_congr here (hs.symm.trans hr.stamp) agree
        rw [← hr.outcome, fileOutcome, fileOutcome, hd, hd', key]
        exact congrArg Noted.outcome now
      · obtain ⟨l, hl'⟩ := not_forall.1 agree
        obtain ⟨hreach, hne⟩ := Classical.not_imp.1 hl'
        have was : x.workspace.fileAt? path' = some c :=
          Workspace.fileAt?_eq_some_iff.2 ⟨place, hr.leads, hr.content⟩
        refine .inr ⟨x, hx, path, path', doc, l, ⟨location, rfl, hp⟩, hr.source, sameFile, ?_,
          hs.symm.trans hr.stamp, ?_, hd, hreach, hne⟩
        · rw [Workspace.fingerprint?_of_fileAt? was, ← hr.fingerprint]
          exact hf
        · rw [hsrc, plainOutcome_file hp' hr.noHyphen, hr.outcome, outcome, hl]
          exact ho
    · exact .inl ho
  · exact .inl same

/-! ## A referenced document that changes -/

/-- A document whose title is in another one, `b.json`. -/
def mainText : String := "\x7b\"openapi\": \"3.0\", \"info\": \x7b\"$ref\": \"b.json\"\x7d\x7d"

def titleText (title : String) : String := "\x7b\"title\": \"" ++ title ++ "\"\x7d"

def contentOf (text : String) (modified : Int) : FileContent := ⟨Text.Utf8.encode text, modified⟩

/-- A directory with the two files. -/
def twoFiles : Workspace where
  files :=
    ⟨[(["w", "a.json"], contentOf mainText 1), (["w", "b.json"], contentOf (titleText "old") 2)],
      []⟩
  here := ⟨"/", ["w"]⟩
  home := ⟨"/", ["w"]⟩
  pages := []
  environment := []
  system := "Linux"
  input := ""
  clock := 3
  stores := []

theorem proper_twoFiles : twoFiles.Proper where
  here := ⟨rfl, by unfold Document.Settled Document.Written; decide⟩
  home := ⟨.inr (.inl rfl), by unfold Document.Written; decide⟩
  hereFolder := by decide
  sound := by
    intro place h
    obtain ⟨c, hc⟩ := Option.isSome_iff_exists.1 h
    have hm := List.mem_map_of_mem (f := (·.1)) (mem_of_lookup hc)
    have places : twoFiles.files.files.map (·.1) = [["w", "a.json"], ["w", "b.json"]] := rfl
    rw [places, List.mem_cons, List.mem_singleton] at hm
    rcases hm with rfl | rfl <;> decide

/-- An empty store with room for eight. -/
def roomForEight : Store StoredSpec := .memory (.empty 8)

theorem pathOf?_twoFiles : pathOf? twoFiles "a.json" = some ⟨"", ["a.json"]⟩ := by decide

theorem noHyphen_twoFiles : NoHyphen twoFiles (.location "a.json") := by
  intro location path hl hp
  obtain rfl := SpecSource.location.inj hl
  obtain rfl := Option.some.inj (pathOf?_twoFiles.symm.trans hp)
  decide

/-- The session after `a.json` was loaded. -/
def loadedOnce : Session := (start twoFiles roomForEight).load .default (.location "a.json")

theorem workspace_loadedOnce : loadedOnce.workspace = twoFiles := by
  obtain ⟨hl, he⟩ := load_eq_loadFile (o := .default) pathOf?_twoFiles
  have path : (Path.mk "" ["a.json"]).text ≠ "-" := by decide
  rw [workspace, loadedOnce, load, hl]
  exact (Library.loadFile_spec (start twoFiles roomForEight).library .default he path).2.1

theorem reached_loadedOnce : Reached twoFiles roomForEight loadedOnce :=
  .single (.load noHyphen_twoFiles)

theorem load_transparent_loadedOnce :
    twoFiles.Proper ∧ roomForEight.entries = [] ∧ Reached twoFiles roomForEight loadedOnce ∧
    NoHyphen loadedOnce.workspace (.location "a.json") ∧
    (loadedOnce.outcome .default (.location "a.json") =
        plainOutcome loadedOnce.workspace .default (.location "a.json") ∨
      ∃ x ∈ loadedOnce.loads, ∃ path path' doc l,
        Stale loadedOnce .default (.location "a.json") x path path' doc l) := by
  have noHyphen : NoHyphen loadedOnce.workspace (.location "a.json") :=
    workspace_loadedOnce ▸ noHyphen_twoFiles
  exact ⟨proper_twoFiles, rfl, reached_loadedOnce, noHyphen,
    load_transparent twoFiles proper_twoFiles roomForEight rfl loadedOnce reached_loadedOnce
      .default _ noHyphen⟩

/-- The session after `b.json` was written, too. -/
def writtenAfter : Session := loadedOnce.write ["w", "b.json"] (contentOf (titleText "new") 3)

theorem reached_writtenAfter : Reached twoFiles roomForEight writtenAfter := by
  refine reached_loadedOnce.tail (@Step.write _ ⟨"", ["b.json"]⟩ _ _ ?_ ?_)
  · rw [workspace_loadedOnce]
    rfl
  · have held : ∀ e ∈ (start twoFiles roomForEight).held, e.2.fingerprint.modified ≠ 3 := by
      decide +kernel
    exact fun c' hc' hf => held _ hc' (congrArg Fingerprint.modified hf)

/-- The title that an outcome has, if it is a specification. -/
def titleOf (outcome : Except Failure Spec) : Option String :=
  outcome.toOption.map (·.metadata.title)

/-- After `a.json` was loaded and `b.json` written, loading `a.json` gives the title that was in
`b.json` before. -/
theorem old_title_after_write :
    Reached twoFiles roomForEight writtenAfter ∧
    titleOf (writtenAfter.outcome .default (.location "a.json")) = some "old" ∧
    titleOf (plainOutcome writtenAfter.workspace .default (.location "a.json")) = some "new" :=
  ⟨reached_writtenAfter, by decide +kernel, by decide +kernel⟩

end Session

end ApiAccord
