import ApiAccord.Proofs.Files.Walk

/-!
# What a scan finds

A scan of a folder analyses the files that its patterns select (`Selector.Selects`), in the order of
their paths, and every one of them either is among the files of the scan or has a failure
(`Scan.Covers`).  Neither depends on the order in which folders list what is in them
(`scan_exact`).
-/

namespace ApiAccord

variable {ws : Workspace} {s : Selector} {place : FilePlace} {steps steps' : List String}
  {f : List String × FileContent} {o : ScanOptions}

/-! ## The order of paths -/

/-- Paths are in order unless the second one is smaller than the first. -/
theorem stepsLe_iff (steps steps' : List String) :
    stepsLe steps steps' = true ↔ ¬steps' < steps := by
  fun_induction stepsLe steps steps' with
  | case1 b => simp
  | case2 a as => simp
  | case3 a as b bs same ih =>
    rw [beq_iff_eq.1 same, ih, List.cons_lt_cons_iff]
    simp
  | case4 a as b bs apart =>
    have ne : b ≠ a := fun same => apart (beq_iff_eq.2 same.symm)
    simp [Text.le, List.cons_lt_cons_iff, ne]

theorem stepsLe_trans {a b c : List String} (hab : stepsLe a b = true) (hbc : stepsLe b c = true) :
    stepsLe a c = true := by
  rw [stepsLe_iff, List.not_lt] at *
  exact List.le_trans hab hbc

theorem stepsLe_total (a b : List String) : (stepsLe a b || stepsLe b a) = true := by
  rw [Bool.or_eq_true, stepsLe_iff, stepsLe_iff, List.not_lt, List.not_lt]
  exact List.le_total a b

theorem lt_of_stepsLe (h : stepsLe steps steps' = true) (ne : steps ≠ steps') : steps < steps' := by
  by_contra not
  exact ne (List.le_antisymm (List.not_lt.1 ((stepsLe_iff _ _).1 h)) (List.not_lt.1 not))

/-! ## Selection -/

namespace Selector

/-- A file is selected if it is wanted, is neither unwanted nor ignored, and no folder above it, up
to the top, is ignored or has a name of those that never hold sources. -/
structure Selects (s : Selector) (steps : List String) : Prop where
  folders : ∀ above name rest, steps = above ++ name :: rest → rest ≠ [] →
    name ∉ barren ∧
      IgnorePattern.select s.ignored ("/".intercalate (above ++ [name]) ++ "/") = false
  notIgnored : IgnorePattern.select s.ignored ("/".intercalate steps) = false
  isWanted : IgnorePattern.select s.wanted ("/".intercalate steps) = true
  notUnwanted : IgnorePattern.select s.unwanted ("/".intercalate steps) = false

theorem enters_concat (s : Selector) (above : List String) (name : String) :
    s.enters (above ++ [name]) = true ↔ name ∉ barren ∧
      IgnorePattern.select s.ignored ("/".intercalate (above ++ [name]) ++ "/") = false := by
  simp only [enters, List.getLast?_concat, Option.getD_some, Bool.and_eq_true, Bool.not_eq_true',
    List.contains_iff_mem, Bool.eq_false_iff, ne_eq]

theorem selects_iff : s.Selects steps ↔
    FileTree.Entered s.enters [] steps ∧ s.wants steps = true := by
  simp only [FileTree.Entered, List.nil_append, enters_concat, wants, Bool.and_eq_true,
    Bool.not_eq_true']
  constructor
  · intro h
    exact ⟨h.folders, ⟨h.notIgnored, h.isWanted⟩, h.notUnwanted⟩
  · rintro ⟨folders, ⟨notIgnored, isWanted⟩, notUnwanted⟩
    exact ⟨folders, notIgnored, isWanted, notUnwanted⟩

end Selector

namespace Workspace

open FileTree

theorem mem_sources_iff : f ∈ ws.sources s place ↔
    f.1 ≠ [] ∧ (place ++ f.1, f.2) ∈ ws.files.files ∧ s.Selects f.1 := by
  rw [sources, List.mem_mergeSort, List.mem_filter, mem_walk_iff, Selector.selects_iff]
  constructor
  · rintro ⟨⟨rel, eq, ne, -, file, entered⟩, wants⟩
    obtain rfl : f.1 = rel := eq
    exact ⟨ne, file, entered, wants⟩
  · rintro ⟨ne, file, entered, wants⟩
    have le := length_le_depth file
    rw [List.length_append] at le
    exact ⟨⟨f.1, rfl, ne, by omega, file, entered⟩, wants⟩

/-- The sources are in the order of their paths, each of them once. -/
theorem pairwise_sources (h : ws.files.Distinct) :
    (ws.sources s place).Pairwise fun f f' => f.1 < f'.1 := by
  have sorted : (ws.sources s place).Pairwise fun f f' => stepsLe f.1 f'.1 = true := by
    apply List.pairwise_mergeSort
    · exact fun _ _ _ => stepsLe_trans
    · exact fun _ _ => stepsLe_total _ _
  have apart : (ws.sources s place).Pairwise fun f f' => f.1 ≠ f'.1 := by
    rw [← List.pairwise_map]
    apply (List.Perm.map _ (List.mergeSort_perm _ _)).nodup_iff.2
    exact (List.Nodup.sublist (List.filter_sublist.map _) h.nodup_steps_walk)
  exact sorted.imp₂ (fun f f' => lt_of_stepsLe) apart

theorem nodup_sources (h : ws.files.Distinct) : (ws.sources s place).Nodup := by
  apply (pairwise_sources h).imp
  rintro f _ lt rfl
  exact List.lt_irrefl _ lt

/-- The sources are the same however the tree lists its files. -/
theorem sources_relists {ws' : Workspace} (h : ws'.files.Relists ws.files)
    (hd : ws.files.Distinct) : ws'.sources s place = ws.sources s place := by
  have hd' := h.distinct hd
  have same : (ws'.sources s place).Perm (ws.sources s place) := by
    rw [List.perm_ext_iff_of_nodup (nodup_sources hd') (nodup_sources hd)]
    intro f
    rw [mem_sources_iff, mem_sources_iff, h.files.mem_iff]
  apply same.eq_of_pairwise _ (pairwise_sources hd') (pairwise_sources hd)
  exact fun f f' _ _ lt lt' => absurd lt' (List.lt_asymm lt)

end Workspace

/-! ## Analysing files -/

namespace FeatureSet

theorem mk_append_mk (endpoints endpoints' : List EndpointFeature)
    (methods methods' : List MethodFeature) (schemas schemas' : List SchemaFeature)
    (parameters parameters' : List ParameterFeature) :
    FeatureSet.mk endpoints methods schemas parameters ++
        ⟨endpoints', methods', schemas', parameters'⟩ =
      ⟨endpoints ++ endpoints', methods ++ methods', schemas ++ schemas',
        parameters ++ parameters'⟩ := rfl

instance : Std.Associative (α := FeatureSet) (· ++ ·) where
  assoc a b c := by
    cases a; cases b; cases c
    simp only [mk_append_mk, List.append_assoc]

theorem append_empty (fs : FeatureSet) : fs ++ empty = fs := by
  cases fs
  simp only [empty, mk_append_mk, List.append_nil]

theorem merge_cons (fs : FeatureSet) (sets : List FeatureSet) :
    merge (fs :: sets) = fs ++ merge sets := by
  have first : empty ++ fs = fs ++ empty := (append_empty fs).symm
  rw [merge, List.foldl_cons, first, List.foldl_assoc]
  rfl

end FeatureSet

namespace Scan

/-- The path of a file, as a scan writes it. -/
def nameOf (f : List String × FileContent) : String := "/".intercalate f.1

/-- The text of a file. -/
def textOf (f : List String × FileContent) : String := Text.Utf8.readLoosely f.2.bytes

/-- Whether a file is short enough to be analysed. -/
def fits (o : ScanOptions) (f : List String × FileContent) : Bool :=
  (textOf f).length ≤ o.config.maxInputChars

/-- What is said of a file that is too long. -/
def tooLong (o : ScanOptions) (f : List String × FileContent) : String :=
  s!"Skipping {nameOf f}: {(textOf f).length} characters exceeds the limit of " ++
    toString o.config.maxInputChars

/-- What analyses the text of a file finds, in the way that is tried first and is open. -/
def findings? (o : ScanOptions) (f : List String × FileContent) : Option FeatureSet :=
  firstFeatures o.config (textOf f) (extractors o ⟨"", f.1⟩)

/-- The scan is one of the given files: those that fit are listed, with what is found in them,
marked with the path, and for each of the others there is a failure. -/
structure Covers (scan : Scan) (o : ScanOptions) (sources : List (List String × FileContent))
    (analysed : List ((List String × FileContent) × FeatureSet)) : Prop where
  fitting : analysed.map (·.1) = sources.filter (fits o)
  found : ∀ a ∈ analysed, findings? o a.1 = some a.2
  files : scan.files = analysed.map fun a => nameOf a.1
  failures : scan.failures = (sources.filter fun f => !fits o f).map (tooLong o)
  endpoints : scan.features.endpoints =
    analysed.flatMap fun a => a.2.endpoints.map fun e => { e with file := some (nameOf a.1) }
  methods : scan.features.methods =
    analysed.flatMap fun a => a.2.methods.map fun m => { m with file := some (nameOf a.1) }
  schemas : scan.features.schemas =
    analysed.flatMap fun a => a.2.schemas.map fun t => { t with file := some (nameOf a.1) }
  parameters : scan.features.parameters =
    analysed.flatMap fun a => a.2.parameters.map fun p => { p with file := some (nameOf a.1) }

/-- Some way to analyse a file is always open, as patterns can be looked for in any text. -/
theorem exists_findings (o : ScanOptions) (f : List String × FileContent) :
    ∃ fs, findings? o f = some fs := by
  have patterns : ∀ text, firstFeatures o.config text [.patterns] =
      some (FeatureSet.ofPatterns o.config text.toList.toArray) := fun _ => rfl
  rw [findings?, extractors]
  split
  · rw [firstFeatures]
    split
    · exact ⟨_, rfl⟩
    · exact ⟨_, patterns _⟩
  · exact ⟨_, patterns _⟩

theorem fits_iff : fits o f = true ↔ ((textOf f).length : ℤ) ≤ o.config.maxInputChars :=
  decide_eq_true_iff

theorem ofFile_of_fits (h : fits o f = true) {fs : FeatureSet} (hf : findings? o f = some fs) :
    ofFile o f.1 f.2 = .ok (fs.inFile (nameOf f)) := by
  have short : ¬o.config.maxInputChars < ((textOf f).length : ℤ) := Int.not_lt.2 (fits_iff.1 h)
  rw [findings?, textOf] at hf
  rw [textOf] at short
  rw [ofFile, if_neg short, hf]
  rfl

theorem ofFile_of_not_fits (h : fits o f = false) :
    ofFile o f.1 f.2 = .error (tooLong o f) := by
  have long : o.config.maxInputChars < ((textOf f).length : ℤ) :=
    Int.not_le.1 fun short => Bool.false_ne_true (h.symm.trans (fits_iff.2 short))
  rw [textOf] at long
  rw [ofFile, if_pos long]
  rfl

variable {sources : List (List String × FileContent)}

theorem ofFiles_cons_of_fits (h : fits o f = true) {fs : FeatureSet}
    (hf : findings? o f = some fs) : ofFiles o (f :: sources) =
      ⟨fs.inFile (nameOf f) ++ (ofFiles o sources).features, nameOf f :: (ofFiles o sources).files,
        (ofFiles o sources).failures⟩ := by
  have ok := ofFile_of_fits h hf
  simp only [ofFiles, List.map_cons, ok, List.filterMap_cons, Except.toOption,
    FeatureSet.merge_cons]
  rfl

theorem ofFiles_cons_of_not_fits (h : fits o f = false) : ofFiles o (f :: sources) =
    ⟨(ofFiles o sources).features, (ofFiles o sources).files,
      tooLong o f :: (ofFiles o sources).failures⟩ := by
  have error := ofFile_of_not_fits h
  simp only [ofFiles, List.map_cons, error, List.filterMap_cons, Except.toOption]

/-- A scan of files covers them. -/
theorem covers_ofFiles (o : ScanOptions) (sources : List (List String × FileContent)) :
    ∃ analysed, (ofFiles o sources).Covers o sources analysed := by
  induction sources with
  | nil => exact ⟨[], rfl, fun a h => (by cases h), rfl, rfl, rfl, rfl, rfl, rfl⟩
  | cons f rest ih =>
    obtain ⟨analysed, covers⟩ := ih
    cases h : fits o f with
    | true =>
      obtain ⟨fs, hf⟩ := exists_findings o f
      rw [ofFiles_cons_of_fits h hf]
      refine ⟨(f, fs) :: analysed, ?_, List.forall_mem_cons.2 ⟨hf, covers.found⟩, ?_, ?_, ?_, ?_,
        ?_, ?_⟩
      · rw [List.map_cons, covers.fitting, List.filter_cons_of_pos h]
      · rw [List.map_cons, covers.files]
      · rw [List.filter_cons_of_neg (by simp [h]), covers.failures]
      · rw [List.flatMap_cons, ← covers.endpoints]
        rfl
      · rw [List.flatMap_cons, ← covers.methods]
        rfl
      · rw [List.flatMap_cons, ← covers.schemas]
        rfl
      · rw [List.flatMap_cons, ← covers.parameters]
        rfl
    | false =>
      rw [ofFiles_cons_of_not_fits h]
      refine ⟨analysed, ?_, covers.found, covers.files, ?_, covers.endpoints, covers.methods,
        covers.schemas, covers.parameters⟩
      · rw [covers.fitting, List.filter_cons_of_neg (by simp [h])]
      · rw [covers.failures, List.filter_cons_of_pos (by simp [h]), List.map_cons]

end Scan

/-! ## Scanning -/

namespace Workspace

open FileTree

variable {wanted unwanted : List String} {path : Path}

theorem scan_of_folder (hfile : ws.fileAt? path = none)
    (hfolder : ws.files.folderAt? ws.here.steps path = some place)
    (hs : Selector.ofLines wanted unwanted (ws.ignoreLines place) = .ok s) :
    ws.scan o wanted unwanted path =
      ⟨(Scan.ofFiles o (ws.sources s place)).failures, .ok (.ofFiles o (ws.sources s place))⟩ := by
  have noted : ∀ scan : Scan, Workspace.scan.noting scan = ⟨scan.failures ++ [], .ok scan⟩ :=
    fun _ => rfl
  simp only [scan, hfile, hfolder, hs, noted, List.append_nil]

theorem ignoreLines_relists {tree : FileTree} (h : tree.Relists ws.files)
    (hd : ws.files.Distinct) :
    { ws with files := tree }.ignoreLines place = ws.ignoreLines place := by
  simp only [ignoreLines, h.content?_eq hd]

/-- A scan is the same however the tree lists its files and folders. -/
theorem scan_relists {tree : FileTree} (h : tree.Relists ws.files) (hd : ws.files.Distinct)
    (o : ScanOptions) (wanted unwanted : List String) (path : Path) :
    { ws with files := tree }.scan o wanted unwanted path = ws.scan o wanted unwanted path := by
  have file : { ws with files := tree }.fileAt? path = ws.fileAt? path := h.fileAt?_eq hd path
  have sources : ∀ s place, { ws with files := tree }.sources s place = ws.sources s place :=
    fun _ _ => sources_relists h hd
  simp only [scan, file, h.folderAt?_eq, ignoreLines_relists h hd, sources]

/-- A folder with two sources, a third one in a folder that is ignored, and the ignore file. -/
def ignoringFolder : Workspace where
  files := ⟨[(["w", "b.py"], ⟨[], 0⟩), (["w", "gen", "c.py"], ⟨[], 0⟩), (["w", "a.py"], ⟨[], 0⟩),
    (["w", ".gitignore"], ⟨Text.Utf8.encode "gen/", 0⟩)], []⟩
  here := ⟨"/", ["w"]⟩
  home := ⟨"/", ["w"]⟩
  pages := []
  environment := []
  system := "Linux"
  input := ""
  clock := 0
  stores := []

/-- The patterns of a scan of that folder for Python files. -/
def pythonSelector : Selector where
  wanted := [⟨false, .pieces [.above, .run, .char '.', .char 'p', .char 'y', .end_]⟩]
  unwanted := []
  ignored := [⟨false, .pieces [.above, .char 'g', .char 'e', .char 'n', .below]⟩]

example : (ignoringFolder.sources pythonSelector ["w"]).map (·.1) = [["a.py"], ["b.py"]] := by
  cbv

end Workspace

end ApiAccord
