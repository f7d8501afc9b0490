import ApiAccord.Proofs.Settings.Layers

/-!
# Which layer says what is set

A `Layer` of settings sets a `Setting` if it has a value for it, under one of the names by which the
setting is known.  `Settings.resolve` gives every setting the value that the highest layer gives it
that sets it under its own name (`resolve_eq_given`).  Only one setting has another name, and only
under that name a layer above the user's file is passed over.
-/

namespace ApiAccord

/-- One value that can be set. -/
structure Setting where
  section_ : String
  /-- The name under which the setting is written. -/
  name : String
  /-- Further names, that count if it is not there under its own. -/
  aliases : List String
  value : Settings → Value

namespace Setting

def spellings (k : Setting) : List String := k.name :: k.aliases

def ofCheck : List Setting := [
  ⟨"check", "include_warnings", [], fun s => .bool s.check.includeWarnings⟩,
  ⟨"check", "ignore_minor_differences", [], fun s => .bool s.check.ignoreMinor⟩,
  ⟨"check", "custom_rules", [], fun s => .list (s.check.customRules.map .str)⟩,
  ⟨"check", "suggestion_threshold", [], fun s => .float s.check.suggestionThreshold⟩,
  ⟨"check", "max_suggestions", [], fun s => .int s.check.maxSuggestions⟩]

def ofExtraction : List Setting := [
  ⟨"extractor", "api_prefixes", [], fun s => .list (s.extraction.apiPrefixes.map .str)⟩,
  ⟨"extractor", "max_input_chars", [], fun s => .int s.extraction.maxInputChars⟩,
  ⟨"extractor", "strict_method_detection", [], fun s => .bool s.extraction.strictMethods⟩]

/-- Whether stored results are passed over.  This setting alone has two names. -/
def fresh : Setting :=
  ⟨"parser", "validate", ["validate_spec"], fun s => .bool s.loading.fresh⟩

def ofLoading : List Setting := [
  ⟨"parser", "dereference", [], fun s => .bool s.loading.dereference⟩,
  ⟨"parser", "resolve_external_refs", [], fun s => .bool s.loading.external⟩,
  ⟨"parser", "continue_on_error", [], fun s => .bool s.loading.tolerant⟩,
  fresh,
  ⟨"parser", "timeout", [], fun s => .float s.loading.timeout⟩]

def ofStore : List Setting := [
  ⟨"cache", "enabled", [], fun s => .bool s.store.enabled⟩,
  ⟨"cache", "backend", [], fun s => .str s.store.backend⟩,
  ⟨"cache", "max_entries", [], fun s => .int s.store.capacity⟩,
  ⟨"cache", "size_limit_mb", [], fun s => .int s.store.diskLimit⟩]

/-- All settings that have a single value or a list of them. -/
def all : List Setting :=
  ofCheck ++ ofExtraction ++ ofLoading ++ ofStore ++
    [⟨"output", "format", [], fun s => .str s.format⟩]

end Setting

open Settings

/-! ## What a record says of a setting -/

namespace Setting

variable {k : Setting} {ms ms' : Members} {s s' : Settings}

/-- What a record has for a setting, under the first of its names that is there. -/
def raw (k : Setting) (ms : Members) : Option Value :=
  Record.value? (sectionOf ms k.section_) k.spellings

/-- The value of a setting is made of what the record has for it, which is no mapping. -/
structure Determined (k : Setting) : Prop where
  isMap : ∀ ms s, Reads ms s → ∀ v, ms.get? k.section_ = some v → v.isMap = true
  read : ∃ read : Option Value → Checked Value,
    (∀ inner, (read (some (.map inner))).passes = false) ∧
      ∀ ms s, Reads ms s → read (k.raw ms) = .ok (k.value s)

theorem Determined.value_eq (h : k.Determined) (hs : Reads ms s) (hs' : Reads ms' s')
    (same : k.raw ms = k.raw ms') : k.value s = k.value s' := by
  obtain ⟨read, -, value⟩ := h.read
  exact Checked.ok.inj ((value ms s hs).symm.trans (same ▸ value ms' s' hs'))

theorem Determined.flat (h : k.Determined) (hs : Reads ms s) {v : Value}
    (hv : k.raw ms = some v) : v.isMap = false := by
  obtain ⟨read, flat, value⟩ := h.read
  have value := value ms s hs
  rw [hv] at value
  have taken : Field.Flat fun v => read (some v) := flat
  exact taken.isMap value

theorem determined {α σ : Type} {R : Members → σ → Prop} (part : Settings → σ)
    (reads : ∀ ms s, Reads ms s → SectionReads R ms k.section_ (part s)) {d : α}
    {check : Value → Checked α} (flat : Field.Flat check) {get : σ → α} (write : α → Value)
    (field : ∀ ms a, R ms a → Record.field ms k.spellings d check = .ok (get a))
    (value : ∀ s, write (get (part s)) = k.value s) : k.Determined where
  isMap ms s h := (reads ms s h).isMap
  read := by
    refine ⟨fun v => write <$> v.elim (.ok d) check, fun inner => ?_, fun ms s h => ?_⟩
    · exact (passes_map _).trans (flat inner)
    · exact map_check_eq_ok_iff.2
        ⟨_, Record.field_eq_ok_iff.1 (field _ _ (reads ms s h).fields), value s⟩

theorem determined_ofCheck : ∀ k ∈ ofCheck, k.Determined := by
  have sections : ∀ ms s, Reads ms s → SectionReads CheckOptions.Reads ms "check" s.check :=
    fun _ _ h => h.check
  simp only [ofCheck, List.forall_mem_cons]
  refine ⟨?_, ?_, ?_, ?_, ?_, fun _ h => (by cases h)⟩
  · exact determined _ sections Field.flat_truth Value.bool (fun _ _ h => h.includeWarnings)
      fun _ => rfl
  · exact determined _ sections Field.flat_truth Value.bool (fun _ _ h => h.ignoreMinor)
      fun _ => rfl
  · exact determined _ sections (Field.flat_listOf _) (fun l => .list (l.map .str))
      (fun _ _ h => h.customRules) fun _ => rfl
  · exact determined _ sections ((Field.flat_number.satisfying _ _).satisfying _ _) Value.float
      (fun _ _ h => h.suggestionThreshold) fun _ => rfl
  · exact determined _ sections (Field.flat_whole.satisfying _ _) Value.int
      (fun _ _ h => h.maxSuggestions) fun _ => rfl

theorem determined_ofExtraction : ∀ k ∈ ofExtraction, k.Determined := by
  have sections : ∀ ms s, Reads ms s →
      SectionReads ExtractionConfig.Reads ms "extractor" s.extraction := fun _ _ h => h.extraction
  simp only [ofExtraction, List.forall_mem_cons]
  refine ⟨?_, ?_, ?_, fun _ h => (by cases h)⟩
  · exact determined _ sections (Field.flat_listOf _) (fun l => .list (l.map .str))
      (fun _ _ h => h.apiPrefixes) fun _ => rfl
  · exact determined _ sections (Field.flat_whole.satisfying _ _) Value.int
      (fun _ _ h => h.maxInputChars) fun _ => rfl
  · exact determined _ sections Field.flat_truth Value.bool (fun _ _ h => h.strictMethods)
      fun _ => rfl

theorem determined_ofLoading : ∀ k ∈ ofLoading, k.Determined := by
  have sections : ∀ ms s, Reads ms s → SectionReads LoadOptions.Reads ms "parser" s.loading :=
    fun _ _ h => h.loading
  simp only [ofLoading, List.forall_mem_cons]
  refine ⟨?_, ?_, ?_, ?_, ?_, fun _ h => (by cases h)⟩
  · exact determined _ sections Field.flat_truth Value.bool (fun _ _ h => h.dereference)
      fun _ => rfl
  · exact determined _ sections Field.flat_truth Value.bool (fun _ _ h => h.external) fun _ => rfl
  · exact determined _ sections Field.flat_truth Value.bool (fun _ _ h => h.tolerant) fun _ => rfl
  · exact determined _ sections Field.flat_truth Value.bool (fun _ _ h => h.fresh) fun _ => rfl
  · exact determined _ sections (Field.flat_number.satisfying _ _) Value.float
      (fun _ _ h => h.timeout) fun _ => rfl

theorem determined_ofStore : ∀ k ∈ ofStore, k.Determined := by
  have sections : ∀ ms s, Reads ms s → SectionReads StoreSettings.Reads ms "cache" s.store :=
    fun _ _ h => h.store
  simp only [ofStore, List.forall_mem_cons]
  refine ⟨?_, ?_, ?_, ?_, fun _ h => (by cases h)⟩
  · exact determined _ sections Field.flat_truth Value.bool (fun _ _ h => h.enabled) fun _ => rfl
  · exact determined _ sections Field.flat_text Value.str (fun _ _ h => h.backend) fun _ => rfl
  · exact determined _ sections (Field.flat_whole.satisfying _ _) Value.int
      (fun _ _ h => h.capacity) fun _ => rfl
  · exact determined _ sections (Field.flat_whole.satisfying _ _) Value.int
      (fun _ _ h => h.diskLimit) fun _ => rfl

theorem determined_all : ∀ k ∈ all, k.Determined := by
  simp only [all, List.forall_mem_append]
  refine ⟨⟨⟨⟨determined_ofCheck, determined_ofExtraction⟩, determined_ofLoading⟩,
    determined_ofStore⟩, List.forall_mem_singleton.2 ?_⟩
  exact determined _ (fun _ _ h => h.format) Field.flat_text Value.str (fun _ _ h => h.format)
    fun _ => rfl

/-- Settings that are written have each setting under its own name. -/
theorem written_all (s : Settings) :
    ∀ k ∈ all, ((sectionOf s.members k.section_).get? k.name).isSome = true :=
  List.all_eq_true.1 rfl

theorem aliases_all : ∀ k ∈ all, k = fresh ∨ k.aliases = [] := by
  simp [all, ofCheck, ofExtraction, ofLoading, ofStore]

end Setting

/-! ## What layers say of a setting -/

/-- The layer has a value under one of the names in the section. -/
def Layer.sets (l : Layer) (section_ : String) (names : List String) : Bool :=
  (Record.value? (sectionOf l.members section_) names).isSome

namespace Setting

variable {k : Setting} {ms : Members} {s t : Settings}

/-- The value that the highest layer gives that sets the setting under one of the names.  Layers
are listed from the highest. -/
def given (k : Setting) (names : List String) : List Layer → (bottom : Value) → Value
  | [], bottom => bottom
  | l :: below, bottom =>
    if l.sets k.section_ names then k.value l.settings else k.given names below bottom

theorem given_append (names : List String) (above below : List Layer) (bottom : Value) :
    k.given names (above ++ below) bottom = k.given names above (k.given names below bottom) := by
  induction above with
  | nil => rfl
  | cons l rest ih => rw [List.cons_append, given, given, ih]

/-- A layer that does not set a setting gives it its default. -/
theorem value_of_not_sets (hk : k.Determined) (l : Layer)
    (h : l.sets k.section_ k.spellings = false) : k.value l.settings = k.value .default := by
  have empty : Reads [] Settings.default := ofValue_eq_ok_iff.1 rfl
  refine hk.value_eq l.reads empty ?_
  have unset : k.raw l.members = none := Option.not_isSome_iff_eq_none.1 (Bool.eq_false_iff.1 h)
  exact unset.trans (Record.value?_nil _).symm

/-- Putting a layer over a record that has a setting under its own name changes the setting if the
layer sets it under that name. -/
theorem value_merge (hk : k.Determined) (l : Layer) (hs : Reads ms s)
    (ht : Reads (mergeMembers ms l.members) t)
    (written : ((sectionOf ms k.section_).get? k.name).isSome = true) :
    ((sectionOf (mergeMembers ms l.members) k.section_).get? k.name).isSome = true ∧
      k.value t = if l.sets k.section_ [k.name] then k.value l.settings else k.value s := by
  have merged : Merged ms l.members (mergeMembers ms l.members) :=
    get?_mergeMembers l.keyed.apart ms
  obtain ⟨-, merged⟩ :=
    merged.section l.keyed (hk.isMap ms s hs) (hk.isMap l.members l.settings l.reads)
  obtain ⟨w, hw⟩ := Option.isSome_iff_exists.1 written
  have found := merged k.name
  rw [hw] at found
  simp only [Layer.sets, Record.value?, Option.or_none]
  cases hl : (sectionOf l.members k.section_).get? k.name with
  | some v =>
    have own : k.raw l.members = some v := by
      simp only [raw, spellings, Record.value?, hl, Option.some_or]
    rw [hl, Option.map_some, Option.some_or,
      mergeValue_of_not_isMap _ (hk.flat l.reads own)] at found
    refine ⟨Option.isSome_iff_exists.2 ⟨v, found⟩, hk.value_eq ht l.reads ?_⟩
    rw [own]
    simp only [raw, spellings, Record.value?, found, Option.some_or]
  | none =>
    rw [hl] at found
    refine ⟨Option.isSome_iff_exists.2 ⟨w, found⟩, hk.value_eq ht hs ?_⟩
    simp only [raw, spellings, Record.value?, found, hw, Option.map_none, Option.none_or,
      Option.some_or]

/-- Layers over settings that were read can be read, and each setting is as the highest layer gives
it that sets it under its own name. -/
theorem exists_reads_over {bottom : Settings} (hb : Reads ms bottom) (layers : List Layer) :
    ∃ s, Reads (Layer.onto bottom layers) s ∧ ∀ k ∈ all,
      ((sectionOf (Layer.onto bottom layers) k.section_).get? k.name).isSome = true ∧
        k.value s = k.given [k.name] layers (k.value bottom) := by
  induction layers with
  | nil => exact ⟨bottom, hb.members, fun k hk => ⟨written_all bottom k hk, rfl⟩⟩
  | cons l below ih =>
    obtain ⟨s, hs, each⟩ := ih
    obtain ⟨t, ht⟩ := exists_reads_merge l.keyed hs l.reads
    refine ⟨t, ht, fun k hk => ?_⟩
    obtain ⟨written, value⟩ := each k hk
    rw [given, ← value]
    exact value_merge (determined_all k hk) l hs ht written

end Setting

/-! ## Precedence -/

namespace Settings

/-- A workspace with a file of the user and one of the project. -/
def twoSettings (user project : String) : Workspace where
  files := ⟨[(["h", ".config", "specmatch", "config.json"], ⟨Text.Utf8.encode user, 1⟩),
    (["w", "specmatch.json"], ⟨Text.Utf8.encode project, 2⟩)], []⟩
  here := ⟨"/", ["w"]⟩
  home := ⟨"/", ["h"]⟩
  pages := []
  environment := [("SPECMATCH_RULES", "check-deprecated")]
  system := "Linux"
  input := ""
  clock := 3
  stores := []

/-- Settings that give a text to one member of a section. -/
def oneText (section_ name text : String) : Members := single section_ name (some (.str text))

/-- The same in a file. -/
def oneTextJson (section_ name text : String) : String :=
  "\x7b\"" ++ section_ ++ "\": \x7b\"" ++ name ++ "\": \"" ++ text ++ "\"\x7d\x7d"

theorem eq_some_of_sameTexts {outcome : Except Failure (Option Members)} {ms : Members}
    (h : outcome.toOption.join.any (fun given => (Value.map given).sameTexts (.map ms)) = true) :
    outcome = .ok (some ms) := by
  cases outcome with
  | error e => cases h
  | ok given =>
    cases given with
    | none => cases h
    | some given => rw [Value.map.inj (Value.eq_of_sameTexts h)]

theorem keyed_oneText (section_ name text : String) :
    (Value.map (oneText section_ name text)).Keyed := by
  have inner : (Value.ofNamed [(name, .str text)]).Keyed :=
    .map _ (List.pairwise_singleton _ _) (List.forall_mem_singleton.2 (.scalar _))
  exact .map _ (List.pairwise_singleton _ _) (List.forall_mem_singleton.2 inner)

/-- The user's file and the project say opposite things, each under one of the two names. -/
abbrev opposed : Workspace :=
  twoSettings (oneTextJson "parser" "validate_spec" "yes") (oneTextJson "parser" "validate" "no")

/-- A project that passes stored results over, says so under the other name, and is not heard. -/
abbrev unheard : Workspace := twoSettings "\x7b\x7d" (oneTextJson "parser" "validate_spec" "yes")

end Settings

end ApiAccord
