import ApiAccord.Proofs.Checked
import ApiAccord.Proofs.Settings.Merging

/-!
# Reading settings

Each section of the settings is read field by field (`CheckOptions.Reads` and so on), and all
sections from one record (`Settings.Reads`).  Settings that were read can be written, and are read
again as they were (`Settings.ofValue_toValue`); and records that can be read each on its own can be
read when they are merged (`Settings.exists_reads_merge`).
-/

namespace ApiAccord

/-! ## What each section says -/

/-- The members say this of checks. -/
structure CheckOptions.Reads (ms : Members) (o : CheckOptions) : Prop where
  includeWarnings : Record.field ms ["include_warnings"] true Field.truth = .ok o.includeWarnings
  ignoreMinor : Record.field ms ["ignore_minor_differences"] false Field.truth = .ok o.ignoreMinor
  customRules :
    Record.field ms ["custom_rules"] [] (Field.listOf Field.text) = .ok o.customRules
  overrides : Record.field ms ["severity_overrides"] []
    (Field.mappingOf IssueKind.check Severity.check) = .ok o.overrides
  suggestionThreshold : Record.field ms ["suggestion_threshold"] 0.3
    (Field.satisfying (fun x => decide (0 ≤ x)) (.tooSmall "0")
      (Field.satisfying (fun x => decide (x ≤ 1)) (.tooGreat "1") Field.number)) =
        .ok o.suggestionThreshold
  maxSuggestions : Record.field ms ["max_suggestions"] 3
    (Field.satisfying (fun n => decide (0 ≤ n)) (.tooSmall "0") Field.whole) = .ok o.maxSuggestions

/-- The members say this of reading code. -/
structure ExtractionConfig.Reads (ms : Members) (c : ExtractionConfig) : Prop where
  apiPrefixes :
    Record.field ms ["api_prefixes"] ["/api/"] (Field.listOf Field.text) = .ok c.apiPrefixes
  maxInputChars : Record.field ms ["max_input_chars"] 1000000
    (Field.satisfying (fun n => decide (1 ≤ n)) (.tooSmall "1") Field.whole) = .ok c.maxInputChars
  strictMethods :
    Record.field ms ["strict_method_detection"] false Field.truth = .ok c.strictMethods

/-- The members say this of loading. -/
structure LoadOptions.Reads (ms : Members) (o : LoadOptions) : Prop where
  dereference : Record.field ms ["dereference"] true Field.truth = .ok o.dereference
  external : Record.field ms ["resolve_external_refs"] true Field.truth = .ok o.external
  tolerant : Record.field ms ["continue_on_error"] false Field.truth = .ok o.tolerant
  fresh : Record.field ms ["validate", "validate_spec"] false Field.truth = .ok o.fresh
  timeout : Record.field ms ["timeout"] 30.0
    (Field.satisfying (fun x => decide (0 < x)) (.notAbove "0") Field.number) = .ok o.timeout

/-- The members say this of storing. -/
structure StoreSettings.Reads (ms : Members) (s : StoreSettings) : Prop where
  enabled : Record.field ms ["enabled"] true Field.truth = .ok s.enabled
  backend : Record.field ms ["backend"] "memory" Field.text = .ok s.backend
  capacity : Record.field ms ["max_entries"] 32
    (Field.satisfying (fun n => decide (1 ≤ n)) (.tooSmall "1") Field.whole) = .ok s.capacity
  diskLimit : Record.field ms ["size_limit_mb"] 64
    (Field.satisfying (fun n => decide (1 ≤ n)) (.tooSmall "1") Field.whole) = .ok s.diskLimit

/-- The members say this of the output. -/
structure Settings.FormatReads (ms : Members) (format : String) : Prop where
  format : Record.field ms ["format"] "auto" Field.text = .ok format

section Inversion

variable {ms : Members}

theorem CheckOptions.check_eq_ok_iff {o : CheckOptions} :
    CheckOptions.check (.map ms) = .ok o ↔ CheckOptions.Reads ms o := by
  simp only [CheckOptions.check, Record.members, Checked.andThen, seq_eq_ok_iff,
    map_check_eq_ok_iff]
  constructor
  · rintro ⟨_, _, ⟨_, _, ⟨_, _, ⟨_, _, ⟨_, _, ⟨_, h₁, rfl⟩, h₂, rfl⟩, h₃, rfl⟩, h₄, rfl⟩, h₅, rfl⟩,
      h₆, rfl⟩
    exact ⟨h₁, h₂, h₃, h₄, h₅, h₆⟩
  · rintro ⟨h₁, h₂, h₃, h₄, h₅, h₆⟩
    exact ⟨_, _, ⟨_, _, ⟨_, _, ⟨_, _, ⟨_, _, ⟨_, h₁, rfl⟩, h₂, rfl⟩, h₃, rfl⟩, h₄, rfl⟩, h₅, rfl⟩,
      h₆, rfl⟩

theorem ExtractionConfig.check_eq_ok_iff {c : ExtractionConfig} :
    ExtractionConfig.check (.map ms) = .ok c ↔ ExtractionConfig.Reads ms c := by
  simp only [ExtractionConfig.check, Record.members, Checked.andThen, seq_eq_ok_iff,
    map_check_eq_ok_iff]
  constructor
  · rintro ⟨_, _, ⟨_, _, ⟨_, h₁, rfl⟩, h₂, rfl⟩, h₃, rfl⟩
    exact ⟨h₁, h₂, h₃⟩
  · rintro ⟨h₁, h₂, h₃⟩
    exact ⟨_, _, ⟨_, _, ⟨_, h₁, rfl⟩, h₂, rfl⟩, h₃, rfl⟩

theorem LoadOptions.check_eq_ok_iff {o : LoadOptions} :
    LoadOptions.check (.map ms) = .ok o ↔ LoadOptions.Reads ms o := by
  simp only [LoadOptions.check, Record.members, Checked.andThen, seq_eq_ok_iff,
    map_check_eq_ok_iff]
  constructor
  · rintro ⟨_, _, ⟨_, _, ⟨_, _, ⟨_, _, ⟨_, h₁, rfl⟩, h₂, rfl⟩, h₃, rfl⟩, h₄, rfl⟩, h₅, rfl⟩
    exact ⟨h₁, h₂, h₃, h₄, h₅⟩
  · rintro ⟨h₁, h₂, h₃, h₄, h₅⟩
    exact ⟨_, _, ⟨_, _, ⟨_, _, ⟨_, _, ⟨_, h₁, rfl⟩, h₂, rfl⟩, h₃, rfl⟩, h₄, rfl⟩, h₅, rfl⟩

theorem StoreSettings.check_eq_ok_iff {s : StoreSettings} :
    StoreSettings.check (.map ms) = .ok s ↔ StoreSettings.Reads ms s := by
  simp only [StoreSettings.check, Record.members, Checked.andThen, seq_eq_ok_iff,
    map_check_eq_ok_iff]
  constructor
  · rintro ⟨_, _, ⟨_, _, ⟨_, _, ⟨_, h₁, rfl⟩, h₂, rfl⟩, h₃, rfl⟩, h₄, rfl⟩
    exact ⟨h₁, h₂, h₃, h₄⟩
  · rintro ⟨h₁, h₂, h₃, h₄⟩
    exact ⟨_, _, ⟨_, _, ⟨_, _, ⟨_, h₁, rfl⟩, h₂, rfl⟩, h₃, rfl⟩, h₄, rfl⟩

theorem Settings.checkFormat_eq_ok_iff {format : String} :
    Settings.checkFormat (.map ms) = .ok format ↔ Settings.FormatReads ms format :=
  ⟨fun h => ⟨h⟩, fun h => h.format⟩

end Inversion

/-! ## What a record of settings says -/

namespace Settings

/-- The members of a section. -/
def sectionOf (ms : Members) (name : String) : Members :=
  ((ms.get? name).bind Value.members?).getD []

/-- What is under the name, if there is something, is a mapping whose members say this. -/
structure SectionReads {α : Type} (Reads : Members → α → Prop) (ms : Members) (name : String)
    (a : α) : Prop where
  isMap : ∀ v, ms.get? name = some v → v.isMap = true
  fields : Reads (sectionOf ms name) a

/-- The members say this of everything that can be set. -/
structure Reads (ms : Members) (s : Settings) : Prop where
  check : SectionReads CheckOptions.Reads ms "check" s.check
  extraction : SectionReads ExtractionConfig.Reads ms "extractor" s.extraction
  loading : SectionReads LoadOptions.Reads ms "parser" s.loading
  store : SectionReads StoreSettings.Reads ms "cache" s.store
  format : SectionReads FormatReads ms "output" s.format

section Sections

variable {α : Type} {check : Value → Checked α} {R : Members → α → Prop} {d a : α}
  {ms : Members} {name : String}

/-- A section that is not there says what an empty one says. -/
theorem field_eq_ok_iff_sectionReads (inversion : ∀ ms a, check (.map ms) = .ok a ↔ R ms a)
    (isMap : ∀ v a, check v = .ok a → v.isMap = true) (default : check (.map []) = .ok d) :
    Record.field ms [name] d check = .ok a ↔ SectionReads R ms name a := by
  rw [Record.field_eq_ok_iff, Record.value?, Record.value?, Option.or_none]
  constructor
  · intro h
    cases hv : ms.get? name with
    | none =>
      rw [hv] at h
      obtain rfl := Checked.ok.inj h
      refine ⟨fun v h => (by rw [hv] at h; cases h), ?_⟩
      rw [sectionOf, hv]
      exact (inversion [] d).1 default
    | some v =>
      rw [hv] at h
      have mapping := isMap v a h
      cases v with
      | map inner =>
        refine ⟨fun v h => (by rw [hv] at h; cases h; rfl), ?_⟩
        rw [sectionOf, hv]
        exact (inversion inner a).1 h
      | _ => cases mapping
  · rintro ⟨mapping, fields⟩
    rw [sectionOf] at fields
    cases hv : ms.get? name with
    | none =>
      rw [hv] at fields
      exact (default.symm.trans ((inversion [] a).2 fields) :)
    | some v =>
      rw [hv] at fields
      have mapping := mapping v hv
      cases v with
      | map inner => exact (inversion inner a).2 fields
      | _ => cases mapping

theorem isMap_of_members {record : String} {f : Members → Checked α} {v : Value}
    (h : (Record.members record v).andThen f = .ok a) : v.isMap = true := by
  cases v with
  | map => rfl
  | _ => cases h

end Sections

theorem ofValue_eq_ok_iff {ms : Members} {s : Settings} :
    ofValue (.map ms) = .ok s ↔ Reads ms s := by
  have check {c : CheckOptions} : Record.field ms ["check"] .default CheckOptions.check = .ok c ↔
      SectionReads CheckOptions.Reads ms "check" c :=
    field_eq_ok_iff_sectionReads (fun _ _ => CheckOptions.check_eq_ok_iff)
      (fun _ _ => isMap_of_members) rfl
  have extraction {c : ExtractionConfig} :
      Record.field ms ["extractor"] .default ExtractionConfig.check = .ok c ↔
        SectionReads ExtractionConfig.Reads ms "extractor" c :=
    field_eq_ok_iff_sectionReads (fun _ _ => ExtractionConfig.check_eq_ok_iff)
      (fun _ _ => isMap_of_members) rfl
  have loading {o : LoadOptions} : Record.field ms ["parser"] .default LoadOptions.check = .ok o ↔
      SectionReads LoadOptions.Reads ms "parser" o :=
    field_eq_ok_iff_sectionReads (fun _ _ => LoadOptions.check_eq_ok_iff)
      (fun _ _ => isMap_of_members) rfl
  have store {o : StoreSettings} :
      Record.field ms ["cache"] .default StoreSettings.check = .ok o ↔
        SectionReads StoreSettings.Reads ms "cache" o :=
    field_eq_ok_iff_sectionReads (fun _ _ => StoreSettings.check_eq_ok_iff)
      (fun _ _ => isMap_of_members) rfl
  have format {f : String} : Record.field ms ["output"] "auto" checkFormat = .ok f ↔
      SectionReads FormatReads ms "output" f :=
    field_eq_ok_iff_sectionReads (fun _ _ => checkFormat_eq_ok_iff)
      (fun _ _ => isMap_of_members) rfl
  simp only [ofValue, Record.members, Checked.andThen, seq_eq_ok_iff, map_check_eq_ok_iff, check,
    extraction, loading, store, format]
  constructor
  · rintro ⟨_, _, ⟨_, _, ⟨_, _, ⟨_, _, ⟨_, h₁, rfl⟩, h₂, rfl⟩, h₃, rfl⟩, h₄, rfl⟩, h₅, rfl⟩
    exact ⟨h₁, h₂, h₃, h₄, h₅⟩
  · rintro ⟨h₁, h₂, h₃, h₄, h₅⟩
    exact ⟨_, _, ⟨_, _, ⟨_, _, ⟨_, _, ⟨_, h₁, rfl⟩, h₂, rfl⟩, h₃, rfl⟩, h₄, rfl⟩, h₅, rfl⟩

/-! ## Settings that are written -/

section Writing

variable {ms : Members}

theorem mappingOf_overrides (overrides : List (IssueKind × Severity)) :
    Field.mappingOf IssueKind.check Severity.check
      (.ofNamed (overrides.map fun (k, s) => (k.name, .str s.name))) = .ok overrides := by
  induction overrides with
  | nil => rfl
  | cons o rest ih =>
    obtain ⟨k, s⟩ := o
    have kind : IssueKind.check (.str k.name) = .ok k := by cases k <;> rfl
    have severity : Severity.check (.str s.name) = .ok s := by cases s <;> rfl
    refine seq_eq_ok_iff.2 ⟨_, rest, map_check_eq_ok_iff.2 ⟨(k, s), ?_, rfl⟩, ih, rfl⟩
    exact seq_eq_ok_iff.2 ⟨_, s, map_check_eq_ok_iff.2
      ⟨k, at_eq_ok_iff.2 (at_eq_ok_iff.2 kind), rfl⟩, at_eq_ok_iff.2 severity, rfl⟩

/-- A number that was read and passed a test passes it again. -/
theorem satisfying_of_field {α : Type} {names : List String} {d a : α} {test : α → Bool}
    {bad : Flaw} {check : Value → Checked α} {v : Value}
    (h : Record.field ms names d (Field.satisfying test bad check) = .ok a) (hd : test d = true)
    (hv : check v = .ok a) : Field.satisfying test bad check v = .ok a :=
  Field.satisfying_eq_ok_iff.2
    ⟨hv, Record.of_field (P := fun a => test a = true) h hd
    fun _ _ h => (Field.satisfying_eq_ok_iff.1 h).2⟩

variable {s : Settings}

/-- Settings that were read are read again from what they write. -/
theorem Reads.members (h : Reads ms s) : Reads s.members s where
  check := by
    refine ⟨fun v hv => (by cases hv; rfl), ?_⟩
    exact {
      includeWarnings := rfl
      ignoreMinor := rfl
      customRules := Record.field_of_get? rfl (Field.listOf_text_map _) []
      overrides := Record.field_of_get? rfl (mappingOf_overrides _) []
      suggestionThreshold := by
        have threshold := h.check.fields.suggestionThreshold
        refine Record.field_of_get? rfl (satisfying_of_field threshold (by decide) ?_) []
        have most : decide (s.check.suggestionThreshold ≤ 1) = true :=
          Record.of_field (P := fun x => decide (x ≤ 1) = true) threshold (by decide)
            fun _ _ h => (Field.satisfying_eq_ok_iff.1 (Field.satisfying_eq_ok_iff.1 h).1).2
        exact Field.satisfying_eq_ok_iff.2 ⟨rfl, most⟩
      maxSuggestions := Record.field_of_get? rfl
        (satisfying_of_field h.check.fields.maxSuggestions rfl rfl) [] }
  extraction := by
    refine ⟨fun v hv => (by cases hv; rfl), ?_⟩
    exact {
      apiPrefixes := Record.field_of_get? rfl (Field.listOf_text_map _) []
      maxInputChars := Record.field_of_get? rfl
        (satisfying_of_field h.extraction.fields.maxInputChars rfl rfl) []
      strictMethods := rfl }
  loading := by
    refine ⟨fun v hv => (by cases hv; rfl), ?_⟩
    exact {
      dereference := rfl
      external := rfl
      tolerant := rfl
      fresh := rfl
      timeout := Record.field_of_get? rfl
        (satisfying_of_field h.loading.fields.timeout (by decide) rfl) [] }
  store := by
    refine ⟨fun v hv => (by cases hv; rfl), ?_⟩
    exact {
      enabled := rfl
      backend := rfl
      capacity := Record.field_of_get? rfl
        (satisfying_of_field h.store.fields.capacity rfl rfl) []
      diskLimit := Record.field_of_get? rfl
        (satisfying_of_field h.store.fields.diskLimit rfl rfl) [] }
  format := ⟨fun v hv => (by cases hv; rfl), ⟨rfl⟩⟩

end Writing

/-! ## Records that are merged -/

/-- Under each name the mapping has what `upper` has there, merged with what `base` has. -/
def Merged (base upper merged : Members) : Prop :=
  ∀ name, merged.get? name =
    ((upper.get? name).map (mergeValue (base.get? name))).or (base.get? name)

section Merging

variable {base upper merged : Members} {names : List String} {name : String}

theorem Merged.value? (h : Merged base upper merged)
    (flat : ∀ v, Record.value? upper names = some v → v.isMap = false) :
    Record.value? merged names = Record.value? upper names ∨
      Record.value? merged names = Record.value? base names := by
  induction names with
  | nil => exact .inl rfl
  | cons name others ih =>
    simp only [Record.value?, h name] at flat ⊢
    cases ho : upper.get? name with
    | some v =>
      rw [ho] at flat
      exact .inl (congrArg some (mergeValue_of_not_isMap _ (flat v rfl)))
    | none =>
      rw [ho] at flat
      cases hb : base.get? name with
      | some w => exact .inr rfl
      | none => exact ih flat

/-- A field that can be read in both mappings can be read in the merged one. -/
theorem Merged.exists_field {α : Type} {check : Value → Checked α} {d a b : α}
    (h : Merged base upper merged) (flat : Field.Flat check)
    (hb : Record.field base names d check = .ok a)
    (ho : Record.field upper names d check = .ok b) :
    ∃ c, Record.field merged names d check = .ok c := by
  rw [Record.field_eq_ok_iff] at hb ho
  have leaf : ∀ v, Record.value? upper names = some v → v.isMap = false := by
    intro v hv
    rw [hv] at ho
    exact flat.isMap ho
  rcases h.value? leaf with hv | hv
  · exact ⟨b, Record.field_eq_ok_iff.2 (hv ▸ ho)⟩
  · exact ⟨a, Record.field_eq_ok_iff.2 (hv ▸ hb)⟩

/-- The sections of a merged record are merged. -/
theorem Merged.section (h : Merged base upper merged) (keyed : (Value.map upper).Keyed)
    (hb : ∀ v, base.get? name = some v → v.isMap = true)
    (ho : ∀ v, upper.get? name = some v → v.isMap = true) :
    (∀ v, merged.get? name = some v → v.isMap = true) ∧
      Merged (sectionOf base name) (sectionOf upper name) (sectionOf merged name) := by
  simp only [sectionOf, h name]
  cases o : upper.get? name with
  | none => exact ⟨hb, fun n => rfl⟩
  | some v =>
    have keyed := keyed.get? o
    cases v with
    | map os =>
      cases b : base.get? name with
      | none =>
        refine ⟨fun v hv => (by cases hv; rfl), fun n => ?_⟩
        show Members.get? n os = ((Members.get? n os).map (mergeValue none)).or none
        rw [Option.or_none]
        cases Members.get? n os with
        | none => rfl
        | some v => exact congrArg some (mergeValue_none v).symm
      | some w =>
        have mapping := hb w b
        cases w with
        | map bs =>
          exact ⟨fun v hv => (by cases hv; rfl), get?_mergeMembers keyed.apart bs⟩
        | _ => cases mapping
    | _ => cases ho _ o

/-- The entries of a mapping that says severities of kinds are names. -/
theorem passes_overrides_iff {ms : Members} :
    (Field.mappingOf IssueKind.check Severity.check (.map ms)).passes = true ↔
      ∀ m ∈ ms, ((∃ s, m.1 = .str s) ∧ m.2.isMap = false) ∧
        (IssueKind.check (.scalar m.1)).passes = true ∧ (Severity.check m.2).passes = true := by
  rw [Field.passes_mappingOf, List.all_eq_true]
  refine forall₂_congr fun m _ => ?_
  rw [Bool.and_eq_true]
  refine ⟨fun h => ⟨⟨?_, ?_⟩, h⟩, fun h => h.2⟩
  · obtain ⟨_, hk⟩ := passes_iff.1 h.1
    obtain ⟨s, hs, -⟩ := Field.choice_eq_ok_iff.1 hk
    exact ⟨s, Value.scalar.inj hs⟩
  · obtain ⟨_, hv⟩ := passes_iff.1 h.2
    obtain ⟨s, hs, -⟩ := Field.choice_eq_ok_iff.1 hv
    rw [hs]
    rfl

theorem Merged.exists_overrides (h : Merged base upper merged)
    {d a b : List (IssueKind × Severity)}
    (hb : Record.field base [name] d (Field.mappingOf IssueKind.check Severity.check) = .ok a)
    (ho : Record.field upper [name] d (Field.mappingOf IssueKind.check Severity.check) = .ok b) :
    ∃ c, Record.field merged [name] d (Field.mappingOf IssueKind.check Severity.check) =
      .ok c := by
  simp only [Record.field_eq_ok_iff, Record.value?, Option.or_none, h name] at hb ho ⊢
  cases o : upper.get? name with
  | none => exact ⟨a, hb⟩
  | some v =>
    rw [o] at ho
    cases v with
    | map os =>
      cases w : base.get? name with
      | none => exact ⟨b, ho⟩
      | some v =>
        rw [w] at hb
        cases v with
        | map bs =>
          have below := passes_overrides_iff.1 (passes_iff.2 ⟨a, hb⟩)
          have above := passes_overrides_iff.1 (passes_iff.2 ⟨b, ho⟩)
          refine passes_iff.1
            (passes_overrides_iff.2 (forall_mem_mergeMembers below fun m hm => ?_))
          exact ⟨(above m hm).1.1, (above m hm).1.2, above m hm⟩
        | _ => cases hb
    | _ => cases ho

end Merging

section Records

variable {base upper merged : Members} {name : String}

theorem SectionReads.merge {α : Type} {R : Members → α → Prop} {a b : α}
    (each : ∀ {base upper merged : Members} {a b : α}, Merged base upper merged → R base a →
      R upper b → ∃ c, R merged c)
    (h : Merged base upper merged) (keyed : (Value.map upper).Keyed)
    (hb : SectionReads R base name a) (ho : SectionReads R upper name b) :
    ∃ c, SectionReads R merged name c := by
  obtain ⟨isMap, fields⟩ := h.section keyed hb.isMap ho.isMap
  obtain ⟨c, hc⟩ := each fields hb.fields ho.fields
  exact ⟨c, isMap, hc⟩

theorem merge_check {a b : CheckOptions} (h : Merged base upper merged)
    (hb : CheckOptions.Reads base a) (ho : CheckOptions.Reads upper b) :
    ∃ c, CheckOptions.Reads merged c := by
  obtain ⟨_, h₁⟩ := h.exists_field Field.flat_truth hb.includeWarnings ho.includeWarnings
  obtain ⟨_, h₂⟩ := h.exists_field Field.flat_truth hb.ignoreMinor ho.ignoreMinor
  obtain ⟨_, h₃⟩ := h.exists_field (Field.flat_listOf _) hb.customRules ho.customRules
  obtain ⟨_, h₄⟩ := h.exists_overrides hb.overrides ho.overrides
  obtain ⟨_, h₅⟩ := h.exists_field ((Field.flat_number.satisfying _ _).satisfying _ _)
    hb.suggestionThreshold ho.suggestionThreshold
  obtain ⟨_, h₆⟩ := h.exists_field (Field.flat_whole.satisfying _ _)
    hb.maxSuggestions ho.maxSuggestions
  exact ⟨⟨_, _, _, _, _, _⟩, h₁, h₂, h₃, h₄, h₅, h₆⟩

theorem merge_extraction {a b : ExtractionConfig} (h : Merged base upper merged)
    (hb : ExtractionConfig.Reads base a) (ho : ExtractionConfig.Reads upper b) :
    ∃ c, ExtractionConfig.Reads merged c := by
  obtain ⟨_, h₁⟩ := h.exists_field (Field.flat_listOf _) hb.apiPrefixes ho.apiPrefixes
  obtain ⟨_, h₂⟩ := h.exists_field (Field.flat_whole.satisfying _ _)
    hb.maxInputChars ho.maxInputChars
  obtain ⟨_, h₃⟩ := h.exists_field Field.flat_truth hb.strictMethods ho.strictMethods
  exact ⟨⟨_, _, _⟩, h₁, h₂, h₃⟩

theorem merge_loading {a b : LoadOptions} (h : Merged base upper merged)
    (hb : LoadOptions.Reads base a) (ho : LoadOptions.Reads upper b) :
    ∃ c, LoadOptions.Reads merged c := by
  obtain ⟨_, h₁⟩ := h.exists_field Field.flat_truth hb.dereference ho.dereference
  obtain ⟨_, h₂⟩ := h.exists_field Field.flat_truth hb.external ho.external
  obtain ⟨_, h₃⟩ := h.exists_field Field.flat_truth hb.tolerant ho.tolerant
  obtain ⟨_, h₄⟩ := h.exists_field Field.flat_truth hb.fresh ho.fresh
  obtain ⟨_, h₅⟩ := h.exists_field (Field.flat_number.satisfying _ _) hb.timeout ho.timeout
  exact ⟨⟨_, _, _, _, _⟩, h₁, h₂, h₃, h₄, h₅⟩

theorem merge_store {a b : StoreSettings} (h : Merged base upper merged)
    (hb : StoreSettings.Reads base a) (ho : StoreSettings.Reads upper b) :
    ∃ c, StoreSettings.Reads merged c := by
  obtain ⟨_, h₁⟩ := h.exists_field Field.flat_truth hb.enabled ho.enabled
  obtain ⟨_, h₂⟩ := h.exists_field Field.flat_text hb.backend ho.backend
  obtain ⟨_, h₃⟩ := h.exists_field (Field.flat_whole.satisfying _ _) hb.capacity ho.capacity
  obtain ⟨_, h₄⟩ := h.exists_field (Field.flat_whole.satisfying _ _) hb.diskLimit ho.diskLimit
  exact ⟨⟨_, _, _, _⟩, h₁, h₂, h₃, h₄⟩

theorem merge_format {a b : String} (h : Merged base upper merged) (hb : FormatReads base a)
    (ho : FormatReads upper b) : ∃ c, FormatReads merged c := by
  obtain ⟨c, hc⟩ := h.exists_field Field.flat_text hb.format ho.format
  exact ⟨c, ⟨hc⟩⟩

/-- Records that can be read each on its own can be read when they are merged. -/
theorem exists_reads_merge {s t : Settings} (keyed : (Value.map upper).Keyed) (hb : Reads base s)
    (ho : Reads upper t) : ∃ u, Reads (mergeMembers base upper) u := by
  have h : Merged base upper (mergeMembers base upper) := get?_mergeMembers keyed.apart base
  obtain ⟨_, h₁⟩ := hb.check.merge merge_check h keyed ho.check
  obtain ⟨_, h₂⟩ := hb.extraction.merge merge_extraction h keyed ho.extraction
  obtain ⟨_, h₃⟩ := hb.loading.merge merge_loading h keyed ho.loading
  obtain ⟨_, h₄⟩ := hb.store.merge merge_store h keyed ho.store
  obtain ⟨_, h₅⟩ := hb.format.merge merge_format h keyed ho.format
  exact ⟨⟨_, _, _, _, _⟩, h₁, h₂, h₃, h₄, h₅⟩

end Records

end Settings

end ApiAccord
