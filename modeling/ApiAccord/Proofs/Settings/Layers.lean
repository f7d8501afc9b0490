import ApiAccord.Proofs.Library
import ApiAccord.Proofs.Settings.Sections

/-!
# The layers of the settings

A `Layer` is a record of settings that is valid on its own.  `Settings.Layers` are those that a
workspace and a command hold: the files of the user and of the project, the variables of the
environment, which are always valid if they can be read (`exists_layer_of_variableMembers`), and
what the command says.  `Settings.resolve` reads them merged one over the other
(`resolve_outcome`).
-/

namespace ApiAccord

open Settings

/-! ## Layers -/

/-- A record of settings that is valid on its own, with the settings that it gives. -/
structure Layer where
  members : Members
  settings : Settings
  reads : Reads members settings
  keyed : (Value.map members).Keyed

namespace Layer

/-- The members of some layers, the highest first, over those of settings. -/
def onto (bottom : Settings) (layers : List Layer) : Members :=
  layers.foldr (fun l ms => mergeMembers ms l.members) bottom.members

end Layer

/-! ## Merged layers -/

namespace Settings

variable {base upper : Members} {old : Option Value} {v : Value}

theorem keyed_mergeMembers_of_each
    (each : ∀ m ∈ upper, ∀ old : Option Value, (∀ u, old = some u → u.Keyed) →
      (mergeValue old m.2).Keyed)
    (hb : (Value.map base).Keyed) : (Value.map (mergeMembers base upper)).Keyed := by
  induction upper generalizing base with
  | nil => exact hb
  | cons m rest ih =>
    obtain ⟨k, w⟩ := m
    rw [mergeMembers]
    refine ih (fun m hm => each m (List.mem_cons_of_mem _ hm)) (Members.keyed_insert hb k ?_)
    exact each (k, w) List.mem_cons_self _ fun u hu => hb.lookup hu

theorem keyed_mergeValue (hv : v.Keyed) (ho : ∀ u, old = some u → u.Keyed) :
    (mergeValue old v).Keyed := by
  induction hv generalizing old with
  | map ms apart each ih =>
    cases old with
    | none => exact .map ms apart each
    | some u =>
      cases u with
      | map base => exact keyed_mergeMembers_of_each ih (ho _ rfl)
      | _ => exact .map ms apart each
  | scalar s => exact .scalar s
  | list items each => exact .list items each
  | pair a b first second => exact .pair a b first second
  | set items => exact .set items

theorem keyed_mergeMembers (hb : (Value.map base).Keyed) (ho : (Value.map upper).Keyed) :
    (Value.map (mergeMembers base upper)).Keyed := by
  cases ho with
  | map _ _ each =>
    exact keyed_mergeMembers_of_each (fun m hm _ old => keyed_mergeValue (each m hm) old) hb

end Settings

namespace Layer

theorem exists_merge (base upper : Layer) :
    ∃ l : Layer, l.members = mergeMembers base.members upper.members := by
  obtain ⟨s, hs⟩ := exists_reads_merge upper.keyed base.reads upper.reads
  exact ⟨⟨_, s, hs, keyed_mergeMembers base.keyed upper.keyed⟩, rfl⟩

/-- The layer that says nothing. -/
def empty : Layer where
  members := []
  settings := .default
  reads := ofValue_eq_ok_iff.1 rfl
  keyed := .map [] .nil fun m hm => (by cases hm)

theorem exists_single {section_ name : String} {v : Option Value}
    (valid : ∀ u, v = some u → (∃ s, Reads (single section_ name (some u)) s) ∧ u.Keyed) :
    ∃ l : Layer, l.members = single section_ name v := by
  cases v with
  | none => exact ⟨empty, rfl⟩
  | some u =>
    obtain ⟨⟨s, hs⟩, keyed⟩ := valid u rfl
    have inner : (Value.ofNamed [(name, u)]).Keyed :=
      .map _ (List.pairwise_singleton _ _) (List.forall_mem_singleton.2 keyed)
    exact ⟨⟨_, s, hs, .map _ (List.pairwise_singleton _ _) (List.forall_mem_singleton.2 inner)⟩,
      rfl⟩

theorem exists_single_rules (rules : Option (List String)) :
    ∃ l : Layer, l.members =
      single "check" "custom_rules" (rules.map fun names => .list (names.map .str)) := by
  refine exists_single fun u hu => ?_
  obtain ⟨names, -, rfl⟩ := Option.map_eq_some_iff.1 hu
  refine ⟨?_, .list _ fun v hv => ?_⟩
  · have unset : Reads [] Settings.default := ofValue_eq_ok_iff.1 rfl
    refine ⟨{ Settings.default with
      check := { CheckOptions.default with customRules := names } }, ?_⟩
    exact {
      check := ⟨fun v hv => (by cases hv; rfl), { unset.check.fields with
        customRules := Record.field_of_get? rfl (Field.listOf_text_map names) [] }⟩
      extraction := ⟨unset.extraction.isMap, unset.extraction.fields⟩
      loading := ⟨unset.loading.isMap, unset.loading.fields⟩
      store := ⟨unset.store.isMap, unset.store.fields⟩
      format := ⟨unset.format.isMap, unset.format.fields⟩ }
  · obtain ⟨s, -, rfl⟩ := List.mem_map.1 hv
    exact .scalar _

theorem exists_single_flag {section_ name : String} {flag : Option Bool}
    (valid : ∀ b, (ofValue (.map (single section_ name (some (.bool b))))).passes = true) :
    ∃ l : Layer, l.members = single section_ name (flag.map .bool) := by
  refine exists_single fun u hu => ?_
  obtain ⟨b, -, rfl⟩ := Option.map_eq_some_iff.1 hu
  obtain ⟨s, hs⟩ := passes_iff.1 (valid b)
  exact ⟨⟨s, ofValue_eq_ok_iff.1 hs⟩, .scalar _⟩

/-- What the variables of the environment say is valid if they can be read. -/
theorem exists_of_variableMembers {ws : Workspace} {ms : Members}
    (h : variableMembers ws = .ok ms) : ∃ l : Layer, l.members = ms := by
  obtain ⟨warnings, -, h⟩ := bind_eq_ok_iff.1 h
  obtain ⟨strict, -, h⟩ := bind_eq_ok_iff.1 h
  obtain ⟨unstored, -, h⟩ := bind_eq_ok_iff.1 h
  obtain ⟨l₁, h₁⟩ := exists_single_rules ((ws.lookUp "SPECMATCH_RULES").map listedRules)
  obtain ⟨l₂, h₂⟩ : ∃ l : Layer, l.members =
    single "check" "include_warnings" (warnings.map .bool) := exists_single_flag fun _ => rfl
  obtain ⟨l₃, h₃⟩ : ∃ l : Layer, l.members =
    single "extractor" "strict_method_detection" (strict.map .bool) :=
      exists_single_flag fun _ => rfl
  obtain ⟨l₄, h₄⟩ : ∃ l : Layer, l.members =
    single "cache" "enabled" ((unstored.map (!·)).map .bool) := exists_single_flag fun _ => rfl
  obtain ⟨m₁, e₁⟩ := exists_merge empty l₁
  obtain ⟨m₂, e₂⟩ := exists_merge m₁ l₂
  obtain ⟨m₃, e₃⟩ := exists_merge m₂ l₃
  obtain ⟨m₄, e₄⟩ := exists_merge m₃ l₄
  refine ⟨m₄, ?_⟩
  rw [e₄, e₃, e₂, e₁, h₁, h₂, h₃, h₄, Option.map_map, Option.map_map, ← Except.ok.inj h]
  rfl

end Layer

/-! ## The layers of a workspace -/

namespace Settings

variable {ws : Workspace} {overrides : Value}

/-- The members of the record in a file, if there is one. -/
def fileMembers (what : String) (path : Path) : Task Workspace (Option Members) := do
  match ← Task.look (·.fileAt? path) with
  | none => return none
  | some content => some <$> Task.ofExcept (readMembers what path content)

/-- The members in the user's file, if there is one. -/
def userMembers : Task Workspace (Option Members) := file >>= fileMembers "global config"

/-- The layer of the output format that the command asks for. -/
def formatLayer (format : Option String) : Layer where
  members := single "output" "format" (format.map .str)
  settings := { Settings.default with format := format.getD "auto" }
  reads := ofValue_eq_ok_iff.1 (by cases format <;> rfl)
  keyed := by
    cases format with
    | none => exact .map [] .nil fun m hm => (by cases hm)
    | some f =>
      have inner : (Value.ofNamed [("format", .str f)]).Keyed :=
        .map _ (List.pairwise_singleton _ _) (List.forall_mem_singleton.2 (.scalar _))
      exact .map _ (List.pairwise_singleton _ _) (List.forall_mem_singleton.2 inner)

/-- The layers that a workspace and a command hold, each of which is valid.  One that is missing is
empty.  The folder of the user's file is made before the file of the project is read. -/
structure Layers (ws : Workspace) (overrides : Value) where
  user : Layer
  project : Layer
  environment : Layer
  command : Layer
  user_read : ∃ ms, (userMembers.run ws).1.outcome = .ok ms ∧ user.members = ms.getD []
  project_read : ∃ ms, (projectMembers.run (userMembers.run ws).2).1.outcome = .ok ms ∧
    project.members = ms.getD []
  environment_read : variableMembers ws = .ok environment.members
  command_read : overrides = .map command.members ∨
    overrides.truthy = false ∧ command.members = []

/-- The layers above the user's file, from the highest. -/
def Layers.above (l : Layers ws overrides) (format : Option String) : List Layer :=
  [formatLayer format, l.command, l.environment, l.project]

/-! ## Reading the layers -/

theorem outcome_bind {σ α β : Type} {t : Task σ α} {f : α → Task σ β} {state : σ} {a : α}
    (h : (t.run state).1.outcome = .ok a) :
    ((t >>= f).run state).1.outcome = ((f a).run (t.run state).2).1.outcome := by
  rw [Task.bind_run, h]

theorem run_fileMembers (what : String) (path : Path) (ws : Workspace) :
    (fileMembers what path).run ws =
      (⟨[], (ws.fileAt? path).elim (.ok none) fun content =>
        (readMembers what path content).map some⟩, ws) := by
  rw [fileMembers, Task.bind_run, Task.look_run]
  dsimp only
  cases ws.fileAt? path with
  | none => rfl
  | some content =>
    dsimp only [Option.elim]
    cases readMembers what path content <;> rfl

theorem keyed_of_readMembers {what : String} {path : Path} {content : FileContent} {ms : Members}
    (h : readMembers what path content = .ok ms) : (Value.map ms).Keyed := by
  unfold readMembers at h
  split at h
  · cases h
  · split at h
    · next hr =>
      cases h
      exact Json.keyed_of_read hr
    all_goals cases h

theorem keyed_of_fileMembers {what : String} {path : Path} {ms : Option Members}
    (h : ((fileMembers what path).run ws).1.outcome = .ok ms) :
    (Value.map (ms.getD [])).Keyed := by
  rw [run_fileMembers] at h
  cases hc : ws.fileAt? path with
  | none =>
    rw [hc] at h
    cases h
    exact Layer.empty.keyed
  | some content =>
    rw [hc] at h
    obtain ⟨given, hr, rfl⟩ := map_eq_ok_iff.1 h
    exact keyed_of_readMembers hr

theorem run_projectMembers (ws : Workspace) : projectMembers.run ws =
    (fileMembers "project config" (ws.here.child (Workspace.programName ++ ".json"))).run ws := by
  rfl

theorem environment_makeFolder (p : Path) (ws : Workspace) :
    ((Workspace.makeFolder p).run ws).2.environment = ws.environment := by
  unfold Workspace.makeFolder
  dsimp only
  split <;> rfl

theorem environment_file (ws : Workspace) : (file.run ws).2.environment = ws.environment := by
  have made : (folder.run ws).2.environment = ws.environment := by
    rw [folder, Task.bind_run, Task.look_run]
    exact environment_makeFolder _ _
  show ((folder >>= fun p => pure (p.child "config.json")).run ws).2.environment = _
  rw [Task.bind_run]
  cases (folder.run ws).1.outcome <;> exact made

theorem variableMembers_congr {ws ws' : Workspace} (h : ws.environment = ws'.environment) :
    variableMembers ws = variableMembers ws' := by
  simp only [variableMembers, flag, Workspace.lookUp, h]

/-- Reading the user's file leaves what making its folder leaves. -/
theorem userMembers_state (ws : Workspace) : (userMembers.run ws).2 = (file.run ws).2 := by
  rw [userMembers, Task.bind_run]
  cases (file.run ws).1.outcome with
  | error e => rfl
  | ok path =>
    dsimp only
    rw [run_fileMembers]

theorem load_state (ws : Workspace) : (load.run ws).2 = (file.run ws).2 := by
  rw [load, Task.bind_run]
  cases (file.run ws).1.outcome with
  | error => rfl
  | ok path =>
    dsimp only
    rw [Task.bind_run, Task.look_run]
    dsimp only
    cases (file.run ws).2.fileAt? path with
    | none => rfl
    | some content =>
      dsimp only
      cases readMembers "global config" path content <;> rfl

/-- What is loaded stands in the user's file; without a file it is the default. -/
theorem load_outcome {path : Path} (h : (file.run ws).1.outcome = .ok path) :
    (load.run ws).1.outcome = ((file.run ws).2.fileAt? path).elim (.ok .default) fun content =>
      readMembers "global config" path content >>= ofMembers path.text := by
  rw [load, Task.bind_run, h]
  dsimp only
  rw [Task.bind_run, Task.look_run]
  dsimp only
  cases (file.run ws).2.fileAt? path with
  | none => rfl
  | some content =>
    dsimp only [Option.elim]
    rw [Task.bind_run]
    cases readMembers "global config" path content <;> rfl

/-- The user's settings are those of the user's layer. -/
theorem load_spec {ms : Option Members} {s : Settings}
    (h : (userMembers.run ws).1.outcome = .ok ms) (hs : Reads (ms.getD []) s) :
    (load.run ws).1.outcome = .ok s ∧ (load.run ws).2 = (userMembers.run ws).2 := by
  refine ⟨?_, (load_state ws).trans (userMembers_state ws).symm⟩
  rw [userMembers, Task.bind_run] at h
  cases hf : (file.run ws).1.outcome with
  | error e => rw [hf] at h; cases h
  | ok path =>
    rw [hf] at h
    dsimp only at h
    rw [run_fileMembers] at h
    rw [load_outcome hf]
    cases hc : (file.run ws).2.fileAt? path with
    | none =>
      rw [hc] at h
      obtain rfl := Except.ok.inj h
      have default_eq : Settings.default = s :=
        Checked.ok.inj (ofValue_eq_ok_iff.2 hs : ofValue (.map []) = .ok s)
      exact congrArg Except.ok default_eq
    | some content =>
      rw [hc] at h
      obtain ⟨given, hr, rfl⟩ := map_eq_ok_iff.1 h
      have read : ofValue (.map given) = .ok s := ofValue_eq_ok_iff.2 hs
      have valid : ofMembers path.text given = .ok s := by rw [ofMembers, read]
      exact bind_eq_ok_iff.2 ⟨given, hr, valid⟩

theorem resolve_outcome (l : Layers ws overrides) (format : Option String) :
    ((resolve format overrides).run ws).1.outcome =
      ofMembers "merged" (Layer.onto l.user.settings (l.above format)) := by
  obtain ⟨u, hu, user⟩ := l.user_read
  obtain ⟨p, hp, project⟩ := l.project_read
  obtain ⟨loaded, after⟩ := load_spec hu (user ▸ l.user.reads)
  have after_project : (projectMembers.run (userMembers.run ws).2).2 = (userMembers.run ws).2 := by
    rw [run_projectMembers, run_fileMembers]
  rw [resolve, outcome_bind loaded, after, outcome_bind hp, after_project]
  have environment : variableMembers (userMembers.run ws).2 = .ok l.environment.members := by
    rw [userMembers_state, variableMembers_congr (environment_file ws), l.environment_read]
  rw [Task.bind_run, Task.look_run]
  dsimp only
  rw [environment]
  have layers : Layer.onto l.user.settings (l.above format) =
      [p.getD [], l.environment.members, l.command.members,
        single "output" "format" (format.map .str)].foldl mergeMembers l.user.settings.members := by
    rw [← project]
    rfl
  rw [layers]
  rcases l.command_read with command | ⟨falsy, command⟩
  · simp only [command]
    cases l.command.members <;> rfl
  · rw [falsy, command]
    rfl

/-- Files and a command that are valid on their own make layers, if the variables of the environment
can be read. -/
theorem exists_layers {user project : Option Members} {environment command : Members}
    (user_read : (userMembers.run ws).1.outcome = .ok user)
    (project_read : (projectMembers.run (userMembers.run ws).2).1.outcome = .ok project)
    (environment_read : variableMembers ws = .ok environment)
    (keyed : (Value.map command).Keyed)
    (valid : ∀ ms ∈ [user.getD [], project.getD [], command], ∃ s, ofValue (.map ms) = .ok s) :
    ∃ l : Layers ws (.map command), l.user.members = user.getD [] ∧
      l.project.members = project.getD [] ∧ l.environment.members = environment ∧
      l.command.members = command := by
  obtain ⟨u, hu⟩ := valid (user.getD []) (by simp)
  obtain ⟨p, hp⟩ := valid (project.getD []) (by simp)
  obtain ⟨c, hc⟩ := valid command (by simp)
  obtain ⟨e, he⟩ := Layer.exists_of_variableMembers environment_read
  have user_keyed : (Value.map (user.getD [])).Keyed := by
    rw [userMembers, Task.bind_run] at user_read
    cases hf : (file.run ws).1.outcome with
    | error _ => rw [hf] at user_read; cases user_read
    | ok path =>
      rw [hf] at user_read
      exact keyed_of_fileMembers user_read
  have project_keyed : (Value.map (project.getD [])).Keyed := by
    rw [run_projectMembers] at project_read
    exact keyed_of_fileMembers project_read
  exact ⟨{
    user := ⟨_, u, ofValue_eq_ok_iff.1 hu, user_keyed⟩
    project := ⟨_, p, ofValue_eq_ok_iff.1 hp, project_keyed⟩
    environment := e
    command := ⟨_, c, ofValue_eq_ok_iff.1 hc, keyed⟩
    user_read := ⟨user, user_read, rfl⟩
    project_read := ⟨project, project_read, rfl⟩
    environment_read := he ▸ environment_read
    command_read := .inl rfl }, rfl, rfl, he, rfl⟩

end Settings

end ApiAccord
