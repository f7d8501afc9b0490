import ApiAccord.Proofs.Settings.Layers
import ApiAccord.Proofs.Settings.Portable
import ApiAccord.Proofs.Text.Utf8

/-!
# Settings that are saved

The folder of the user's file is made before the file is read or written, and this touches no file
(`files_file`).  Settings that were read from portable members are loaded again as they were saved
(`load_saved`).
-/

namespace ApiAccord

namespace Settings

variable {ws : Workspace} {s : Settings} {path : Path}

/-! ## The folder of the file -/

theorem run_file (ws : Workspace) : file.run ws =
    match ws.files.makeFolders (if ws.settingsFolder.isAbsolute then [] else ws.here.steps)
      ws.settingsFolder.steps with
    | .ok (_, files) => (⟨[], .ok (ws.settingsFolder.child "config.json")⟩, { ws with files })
    | .error problem => (⟨[], .error (.file problem)⟩, ws) := by
  show ((folder >>= fun p => pure (p.child "config.json")).run ws) = _
  have made : folder.run ws = (Workspace.makeFolder ws.settingsFolder).run ws := by
    rw [folder, Task.bind_run, Task.look_run]
    rfl
  rw [Task.bind_run, made, Workspace.makeFolder]
  dsimp only
  cases ws.files.makeFolders (if ws.settingsFolder.isAbsolute then [] else ws.here.steps)
    ws.settingsFolder.steps <;> rfl

/-- Making the folder of the user's file changes no file. -/
theorem files_file (ws : Workspace) : (file.run ws).2.files.files = ws.files.files := by
  rw [run_file]
  split
  · next h => exact (FileTree.makeFolders_spec h).1
  · rfl

/-- Once the folder is made, the file is found as long as the folders stay. -/
theorem run_file_again {u : FileTree} (clock : Int) (h : (file.run ws).1.outcome = .ok path)
    (hu : ∀ q, (file.run ws).2.files.hasFolder q = true →
      u.hasFolder q = true ∧ u.hasFile q = (file.run ws).2.files.hasFile q) :
    file.run { (file.run ws).2 with files := u, clock } =
      (⟨[], .ok path⟩, { (file.run ws).2 with files := u, clock }) := by
  have made := run_file ws
  split at made
  · next files hm =>
    rw [made] at h hu ⊢
    obtain rfl := Except.ok.inj h
    rw [run_file]
    have again := FileTree.makeFolders_again hm hu
    dsimp only at again ⊢
    show (match u.makeFolders (if ws.settingsFolder.isAbsolute then [] else ws.here.steps)
      ws.settingsFolder.steps with | .ok (_, files) => _ | .error problem => _) = _
    rw [again]
    rfl
  · rw [made] at h
    cases h

/-! ## Loading -/

theorem portable_of_readMembers {what : String} {content : FileContent} {ms : Members}
    (h : readMembers what path content = .ok ms) : (Value.map ms).Portable := by
  unfold readMembers at h
  split at h
  · cases h
  · split at h
    · next hr =>
      cases h
      exact Json.portable_of_read hr
    all_goals cases h

theorem reads_of_ofMembers {origin : String} {ms : Members} (h : ofMembers origin ms = .ok s) :
    Reads ms s := by
  unfold ofMembers at h
  split at h
  · next hs =>
    cases h
    exact ofValue_eq_ok_iff.1 hs
  · cases h

/-- Settings that are loaded are read from portable members. -/
theorem reads_of_load (h : (load.run ws).1.outcome = .ok s) :
    ∃ path ms, (file.run ws).1.outcome = .ok path ∧ Reads ms s ∧ (Value.map ms).Portable := by
  cases hp : (file.run ws).1.outcome with
  | error =>
    rw [load, Task.bind_run, hp] at h
    cases h
  | ok path =>
    rw [load_outcome hp] at h
    cases hc : (file.run ws).2.fileAt? path with
    | none =>
      rw [hc] at h
      obtain rfl := Except.ok.inj h
      exact ⟨path, [], rfl, ofValue_eq_ok_iff.1 rfl, Value.portable_empty⟩
    | some content =>
      rw [hc] at h
      obtain ⟨ms, hr, h⟩ := bind_eq_ok_iff.1 h
      exact ⟨path, ms, rfl, reads_of_ofMembers h, portable_of_readMembers hr⟩

/-! ## Saving -/

/-- What is written for portable settings gives them back. -/
theorem readMembers_fileText (portable : s.toValue.Portable) (what : String) (path : Path)
    (modified : Int) :
    readMembers what path ⟨Text.Utf8.encode s.fileText, modified⟩ = .ok s.members := by
  obtain ⟨text, ht, clean, read⟩ := Json.exists_print_read portable
  have written : s.fileText = Json.toAscii text ++ "\n" := by rw [fileText, ht, Option.getD_some]
  have ends : '\r' ∉ (Json.toAscii text ++ "\n").toList := fun h => by
    have := clean _ h
    revert this
    decide
  rw [readMembers, written, Text.Utf8.read_encode ends]
  dsimp only
  rw [read]
  rfl

/-- Saving fails before anything is written, or writes the file. -/
theorem save_cases (h : (file.run ws).1.outcome = .ok path) (s : Settings) :
    (∃ failure, (save s).run (file.run ws).2 = (⟨[], .error failure⟩, (file.run ws).2)) ∨
      ∃ place, (file.run ws).2.files.target (file.run ws).2.here.steps path = .ok place ∧
        (save s).run (file.run ws).2 =
          (⟨[], .ok ()⟩, (file.run ws).2.writeAt place (Text.Utf8.encode s.fileText)) := by
  have again := run_file_again (file.run ws).2.clock h fun q hq => ⟨hq, rfl⟩
  have found : file.run (file.run ws).2 = (⟨[], .ok path⟩, (file.run ws).2) := again
  rw [save, Task.bind_run, found]
  dsimp only
  rw [Workspace.writeFile]
  dsimp only
  cases ht : (file.run ws).2.files.target (file.run ws).2.here.steps path with
  | error problem => exact .inl ⟨.file problem, rfl⟩
  | ok place => exact .inr ⟨place, rfl, rfl⟩

section Written

variable {place : FilePlace} {bytes : List UInt8}

theorem fileAt?_writeAt (target : ws.files.target ws.here.steps path = .ok place) :
    (ws.writeAt place bytes).fileAt? path = some ⟨bytes, ws.clock⟩ :=
  FileTree.fileAt?_write target

/-- Once the file is written, its folder is still there. -/
theorem run_file_writeAt (h : (file.run ws).1.outcome = .ok path)
    (target : (file.run ws).2.files.target (file.run ws).2.here.steps path = .ok place) :
    file.run ((file.run ws).2.writeAt place bytes) =
      (⟨[], .ok path⟩, (file.run ws).2.writeAt place bytes) := by
  obtain ⟨hn, hd⟩ := FileTree.target_spec target
  refine run_file_again _ h fun q hq => ⟨(FileTree.hasFolder_write hn hd).trans hq, ?_⟩
  have other : q ≠ place := by
    rintro rfl
    rw [hn] at hq
    cases hq
  rw [FileTree.hasFile, FileTree.content?_write, if_neg other, FileTree.hasFile]

/-- Settings are loaded as they were saved. -/
theorem load_saved (h : (file.run ws).1.outcome = .ok path)
    (target : (file.run ws).2.files.target (file.run ws).2.here.steps path = .ok place)
    (portable : s.toValue.Portable) (reads : Reads s.members s) :
    (load.run ((file.run ws).2.writeAt place (Text.Utf8.encode s.fileText))).1.outcome = .ok s := by
  have given : Reads ((some s.members).getD []) s := reads
  refine (load_spec ?_ given).1
  rw [userMembers, Task.bind_run, run_file_writeAt h target]
  dsimp only
  rw [run_fileMembers, fileAt?_writeAt target]
  dsimp only [Option.elim]
  rw [readMembers_fileText portable]
  rfl

end Written

end Settings

end ApiAccord
