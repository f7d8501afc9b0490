import ApiAccord.Proofs.Library

/-!
# The same file, named differently

In a proper workspace, paths with the same key that lead to a file lead to the same one, and have
the same last step.  Two workspaces in which it has the same content give the same document for it
(`document_eq_of_content`).
-/

namespace ApiAccord

namespace Workspace

open Document

/-- Directories are known by name, and no file is where a folder is. -/
structure Proper (ws : Workspace) : Prop where
  here : ws.here.IsSettled
  home : ws.home.IsWritten
  hereFolder : ws.files.hasFolder ws.here.steps = true
  sound : ws.files.Sound

variable {ws ws' : Workspace} {path path' : Path} {place : FilePlace} {c : FileContent}
  {d : Value} {f : Fingerprint}

theorem fileAt?_eq_some_iff : ws.fileAt? path = some c ↔
    ∃ place, ws.files.locate? ws.here.steps path = some place ∧ ws.files.content? place = some c :=
  Option.bind_eq_some_iff

/-- A path leads to where its absolute form says. -/
theorem place_eq (h : ws.files.locate? ws.here.steps path = some place) :
    place = (ws.resolve path).steps :=
  FileTree.walk?_eq_some h

/-- The name of a path that leads to a file is the last step of its place. -/
theorem name_eq (hp : ws.Proper) (h : ws.files.locate? ws.here.steps path = some place)
    (hc : ws.files.content? place = some c) : path.name = (place.getLast?).getD "" := by
  have notFolder : ws.files.hasFolder place = false :=
    hp.sound place (Option.isSome_iff_exists.2 ⟨c, hc⟩)
  have steps : path.steps ≠ [] := by
    intro hs
    rw [FileTree.locate?, hs] at h
    have start : ws.files.hasFolder place = true := by
      rw [← Option.some.inj h]
      split
      · rfl
      · exact hp.hereFolder
    rw [notFolder] at start
    cases start
  rw [Path.name, FileTree.getLast?_of_walk? h steps notFolder]

theorem suffix_congr (h : path.name = path'.name) : path.suffix = path'.suffix := by
  rw [Path.suffix, Path.suffix, h]

theorem document_text (hw : path.IsWritten) :
    ws.document path.text = ws.fileDocument path.text := by
  rw [document, hw.not_isAddress_text]
  rfl

theorem exists_content_of_document (hw : path.IsWritten) (h : ws.document path.text = .ok d) :
    ∃ c, ws.fileAt? path = some c ∧ c.bytes ≠ [] := by
  rw [document_text hw] at h
  obtain ⟨c, hc⟩ := fileAt?_of_fileDocument h
  have hc' := hc
  rw [hw.ofText_text] at hc'
  refine ⟨c, hc', fun hb => ?_⟩
  rw [fileDocument] at h
  simp only [hc, hb] at h
  have empty : Text.Utf8.read [] = .ok "" := by
    simp [Text.Utf8.read, Text.Utf8.firstFault?, Text.Utf8.characters, Text.Utf8.decodeOnto,
      Text.Utf8.unifyLinesOnto]
  rw [empty] at h
  cases h

/-- Where the file has the same content, it holds the same document, however it is named. -/
theorem document_eq_of_content (hw : path.IsWritten) (hw' : path'.IsWritten)
    (hc : ws.fileAt? path = some c) (hc' : ws'.fileAt? path' = some c)
    (hn : path.name = path'.name) (h : ws.document path.text = .ok d) :
    ws'.document path'.text = .ok d := by
  rw [document_text hw, fileDocument, hw.ofText_text] at h
  rw [document_text hw', fileDocument, hw'.ofText_text]
  simp only [hc, suffix_congr hn] at h
  simp only [hc']
  cases hr : Text.Utf8.read c.bytes with
  | error fault => rw [hr] at h; cases h
  | ok text =>
    simp only [hr] at h ⊢
    split
    · next hb => rw [if_pos hb] at h; cases h
    · next hb => rw [if_neg hb] at h; exact h

theorem fingerprint?_of_fileAt? (hc : ws.fileAt? path = some c) :
    ws.fingerprint? path = some c.fingerprint := by
  rw [fingerprint?, hc]

/-- A fingerprint of something that is not empty is that of a file. -/
theorem exists_content_of_fingerprint? (h : ws.fingerprint? path = some f) (hs : f.size ≠ 0) :
    ∃ c, ws.fileAt? path = some c ∧ c.fingerprint = f := by
  unfold fingerprint? at h
  split at h
  · next c hc => exact ⟨c, hc, Option.some.inj h⟩
  · split at h
    · exact absurd (congrArg Fingerprint.size (Option.some.inj h)).symm hs
    · cases h

end Workspace

end ApiAccord
