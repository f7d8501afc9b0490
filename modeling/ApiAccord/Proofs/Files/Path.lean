import ApiAccord.Files.Path
import ApiAccord.Proofs.Text

/-!
# Paths and their texts

A path that is read from a text has steps that can be told apart again (`Written`); once it is made
absolute, no step leads back any more (`Settled`).  Such a path is what its text reads as
(`Path.IsWritten.ofText_text`), and paths that lead to different places have different absolute
texts (`Path.steps_eq_of_resolve_text_eq`).
-/

namespace ApiAccord

namespace Document

variable {steps done steps' : List String} {path home text s : String}

/-- Every step is a name or leads back. -/
def Written (steps : List String) : Prop := ∀ s ∈ steps, s ≠ "" ∧ s ≠ "." ∧ '/' ∉ s.toList

/-- Every step is a name. -/
def Settled (steps : List String) : Prop := Written steps ∧ ".." ∉ steps

theorem settled_nil : Settled [] := ⟨fun _ h => absurd h List.not_mem_nil, List.not_mem_nil⟩

theorem Settled.dropLast (h : Settled steps) : Settled steps.dropLast :=
  ⟨fun s hs => h.1 s (List.dropLast_subset _ hs), fun hs => h.2 (List.dropLast_subset _ hs)⟩

theorem written_pathSteps : Written (pathSteps text) := by
  intro s hs
  obtain ⟨hs, hne⟩ := List.mem_filter.1 hs
  obtain ⟨piece, hp, rfl⟩ := List.mem_map.1 hs
  simp only [bne_iff_ne, ne_eq, Bool.and_eq_true] at hne
  refine ⟨hne.1, hne.2, ?_⟩
  rw [String.toList_ofList]
  exact Text.Chars.sep_notMem_of_mem_splitOn hp

theorem settled_takeSteps (hd : Settled done) (hs : Written steps) :
    Settled (takeSteps done steps) := by
  induction steps generalizing done with
  | nil => exact hd
  | cons s rest ih =>
    have hr : Written rest := fun s hs' => hs s (List.mem_cons_of_mem _ hs')
    rw [takeSteps]
    split
    · exact ih hd.dropLast hr
    · next hb =>
      refine ih ⟨fun a ha => ?_, fun ha => ?_⟩ hr
      · rcases List.mem_append.1 ha with ha | ha
        · exact hd.1 a ha
        · exact List.mem_singleton.1 ha ▸ hs s List.mem_cons_self
      · rcases List.mem_append.1 ha with ha | ha
        · exact hd.2 ha
        · exact hb (beq_iff_eq.2 (List.mem_singleton.1 ha).symm)

theorem splitOn_intercalate (hne : steps ≠ []) (h : Written steps) :
    Text.Chars.splitOn '/' ("/".intercalate steps).toList = steps.map String.toList := by
  rw [String.toList_intercalate]
  refine Text.Chars.splitOn_intercalate (by simpa using hne) fun p hp => ?_
  obtain ⟨s, hs, rfl⟩ := List.mem_map.1 hp
  exact (h s hs).2.2

theorem filter_written (h : Written steps) :
    steps.filter (fun s => s != "" && s != ".") = steps := by
  refine List.filter_eq_self.2 fun s hs => ?_
  obtain ⟨h1, h2, -⟩ := h s hs
  simp [h1, h2]

theorem pathSteps_intercalate (h : Written steps) : pathSteps ("/".intercalate steps) = steps := by
  by_cases hne : steps = []
  · subst hne
    decide
  · rw [pathSteps, Text.splitOn, splitOn_intercalate hne h, List.map_map]
    simp only [Function.comp_def, String.ofList_toList, List.map_id']
    exact filter_written h

theorem pathSteps_slash : pathSteps ("/" ++ text) = pathSteps text := by
  rw [pathSteps, pathSteps, Text.splitOn, Text.splitOn, String.toList_append]
  rfl

/-- The steps of a plain path are those it was made of. -/
theorem pathSteps_ofSteps (h : Written steps) : pathSteps (ofSteps steps) = steps := by
  rw [ofSteps, pathSteps_slash, pathSteps_intercalate h]

theorem ofSteps_inj (h : Written steps) (h' : Written steps')
    (he : ofSteps steps = ofSteps steps') : steps = steps' := by
  rw [← pathSteps_ofSteps h, he, pathSteps_ofSteps h']

/-- An absolute path is made of names only. -/
theorem exists_settled_absolutePath (home path : String) :
    ∃ steps, Settled steps ∧ absolutePath home path = ofSteps steps := by
  unfold absolutePath
  split
  · exact ⟨_, settled_takeSteps settled_nil written_pathSteps, rfl⟩
  · exact ⟨_, settled_takeSteps (settled_takeSteps settled_nil written_pathSteps) written_pathSteps,
      rfl⟩

end Document

namespace Path

open Document

variable {p q home here : Path} {text : String}

/-- The path is one that a text writes. -/
structure IsWritten (p : Path) : Prop where
  root : p.root = "" ∨ p.root = "/" ∨ p.root = "//"
  steps : Written p.steps

/-- The path leads from the root by names only. -/
structure IsSettled (p : Path) : Prop where
  root : p.root = "/"
  steps : Settled p.steps

theorem IsSettled.isWritten (h : p.IsSettled) : p.IsWritten := ⟨.inr (.inl h.root), h.steps.1⟩

theorem isWritten_ofText : (ofText text).IsWritten := by
  refine ⟨?_, written_pathSteps⟩
  unfold ofText
  split
  · exact .inl rfl
  · exact .inr (.inr rfl)
  · exact .inr (.inl rfl)

theorem isWritten_of_expandHome? (hp : p.IsWritten) (hh : home.IsWritten)
    (h : p.expandHome? home = some q) : q.IsWritten := by
  unfold expandHome? at h
  split at h
  · next step rest hr hs =>
    split at h
    · obtain rfl := Option.some.inj h
      refine ⟨hh.root, fun s hs' => ?_⟩
      rcases List.mem_append.1 hs' with hs' | hs'
      · exact hh.steps s hs'
      · exact hp.steps s (hs ▸ List.mem_cons_of_mem _ hs')
    · split at h
      · cases h
      · exact Option.some.inj h ▸ hp
  · exact Option.some.inj h ▸ hp

theorem takeWhile_intercalate {steps : List String} (h : Written steps) :
    ("/".intercalate steps).toList.takeWhile (· == '/') = [] := by
  rw [String.toList_intercalate]
  cases steps with
  | nil => rfl
  | cons s rest =>
    obtain ⟨hne, -, hs⟩ := h s List.mem_cons_self
    cases hl : s.toList with
    | nil => exact absurd (String.toList_eq_nil_iff.1 hl) hne
    | cons c cs =>
      have hc : c ≠ '/' := fun hc => hs (hl ▸ hc ▸ List.mem_cons_self)
      simp [hl, hc]

theorem leadingSlashes_append {steps : List String} (before : String) (h : Written steps)
    (hb : before.toList.all (· == '/') = true) :
    leadingSlashes (before ++ "/".intercalate steps) = before.toList.length := by
  rw [leadingSlashes, String.toList_append, List.takeWhile_append_of_pos (List.all_eq_true.1 hb),
    takeWhile_intercalate h, List.append_nil]

/-- A written path is what its text reads as. -/
theorem IsWritten.ofText_text (h : p.IsWritten) : ofText p.text = p := by
  obtain ⟨root, steps⟩ := p
  obtain ⟨hr, hs⟩ := h
  by_cases he : root = "" ∧ steps = []
  · obtain ⟨rfl, rfl⟩ := he
    decide
  · have text : Path.text ⟨root, steps⟩ = root ++ "/".intercalate steps := by
      rw [Path.text, if_neg]
      simpa using he
    rw [text]
    rcases hr with rfl | rfl | rfl
    · have lead := leadingSlashes_append "" hs rfl
      simp only [ofText, lead]
      simp [pathSteps_intercalate hs]
    · have lead := leadingSlashes_append "/" hs rfl
      simp only [ofText, lead]
      simp [pathSteps_slash, pathSteps_intercalate hs]
    · have lead := leadingSlashes_append "//" hs rfl
      have two : "//" ++ "/".intercalate steps = "/" ++ ("/" ++ "/".intercalate steps) := by
        rw [← String.append_assoc]
        rfl
      simp only [ofText, lead]
      rw [two, pathSteps_slash, pathSteps_slash, pathSteps_intercalate hs]
      rfl

/-! ## Absolute paths -/

theorem isSettled_resolve (hp : p.IsWritten) (hh : here.IsSettled) :
    (p.resolve here).IsSettled := by
  refine ⟨rfl, settled_takeSteps ?_ hp.steps⟩
  split
  · exact settled_nil
  · exact hh.steps

theorem IsSettled.text_eq (h : p.IsSettled) : p.text = ofSteps p.steps := by
  rw [Path.text, h.root]
  rfl

/-- Paths with the same absolute text lead to the same place. -/
theorem steps_eq_of_resolve_text_eq (hp : p.IsWritten) (hq : q.IsWritten) (hh : here.IsSettled)
    (h : (p.resolve here).text = (q.resolve here).text) :
    (p.resolve here).steps = (q.resolve here).steps := by
  have sp := isSettled_resolve hp hh
  have sq := isSettled_resolve hq hh
  rw [sp.text_eq, sq.text_eq] at h
  exact ofSteps_inj sp.steps.1 sq.steps.1 h

/-! ## Paths are no addresses -/

theorem splitOn_text (h : p.IsWritten) :
    ∀ s ∈ (Text.Chars.splitOn '/' p.text.toList).tail, p.root = "" → s ≠ [] := by
  intro s hs hr
  have text : p.text = if p.steps = [] then "." else "/".intercalate p.steps := by
    rw [Path.text, hr]
    cases p.steps <;> simp
  rw [text] at hs
  split at hs
  · have dot : Text.Chars.splitOn '/' ".".toList = [['.']] := by decide
    rw [dot] at hs
    cases hs
  · next hne =>
    rw [splitOn_intercalate hne h.steps] at hs
    obtain ⟨step, hstep, rfl⟩ := List.mem_map.1 (List.mem_of_mem_tail hs)
    exact fun hnil => (h.steps step hstep).1 (String.toList_eq_nil_iff.1 hnil)

/-- A written path does not begin like an address: after a colon it cannot have two slashes. -/
theorem IsWritten.not_isAddress_text (h : p.IsWritten) : isAddress p.text = false := by
  have scheme : ∀ name : String, name.toList ≠ [] → '/' ∉ name.toList →
      Text.startsWith (name ++ "//") p.text = false := by
    intro name hne hs
    rw [Bool.eq_false_iff]
    intro hb
    rw [Text.startsWith, List.isPrefixOf_iff_prefix] at hb
    obtain ⟨rest, hrest⟩ := hb
    have hl : p.text.toList = name.toList ++ '/' :: ('/' :: rest) := by
      rw [← hrest, String.toList_append]
      simp
    by_cases hr : p.root = ""
    · refine splitOn_text h [] ?_ hr rfl
      rw [hl, Text.Chars.splitOn_append _ hs]
      simp [Text.Chars.splitOn]
    · obtain ⟨tail, ht⟩ : ∃ tail, p.text.toList = '/' :: tail := by
        have text : p.text = p.root ++ "/".intercalate p.steps := by
          rw [Path.text, if_neg]
          simp [hr]
        rw [text, String.toList_append]
        rcases h.root with hr' | hr' | hr'
        · exact absurd hr' hr
        · exact ⟨_, by rw [hr']; rfl⟩
        · exact ⟨_, by rw [hr']; rfl⟩
      cases hn : name.toList with
      | nil => exact hne hn
      | cons c cs =>
        rw [ht, hn] at hl
        obtain rfl := (List.cons.inj hl).1
        exact hs (hn ▸ List.mem_cons_self)
  rw [isAddress, Bool.or_eq_false_iff]
  exact ⟨scheme "http:" (by decide) (by decide), scheme "https:" (by decide) (by decide)⟩

end Path

end ApiAccord
