import ApiAccord.Proofs.Document.Reach
import ApiAccord.Proofs.Files.Tree
import ApiAccord.Workspace

/-!
# The documents that references lead to

`Workspace.shelf` gathers documents in rounds.  There are enough of them (`gather_closed`): whatever
document references lead to from the first one, the shelf has it as it is in the workspace
(`load_shelf`).  So the answer of a resolution changes only if one of these documents does
(`resolve_shelf_congr`).
-/

namespace ApiAccord

namespace Workspace

open Document

variable {ws ws' : Workspace} {o : ResolveOptions} {base : Option String} {doc d : Value}
  {l l' : String} {steps : List String} {known : List (String × Except LoadFailure Value)}
  {wanted : List String}

/-! ## Locations that documents name -/

theorem mem_locationsFrom_iff : l ∈ locationsFrom o base doc ↔
    ∃ ref ∈ Reference.refTexts doc, ∃ t, Reference.split o base ref = .ok t ∧
      t.location = some l := by
  simp only [locationsFrom, List.mem_filterMap]
  constructor
  · rintro ⟨ref, hr, h⟩
    split at h
    · next t ht => exact ⟨ref, hr, t, ht, h⟩
    · cases h
  · rintro ⟨ref, hr, t, ht, h⟩
    exact ⟨ref, hr, by rw [ht]; exact h⟩

/-- A document that is found in a file names addresses and plain paths only. -/
theorem isAddress_or_plain_of_split (hb : ∀ b, base = some b → isAddress b = false)
    {ref : String} {t : Reference.Target} (h : Reference.split o base ref = .ok t)
    (hl : t.location = some l) :
    isAddress l = true ∨ ∃ steps, Settled steps ∧ l = ofSteps steps := by
  have file : ∀ {folder path : String}, Reference.locateFile folder path = .ok l →
      ∃ steps, Settled steps ∧ l = ofSteps steps := by
    intro folder path h
    unfold Reference.locateFile at h
    split at h
    · cases h
    · obtain ⟨steps, hs, ha⟩ := exists_settled_absolutePath folder path
      exact ⟨steps, hs, (Except.ok.inj h).symm.trans ha⟩
  unfold Reference.split at h
  split at h
  · obtain rfl := Except.ok.inj h
    cases hl
  · split at h
    · obtain ⟨location, hc, h⟩ := bind_eq_ok_iff.1 h
      obtain rfl := Except.ok.inj h
      obtain rfl := Option.some.inj hl
      unfold Reference.locate at hc
      split at hc
      · next ha => exact .inl (Except.ok.inj hc ▸ ha)
      · split at hc
        · next b =>
          rw [if_neg (by simp [hb b rfl])] at hc
          exact .inr (file hc)
        · exact .inr (file hc)
    · cases h

/-! ## Locations where there is a document -/

theorem mem_pages_of_document (ha : isAddress l = true) (h : ws.document l = .ok d) :
    l ∈ ws.pages.map (·.1) ∧ ws.pageDocument l = .ok d := by
  rw [document, if_pos ha] at h
  refine ⟨?_, h⟩
  unfold pageDocument at h
  split at h
  · cases h
  · next page hp => exact List.mem_map.2 ⟨_, mem_of_lookup hp, rfl⟩

theorem takeSteps_settled {done : List String} (h : Settled steps) :
    takeSteps done steps = done ++ steps := by
  induction steps generalizing done with
  | nil => rw [takeSteps, List.append_nil]
  | cons s rest ih =>
    have hs : ¬ (s == "..") = true := fun hs => h.2 (beq_iff_eq.1 hs ▸ List.mem_cons_self)
    have hr : Settled rest :=
      ⟨fun a ha => h.1 a (List.mem_cons_of_mem _ ha), fun ha => h.2 (List.mem_cons_of_mem _ ha)⟩
    rw [takeSteps, if_neg hs, ih hr, List.append_assoc, List.singleton_append]

theorem fileAt?_of_fileDocument (h : ws.fileDocument l = .ok d) :
    ∃ c, ws.fileAt? (Path.ofText l) = some c := by
  unfold fileDocument at h
  dsimp only at h
  split at h
  · cases h
  · next c hc => exact ⟨c, hc⟩

theorem mem_files_of_document (hs : Settled steps) (h : ws.document (ofSteps steps) = .ok d) :
    ofSteps steps ∈ ws.files.files.map fun f => ofSteps f.1 := by
  have settled : Path.IsSettled ⟨"/", steps⟩ := ⟨rfl, hs⟩
  have text : Path.text ⟨"/", steps⟩ = ofSteps steps := settled.text_eq
  rw [document, ← text, if_neg (by simp [settled.isWritten.not_isAddress_text]), text] at h
  obtain ⟨c, hc⟩ := fileAt?_of_fileDocument h
  rw [← text, settled.isWritten.ofText_text, fileAt?, FileTree.fileAt?] at hc
  obtain ⟨place, hp, hc⟩ := Option.bind_eq_some_iff.1 hc
  have place_eq : place = steps := by
    rw [FileTree.walk?_eq_some hp]
    exact takeSteps_settled hs
  exact List.mem_map.2 ⟨(steps, c), mem_of_lookup (place_eq ▸ hc), rfl⟩

/-- The locations that can have a document on the way from the wanted ones. -/
def candidates (ws : Workspace) (o : ResolveOptions) (wanted : List String) : List String :=
  ws.pages.map (·.1) ++ ws.files.files.map (fun f => ofSteps f.1) ++ ws.pageLocations o ++ wanted

theorem length_candidates : (ws.candidates o wanted).length < ws.rounds o wanted := by
  simp only [candidates, rounds, List.length_append, List.length_map]
  omega

/-- A document names no locations of documents beside the candidates. -/
theorem mem_candidates (h : ws.document l = .ok doc) (hn : l' ∈ locationsFrom o (some l) doc)
    (h' : ws.document l' = .ok d) : l' ∈ ws.candidates o wanted := by
  unfold candidates
  by_cases ha : isAddress l = true
  · obtain ⟨hl, hp⟩ := mem_pages_of_document ha h
    obtain ⟨⟨url, page⟩, hu, rfl⟩ := List.mem_map.1 hl
    refine List.mem_append_left _ (List.mem_append_right _ (List.mem_flatMap.2 ⟨_, hu, ?_⟩))
    simp only [hp]
    exact hn
  · obtain ⟨ref, -, t, ht, hl⟩ := mem_locationsFrom_iff.1 hn
    have base : ∀ b, some l = some b → isAddress b = false := by
      rintro b hb
      exact Option.some.inj hb ▸ Bool.not_eq_true _ ▸ ha
    rcases isAddress_or_plain_of_split base ht hl with ha' | ⟨steps, hs, rfl⟩
    · refine List.mem_append_left _ (List.mem_append_left _ (List.mem_append_left _ ?_))
      exact (mem_pages_of_document ha' h').1
    · refine List.mem_append_left _ (List.mem_append_left _ (List.mem_append_right _ ?_))
      exact mem_files_of_document hs h'

/-! ## Gathering until nothing is missing -/

/-- What is known is as it is in the workspace, and the locations that it names are known or
wanted. -/
structure Gathering (ws : Workspace) (o : ResolveOptions)
    (known : List (String × Except LoadFailure Value)) (wanted : List String) : Prop where
  loaded : ∀ p ∈ known, p.2 = ws.document p.1
  next : ∀ l doc, (l, .ok doc) ∈ known → ∀ l' ∈ locationsFrom o (some l) doc,
    l' ∈ known.map (·.1) ∨ l' ∈ wanted

/-- The locations that a round loads. -/
def missing (known : List (String × Except LoadFailure Value)) (wanted : List String) :
    List String :=
  wanted.eraseDups.filter fun l => (known.lookup l).isNone

/-- What a round loads. -/
def loadAll (ws : Workspace) (locations : List String) :
    List (String × Except LoadFailure Value) :=
  locations.map fun l => (l, ws.document l)

/-- The locations that loaded documents name. -/
def named (o : ResolveOptions) (loaded : List (String × Except LoadFailure Value)) : List String :=
  loaded.flatMap fun (l, result) =>
    match result with
    | .ok doc => locationsFrom o (some l) doc
    | .error _ => []

theorem gather_succ (rounds : Nat) : ws.gather o (rounds + 1) known wanted =
    if (missing known wanted).isEmpty then known
    else ws.gather o rounds (known ++ ws.loadAll (missing known wanted))
      (named o (ws.loadAll (missing known wanted))) := rfl

theorem mem_missing_iff : l ∈ missing known wanted ↔ l ∈ wanted ∧ l ∉ known.map (·.1) := by
  rw [missing, List.mem_filter, List.mem_eraseDups, Option.isNone_iff_eq_none,
    List.lookup_eq_none_iff]
  refine and_congr_right fun _ => ⟨fun h hk => ?_, fun h p hp => ?_⟩
  · obtain ⟨p, hp, rfl⟩ := List.mem_map.1 hk
    simpa using h p hp
  · refine bne_iff_ne.2 fun hl => h ?_
    exact hl ▸ List.mem_map_of_mem hp

theorem mem_named_iff {loaded : List (String × Except LoadFailure Value)} :
    l' ∈ named o loaded ↔ ∃ l doc, (l, .ok doc) ∈ loaded ∧ l' ∈ locationsFrom o (some l) doc := by
  rw [named, List.mem_flatMap]
  constructor
  · rintro ⟨⟨l, result⟩, hl, h⟩
    dsimp only at h
    split at h
    · next doc => exact ⟨l, doc, hl, h⟩
    · cases h
  · rintro ⟨l, doc, hl, h⟩
    exact ⟨(l, .ok doc), hl, h⟩

theorem mem_named_loadAll_iff {locations : List String} :
    l' ∈ named o (ws.loadAll locations) ↔
      ∃ l ∈ locations, ∃ doc, ws.document l = .ok doc ∧ l' ∈ locationsFrom o (some l) doc := by
  rw [mem_named_iff]
  constructor
  · rintro ⟨l, doc, hl, h⟩
    obtain ⟨a, ha, he⟩ := List.mem_map.1 hl
    obtain ⟨rfl, hdoc⟩ := Prod.mk.inj he
    exact ⟨_, ha, doc, hdoc, h⟩
  · rintro ⟨l, hl, doc, hdoc, h⟩
    exact ⟨l, doc, List.mem_map.2 ⟨l, hl, congrArg (Prod.mk l) hdoc⟩, h⟩

/-- After a round all is known that was known or wanted before it. -/
theorem mem_known_of_round (h : l ∈ known.map (·.1) ∨ l ∈ wanted) :
    l ∈ (known ++ ws.loadAll (missing known wanted)).map (·.1) := by
  rw [List.map_append, List.mem_append]
  by_cases hk : l ∈ known.map (·.1)
  · exact .inl hk
  · have new := mem_missing_iff.2 ⟨h.resolve_left hk, hk⟩
    exact .inr (List.mem_map.2 ⟨(l, ws.document l), List.mem_map_of_mem new, rfl⟩)

theorem Gathering.round (h : Gathering ws o known wanted) :
    Gathering ws o (known ++ ws.loadAll (missing known wanted))
      (named o (ws.loadAll (missing known wanted))) := by
  constructor
  · intro p hp
    rcases List.mem_append.1 hp with hp | hp
    · exact h.loaded p hp
    · obtain ⟨l, -, rfl⟩ := List.mem_map.1 hp
      rfl
  · intro l doc hl l' hl'
    rcases List.mem_append.1 hl with hl | hl
    · exact .inl (mem_known_of_round (h.next l doc hl l' hl'))
    · exact .inr (mem_named_iff.2 ⟨l, doc, hl, hl'⟩)

/-- The candidates that are not known yet. -/
def remaining (known : List (String × Except LoadFailure Value)) (candidates : List String) :
    List String :=
  candidates.filter fun l => decide (l ∉ known.map (·.1))

theorem remaining_round_lt (ws : Workspace) {candidates : List String} (hc : l ∈ candidates)
    (hl : l ∈ missing known wanted) :
    (remaining (known ++ ws.loadAll (missing known wanted)) candidates).length <
      (remaining known candidates).length := by
  obtain ⟨hw, hk⟩ := mem_missing_iff.1 hl
  have hl' : l ∈ (known ++ ws.loadAll (missing known wanted)).map (·.1) :=
    mem_known_of_round (.inr hw)
  have rest : remaining (known ++ ws.loadAll (missing known wanted)) candidates =
      (remaining known candidates).filter fun l =>
        decide (l ∉ (known ++ ws.loadAll (missing known wanted)).map (·.1)) := by
    rw [remaining, remaining, List.filter_filter]
    refine List.filter_congr fun a _ => ?_
    simp only [List.map_append, List.mem_append]
    grind
  rw [rest, List.length_filter_lt_length_iff_exists]
  exact ⟨l, List.mem_filter.2 ⟨hc, decide_eq_true hk⟩,
    fun h => of_decide_eq_true h hl'⟩

theorem gather_nil (rounds : Nat) : ws.gather o rounds known [] = known := by
  cases rounds <;> rfl

/-- With more rounds than candidates, no location that a known document names stays unknown. -/
theorem gather_closed {candidates : List String} (h : Gathering ws o known wanted) {rounds : Nat}
    (hc : ∀ l ∈ wanted, ∀ d, ws.document l = .ok d → l ∈ candidates)
    (hnext : ∀ l doc, ws.document l = .ok doc → ∀ l' ∈ locationsFrom o (some l) doc,
      ∀ d, ws.document l' = .ok d → l' ∈ candidates)
    (hr : (remaining known candidates).length < rounds) :
    Gathering ws o (ws.gather o rounds known wanted) [] ∧
      (∀ l, l ∈ known.map (·.1) ∨ l ∈ wanted →
        l ∈ (ws.gather o rounds known wanted).map (·.1)) := by
  induction rounds generalizing known wanted with
  | zero => exact absurd hr (Nat.not_lt_zero _)
  | succ rounds ih =>
    rw [gather_succ]
    by_cases he : missing known wanted = []
    · have hk : ∀ l ∈ wanted, l ∈ known.map (·.1) := by
        intro l hl
        by_contra hn
        exact List.not_mem_nil (he ▸ mem_missing_iff.2 ⟨hl, hn⟩)
      rw [he, List.isEmpty_nil, if_pos rfl]
      exact ⟨⟨h.loaded, fun l doc hl l' hl' => .inl ((h.next l doc hl l' hl').elim id (hk l'))⟩,
        fun l hl => hl.elim id (hk l)⟩
    · rw [if_neg (by simpa using he)]
      by_cases hok : ∃ l ∈ missing known wanted, ∃ d, ws.document l = .ok d
      · obtain ⟨l, hl, d, hd⟩ := hok
        have fewer := remaining_round_lt ws (hc l (mem_missing_iff.1 hl).1 d hd) hl
        obtain ⟨hg, hm⟩ := ih h.round (fun l' hl' d' hd' => by
          obtain ⟨l, -, doc, hdoc, hn⟩ := mem_named_loadAll_iff.1 hl'
          exact hnext l doc hdoc l' hn d' hd') (by omega)
        exact ⟨hg, fun l hl => hm l (.inl (mem_known_of_round hl))⟩
      · -- Nothing was found, so that nothing is wanted any more.
        have none : named o (ws.loadAll (missing known wanted)) = [] := by
          refine List.eq_nil_iff_forall_not_mem.2 fun l' hl' => ?_
          obtain ⟨l, hmiss, doc, hdoc, -⟩ := mem_named_loadAll_iff.1 hl'
          exact hok ⟨l, hmiss, doc, hdoc⟩
        rw [none, gather_nil]
        exact ⟨none ▸ h.round, fun _ => mem_known_of_round⟩

/-! ## The shelf -/

theorem gathering_nil : Gathering ws o [] wanted :=
  ⟨fun _ h => absurd h List.not_mem_nil, fun _ _ h => absurd h List.not_mem_nil⟩

/-- What is gathered is closed under naming, and has all that was wanted. -/
theorem gathered_all (ws : Workspace) (o : ResolveOptions) (wanted : List String) :
    Gathering ws o (ws.gather o (ws.rounds o wanted) [] wanted) [] ∧
    ∀ l ∈ wanted, l ∈ (ws.gather o (ws.rounds o wanted) [] wanted).map (·.1) := by
  have few : (remaining [] (ws.candidates o wanted)).length < ws.rounds o wanted :=
    Nat.lt_of_le_of_lt (List.length_filter_le _ _) length_candidates
  obtain ⟨hg, hm⟩ := gather_closed gathering_nil
    (fun l hl d _ => List.mem_append_right _ hl)
    (fun l doc h l' hl' d h' => mem_candidates h hl' h') few
  exact ⟨hg, fun l hl => hm l (.inr hl)⟩

theorem Gathering.lookup_eq (h : Gathering ws o known []) (hl : l ∈ known.map (·.1)) :
    known.lookup l = some (ws.document l) := by
  obtain ⟨p, hp, rfl⟩ := List.mem_map.1 hl
  obtain ⟨r, hr⟩ := Option.isSome_iff_exists.1
    (List.lookup_isSome_iff.2 ⟨p, hp, beq_self_eq_true p.1⟩)
  rw [hr]
  exact congrArg some (h.loaded _ (mem_of_lookup hr))

theorem external_of_reachesLocation {shelf : Shelf} {start : Reference.Place}
    (h : Reference.ReachesLocation o shelf start l) : o.external = true := by
  obtain ⟨here, ref, t, -, ht, hl⟩ := h
  unfold Reference.split at ht
  split at ht
  · obtain rfl := Except.ok.inj ht
    cases hl
  · split at ht
    · assumption
    · cases ht

/-- Wherever references lead, the shelf has what is in the workspace. -/
theorem load_shelf
    (h : Reference.ReachesLocation o (ws.shelf o base doc) (Reference.startOf o base doc) l) :
    (ws.shelf o base doc).load l = ws.document l := by
  have ext := external_of_reachesLocation h
  obtain ⟨here, ref, t, ⟨visits, ms, way, text⟩, ht, hl⟩ := h
  have documents : (ws.shelf o base doc).documents =
      ws.gather o (ws.rounds o (locationsFrom o (Reference.plainBase o base) doc)) []
        (locationsFrom o (Reference.plainBase o base) doc) := if_pos ext
  obtain ⟨hg, hw⟩ := gathered_all ws o (locationsFrom o (Reference.plainBase o base) doc)
  rw [← documents] at hg hw
  have named : l ∈ locationsFrom o here.base here.root :=
    mem_locationsFrom_iff.2
      ⟨ref, way.met.2 ref (Reference.mem_refTexts_of_refText? text), t, ht, hl⟩
  have known : l ∈ (ws.shelf o base doc).documents.map (·.1) := by
    rcases way.loaded.1 with rfl | ⟨lb, hb, hr⟩
    · exact hw l named
    · rw [hb] at named
      exact (hg.next lb here.root (Shelf.mem_documents_of_load_eq_ok hr) l named).resolve_right
        List.not_mem_nil
  rw [Shelf.load, hg.lookup_eq known]

/-- The answer of a resolution depends only on the documents that references lead to. -/
theorem resolve_shelf_congr
    (h : ∀ l, Reference.ReachesLocation o (ws.shelf o base doc) (Reference.startOf o base doc) l →
      ws.document l = ws'.document l) :
    Reference.resolve o (ws.shelf o base doc) base doc =
      Reference.resolve o (ws'.shelf o base doc) base doc := by
  refine Reference.resolve_congr (Reference.agree_of_common fun l hl hl' => ?_)
  rw [load_shelf hl, h l hl, load_shelf hl']

end Workspace

end ApiAccord
