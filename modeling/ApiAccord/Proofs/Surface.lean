import ApiAccord.Surface
import Mathlib.Data.List.Induction
import Mathlib.Data.List.Nodup

/-!
# The endpoints of a surface

The endpoints that sightings show have different paths, in the order in which these were first seen
(`paths_endpointsOf`, `nodup_paths_endpointsOf`), and each holds what the sightings of its path show
(`collects_endpointsOf`).  `Surface.endpoints_ofFeatures` says this of the surfaces of code, where
an endpoint feature is seen with the method features near it.
-/

namespace ApiAccord

variable {e : SurfaceEndpoint} {es : List SurfaceEndpoint} {s : Sighting} {ss own : List Sighting}
  {m method path : String} {line : Option Int} {seen lines : List (String × Option Int)}

/-! ## Order of first sighting -/

section FirstSighting

variable {α : Type*} [BEq α] [LawfulBEq α] {a : α} {as : List α}

/-- Among different elements a new one comes last. -/
theorem eraseDups_concat_of_notMem (h : a ∉ as) : (as ++ [a]).eraseDups = as.eraseDups ++ [a] := by
  have new : [a].removeAll as = [a] := by simp [List.cons_removeAll, h]
  rw [List.eraseDups_append, new]
  rfl

theorem eraseDups_concat_of_mem (h : a ∈ as) : (as ++ [a]).eraseDups = as.eraseDups := by
  have none : [a].removeAll as = [] := by simp [List.cons_removeAll, h]
  rw [List.eraseDups_append, none, List.eraseDups_nil, List.append_nil]

theorem nodup_eraseDups (as : List α) : as.eraseDups.Nodup := by
  induction as using List.reverseRecOn with
  | nil => exact List.nodup_nil
  | append_singleton as a ih =>
    by_cases h : a ∈ as
    · rwa [eraseDups_concat_of_mem h]
    · rw [eraseDups_concat_of_notMem h]
      refine List.nodup_append.2 ⟨ih, List.nodup_singleton a, fun b hb c hc => ?_⟩
      obtain rfl := List.mem_singleton.1 hc
      exact fun hbc => h (hbc ▸ List.mem_eraseDups.1 hb)

end FirstSighting

/-! ## Adding to one endpoint -/

theorem setLine_of_notMem (h : method ∉ lines.map (·.1)) :
    setLine method line lines = lines ++ [(method, line)] := by
  induction lines with
  | nil => rfl
  | cons l rest ih =>
    obtain ⟨first, others⟩ := List.ne_and_not_mem_of_not_mem_cons h
    rw [setLine, if_neg (mt beq_iff_eq.1 first.symm), ih others, List.cons_append]

namespace SurfaceEndpoint

/-- The methods of an endpoint are those that were seen, each with the line it was first seen on. -/
structure Tied (seen : List (String × Option Int)) (e : SurfaceEndpoint) : Prop where
  methods : e.methods = (seen.map (·.1)).eraseDups
  methodLines : e.methodLines = e.methods.map fun m => (m, (seen.lookup m).join)

theorem Tied.mem_methods (h : Tied seen e) : m ∈ e.methods ↔ m ∈ seen.map (·.1) := by
  rw [h.methods, List.mem_eraseDups]

theorem Tied.addMethod (h : Tied seen e) (a : String × Option Int) :
    Tied (seen ++ [a]) (e.addMethod a.1 a.2) := by
  -- A line that is there stays, whatever is seen later.
  have kept : (e.methods.map fun m => (m, ((seen ++ [a]).lookup m).join)) = e.methodLines := by
    rw [h.methodLines]
    refine List.map_congr_left fun m hm => ?_
    have found : (seen.lookup m).isSome = true := by
      obtain ⟨x, hx, rfl⟩ := List.mem_map.1 (h.mem_methods.1 hm)
      exact List.lookup_isSome_iff.2 ⟨x, hx, beq_self_eq_true _⟩
    rw [List.lookup_append, Option.or_of_isSome found]
  unfold SurfaceEndpoint.addMethod
  by_cases known : a.1 ∈ seen.map (·.1)
  · rw [if_pos (List.contains_iff_mem.2 (h.mem_methods.2 known))]
    refine ⟨?_, kept.symm⟩
    rw [List.map_append, List.map_singleton, eraseDups_concat_of_mem known, h.methods]
  · have new : a.1 ∉ e.methodLines.map (·.1) := by
      rw [h.methodLines, List.map_map]
      simpa [h.mem_methods] using known
    have line : ((seen ++ [a]).lookup a.1).join = a.2 := by
      have none : seen.lookup a.1 = none := by
        refine List.lookup_eq_none_iff.2 fun x hx => bne_iff_ne.2 fun hk => known ?_
        rw [hk]
        exact List.mem_map_of_mem hx
      rw [List.lookup_append, none, Option.none_or, List.lookup_cons_self, Option.join_some]
    rw [if_neg (mt List.contains_iff_mem.1 (mt h.mem_methods.1 known))]
    refine ⟨?_, ?_⟩
    · rw [List.map_append, List.map_singleton, eraseDups_concat_of_notMem known, ← h.methods]
    · rw [setLine_of_notMem new, List.map_append, kept, List.map_singleton, line]

theorem Tied.addMethods (h : Tied seen e) (added : List (String × Option Int)) :
    Tied (seen ++ added) (added.foldl (fun e m => e.addMethod m.1 m.2) e) := by
  induction added generalizing seen e with
  | nil => rwa [List.append_nil]
  | cons a rest ih =>
    have := ih (h.addMethod a)
    rwa [List.append_assoc] at this

/-- Methods are added, and nothing else changes. -/
theorem addMethods_frame (added : List (String × Option Int)) (e : SurfaceEndpoint) :
    let e' := added.foldl (fun e m => e.addMethod m.1 m.2) e
    e'.path = e.path ∧ e'.location = e.location ∧ e'.spellings = e.spellings := by
  induction added generalizing e with
  | nil => exact ⟨rfl, rfl, rfl⟩
  | cons a rest ih =>
    obtain ⟨hp, hl, hs⟩ := ih (e.addMethod a.1 a.2)
    have one : (e.addMethod a.1 a.2).path = e.path ∧
        (e.addMethod a.1 a.2).location = e.location ∧
        (e.addMethod a.1 a.2).spellings = e.spellings := by
      unfold addMethod
      split <;> exact ⟨rfl, rfl, rfl⟩
    exact ⟨hp.trans one.1, hl.trans one.2.1, hs.trans one.2.2⟩

/-- An endpoint holds what the sightings of its path show. -/
structure Collects (own : List Sighting) (e : SurfaceEndpoint) : Prop where
  location : own.head?.map (·.location) = some e.location
  spellings : e.spellings = (own.map (·.spelling)).eraseDups
  tied : Tied (own.flatMap (·.methods)) e

theorem absorb_path : (e.absorb s).path = e.path := by
  rw [absorb, (addMethods_frame _ _).1, addSpelling]
  split <;> rfl

theorem absorb_location : (e.absorb s).location = e.location := by
  rw [absorb, (addMethods_frame _ _).2.1, addSpelling]
  split <;> rfl

theorem absorb_spellings (own : List Sighting)
    (h : e.spellings = (own.map (·.spelling)).eraseDups) :
    (e.absorb s).spellings = ((own ++ [s]).map (·.spelling)).eraseDups := by
  rw [absorb, (addMethods_frame _ _).2.2, addSpelling, List.map_append, List.map_singleton]
  by_cases known : s.spelling ∈ own.map (·.spelling)
  · rw [if_pos (by simpa [h] using known), eraseDups_concat_of_mem known, h]
  · rw [if_neg (by simpa [h] using known), eraseDups_concat_of_notMem known, ← h]

theorem absorb_tied (h : Tied seen e) : Tied (seen ++ s.methods) (e.absorb s) := by
  have : Tied seen (e.addSpelling s.spelling) := by
    unfold addSpelling
    split
    · exact h
    · exact ⟨h.methods, h.methodLines⟩
  exact this.addMethods s.methods

theorem Collects.absorb (h : Collects own e) (s : Sighting) :
    Collects (own ++ [s]) (e.absorb s) where
  location := by
    rw [absorb_location, ← h.location]
    cases own with
    | nil => cases h.location
    | cons first rest => rfl
  spellings := absorb_spellings own h.spellings
  tied := by
    rw [List.flatMap_append, List.flatMap_singleton]
    exact absorb_tied h.tied

/-- The first sighting of a path makes its endpoint. -/
theorem collects_new (s : Sighting) :
    Collects [s] ((SurfaceEndpoint.mk s.path [] s.location [] []).absorb s) where
  location := by
    rw [absorb_location]
    rfl
  spellings := absorb_spellings [] rfl
  tied := by
    rw [List.flatMap_singleton]
    have fresh : Tied [] (.mk s.path [] s.location [] []) := ⟨rfl, rfl⟩
    exact absorb_tied fresh

end SurfaceEndpoint

/-! ## Adding a sighting -/

theorem paths_addSighting_of_mem (h : s.path ∈ es.map (·.path)) :
    (addSighting s es).map (·.path) = es.map (·.path) := by
  induction es with
  | nil => cases h
  | cons e rest ih =>
    rw [addSighting]
    by_cases same : e.path = s.path
    · rw [if_pos (beq_iff_eq.2 same), List.map_cons, SurfaceEndpoint.absorb_path, List.map_cons]
    · have later := (List.mem_cons.1 h).resolve_left fun hs => same hs.symm
      rw [if_neg (mt beq_iff_eq.1 same), List.map_cons, ih later, List.map_cons]

theorem addSighting_of_notMem (h : s.path ∉ es.map (·.path)) :
    addSighting s es = es ++ [(SurfaceEndpoint.mk s.path [] s.location [] []).absorb s] := by
  induction es with
  | nil => rfl
  | cons e rest ih =>
    obtain ⟨first, others⟩ := List.ne_and_not_mem_of_not_mem_cons h
    rw [addSighting, if_neg (mt beq_iff_eq.1 first.symm), ih others, List.cons_append]

/-- Where the paths are different, one endpoint absorbs a sighting of its path, and the others
stay. -/
theorem of_mem_addSighting (distinct : (es.map (·.path)).Nodup) (h : s.path ∈ es.map (·.path))
    (he : e ∈ addSighting s es) :
    e ∈ es ∧ e.path ≠ s.path ∨ ∃ e' ∈ es, e'.path = s.path ∧ e = e'.absorb s := by
  induction es with
  | nil => cases h
  | cons e₀ rest ih =>
    obtain ⟨first, others⟩ := List.nodup_cons.1 distinct
    rw [addSighting] at he
    by_cases same : e₀.path = s.path
    · rw [if_pos (beq_iff_eq.2 same)] at he
      rcases List.mem_cons.1 he with rfl | he
      · exact .inr ⟨e₀, List.mem_cons_self, same, rfl⟩
      · refine .inl ⟨List.mem_cons_of_mem _ he, fun hp => first ?_⟩
        exact List.mem_map.2 ⟨e, he, hp.trans same.symm⟩
    · rw [if_neg (mt beq_iff_eq.1 same)] at he
      have later := (List.mem_cons.1 h).resolve_left fun hs => same hs.symm
      rcases List.mem_cons.1 he with rfl | he
      · exact .inl ⟨List.mem_cons_self, same⟩
      · rcases ih others later he with ⟨he, hp⟩ | ⟨e', he', hp⟩
        · exact .inl ⟨List.mem_cons_of_mem _ he, hp⟩
        · exact .inr ⟨e', List.mem_cons_of_mem _ he', hp⟩

theorem endpointsOf_concat (ss : List Sighting) (s : Sighting) :
    endpointsOf (ss ++ [s]) = addSighting s (endpointsOf ss) := by
  rw [endpointsOf, List.foldl_append]
  rfl

/-- The paths of the endpoints, in order of first sighting. -/
theorem paths_endpointsOf (ss : List Sighting) :
    (endpointsOf ss).map (·.path) = (ss.map Sighting.path).eraseDups := by
  induction ss using List.reverseRecOn with
  | nil => rfl
  | append_singleton ss s ih =>
    rw [endpointsOf_concat, List.map_append, List.map_singleton]
    have known : s.path ∈ (endpointsOf ss).map (·.path) ↔ s.path ∈ ss.map Sighting.path := by
      rw [ih, List.mem_eraseDups]
    by_cases h : s.path ∈ ss.map Sighting.path
    · rw [paths_addSighting_of_mem (known.2 h), eraseDups_concat_of_mem h, ih]
    · rw [addSighting_of_notMem (mt known.1 h), eraseDups_concat_of_notMem h, List.map_append, ih,
        List.map_singleton, SurfaceEndpoint.absorb_path]

theorem nodup_paths_endpointsOf : ((endpointsOf ss).map (·.path)).Nodup := by
  rw [paths_endpointsOf]
  exact nodup_eraseDups _

/-- The sightings of a path. -/
def sightingsOf (path : String) (ss : List Sighting) : List Sighting :=
  ss.filter fun s => s.path == path

theorem sightingsOf_concat_of_eq (ss : List Sighting) (h : s.path = path) :
    sightingsOf path (ss ++ [s]) = sightingsOf path ss ++ [s] := by
  simp [sightingsOf, h]

theorem sightingsOf_concat_of_ne (ss : List Sighting) (h : s.path ≠ path) :
    sightingsOf path (ss ++ [s]) = sightingsOf path ss := by
  simp [sightingsOf, h]

/-- Each endpoint holds what the sightings of its path show. -/
theorem collects_endpointsOf (he : e ∈ endpointsOf ss) : e.Collects (sightingsOf e.path ss) := by
  induction ss using List.reverseRecOn generalizing e with
  | nil => cases he
  | append_singleton ss s ih =>
    rw [endpointsOf_concat] at he
    by_cases known : s.path ∈ (endpointsOf ss).map (·.path)
    · rcases of_mem_addSighting nodup_paths_endpointsOf known he with ⟨he, hp⟩ | ⟨e', he', hp, rfl⟩
      · rw [sightingsOf_concat_of_ne ss hp.symm]
        exact ih he
      · rw [SurfaceEndpoint.absorb_path, sightingsOf_concat_of_eq ss hp.symm]
        exact (ih he').absorb s
    · rw [addSighting_of_notMem known] at he
      rcases List.mem_append.1 he with he | he
      · have hp : s.path ≠ e.path := fun hp => known (hp ▸ List.mem_map_of_mem he)
        rw [sightingsOf_concat_of_ne ss hp]
        exact ih he
      · obtain rfl := List.mem_singleton.1 he
        have unseen : sightingsOf s.path ss = [] := by
          rw [paths_endpointsOf, List.mem_eraseDups] at known
          exact List.filter_eq_nil_iff.2 fun x hx hxs =>
            known (beq_iff_eq.1 hxs ▸ List.mem_map_of_mem hx)
        rw [SurfaceEndpoint.absorb_path, sightingsOf_concat_of_eq ss rfl, unseen, List.nil_append]
        exact SurfaceEndpoint.collects_new s

/-- An endpoint is known by its path. -/
theorem eq_of_path_eq (hd : (es.map (·.path)).Nodup) {a b : SurfaceEndpoint} (ha : a ∈ es)
    (hb : b ∈ es) (h : a.path = b.path) : a = b :=
  List.inj_on_of_nodup_map hd ha hb h

/-- An endpoint has the methods that were seen with its path. -/
theorem mem_methods_endpointsOf (he : e ∈ endpointsOf ss) :
    m ∈ e.methods ↔
      ∃ s ∈ ss, EndpointPath.normalize s.spelling = e.path ∧ m ∈ s.methods.map (·.1) := by
  rw [(collects_endpointsOf he).tied.mem_methods, List.map_flatMap, List.mem_flatMap]
  simp only [sightingsOf, List.mem_filter, beq_iff_eq, and_assoc, Sighting.path]

/-! ## Methods by line -/

namespace MethodIndex

variable {g : MethodFeature} {gs : List MethodFeature} {index : MethodIndex}
  {file : Option String} {line : Int}

theorem onLine_cons (key : Option String × Int) (gs : List MethodFeature) (rest : MethodIndex) :
    onLine ((key, gs) :: rest) file line =
      if (file, line) = key then gs else rest.onLine file line := by
  unfold onLine
  rw [List.lookup_cons]
  by_cases h : (file, line) = key
  · rw [if_pos h, beq_iff_eq.2 h]
    rfl
  · rw [if_neg h, beq_eq_false_iff_ne.2 h]

theorem onLine_enter_self :
    (enter g index).onLine g.file g.line = index.onLine g.file g.line ++ [g] := by
  induction index with
  | nil => rw [enter, onLine_cons, if_pos rfl]; rfl
  | cons entry rest ih =>
    obtain ⟨key, gs⟩ := entry
    rw [enter, onLine_cons]
    by_cases same : key = (g.file, g.line)
    · rw [if_pos (beq_iff_eq.2 same), onLine_cons, if_pos same.symm, if_pos same.symm]
    · rw [if_neg (mt beq_iff_eq.1 same), onLine_cons, if_neg (Ne.symm same), if_neg (Ne.symm same),
        ih]

theorem onLine_enter_of_ne (h : (file, line) ≠ (g.file, g.line)) :
    (enter g index).onLine file line = index.onLine file line := by
  induction index with
  | nil => rw [enter, onLine_cons, if_neg h]
  | cons entry rest ih =>
    obtain ⟨key, gs⟩ := entry
    rw [enter, onLine_cons]
    by_cases same : key = (g.file, g.line)
    · rw [if_pos (beq_iff_eq.2 same), onLine_cons, same, if_neg h, if_neg h]
    · rw [if_neg (mt beq_iff_eq.1 same), onLine_cons, ih]

/-- The index has on a line what was entered for it, in order. -/
theorem onLine_ofMethods (gs : List MethodFeature) : (ofMethods gs).onLine file line =
    gs.filter fun g => (file, line) = (g.file, g.line) := by
  induction gs using List.reverseRecOn with
  | nil => rfl
  | append_singleton gs g ih =>
    have last : ofMethods (gs ++ [g]) = enter g (ofMethods gs) := by
      rw [ofMethods, List.foldl_append]
      rfl
    rw [last, List.filter_append]
    by_cases h : (file, line) = (g.file, g.line)
    · obtain ⟨rfl, rfl⟩ := Prod.mk.inj h
      rw [onLine_enter_self, ih]
      simp
    · have other : [g].filter (fun g => (file, line) = (g.file, g.line)) = [] := by simpa using h
      rw [onLine_enter_of_ne h, ih, other, List.append_nil]

theorem mem_onLine_ofMethods :
    g ∈ (ofMethods gs).onLine file line ↔ g ∈ gs ∧ g.file = file ∧ g.line = line := by
  rw [onLine_ofMethods, List.mem_filter, decide_eq_true_iff, Prod.mk.injEq, eq_comm (a := file),
    eq_comm (a := line)]

end MethodIndex

/-! ## Surfaces of code -/

namespace Surface

variable {label : String} {features : FeatureSet} {window : Int}

/-- The paths of a surface are those of its features, whatever methods these show. -/
theorem paths_ofFeatures : (ofFeatures label features window).paths =
    (features.endpoints.map fun f => EndpointPath.normalize f.path).eraseDups := by
  rw [paths, ofFeatures, paths_endpointsOf, List.map_map]
  rfl

theorem mem_paths_ofFeatures : path ∈ (ofFeatures label features window).paths ↔
    ∃ e ∈ features.endpoints, EndpointPath.normalize e.path = path := by
  rw [paths_ofFeatures, List.mem_eraseDups, List.mem_map]

theorem nodup_paths_ofFeatures : (ofFeatures label features window).paths.Nodup :=
  nodup_paths_endpointsOf

/-- A method feature belongs to an endpoint feature if it is on the same line of the same file, or,
when the rule of configuration fields found it, at most a window below.  Nothing belongs to an
endpoint feature if the window is negative. -/
def Belongs (window : Int) (f : EndpointFeature) (g : MethodFeature) : Prop :=
  0 ≤ window ∧ g.file = f.file ∧
    (g.line = f.line ∨ f.line < g.line ∧ g.line ≤ f.line + window ∧ g.rule = some trailingRule)

variable {f : EndpointFeature} {g : MethodFeature} {gs : List MethodFeature}

theorem mem_methodsNear_iff :
    g ∈ methodsNear (.ofMethods gs) window f ↔ g ∈ gs ∧ Belongs window f g := by
  simp only [methodsNear, List.mem_flatMap, List.mem_range, List.mem_filter,
    MethodIndex.mem_onLine_ofMethods, Bool.or_eq_true, beq_iff_eq]
  constructor
  · rintro ⟨offset, bound, ⟨mem, file, line⟩, rule⟩
    refine ⟨mem, by omega, file, ?_⟩
    rcases Nat.eq_zero_or_pos offset with rfl | below
    · exact .inl (by omega)
    · exact .inr ⟨by omega, by omega, rule.resolve_left (Nat.ne_of_gt below)⟩
  · rintro ⟨mem, window, file, line | ⟨below, near, rule⟩⟩
    · exact ⟨0, by omega, ⟨mem, file, by omega⟩, .inl rfl⟩
    · exact ⟨(g.line - f.line).toNat, by omega, ⟨mem, file, by omega⟩, .inr rule⟩

/-- The endpoint features with a path. -/
def featuresOf (path : String) (features : FeatureSet) : List EndpointFeature :=
  features.endpoints.filter fun f => EndpointPath.normalize f.path == path

theorem sightingsOf_map_sighting (index : MethodIndex) :
    sightingsOf path (features.endpoints.map (sighting label index window)) =
      (featuresOf path features).map (sighting label index window) :=
  List.filter_map

/-- The endpoints of a surface have the paths of the endpoint features, in order of first sighting.
Each is where the first feature with its path is, has the spellings of these features, and the
methods that belong to them. -/
theorem endpoints_ofFeatures (label : String) (features : FeatureSet) (window : Int) :
    (ofFeatures label features window).paths =
      (features.endpoints.map fun f => EndpointPath.normalize f.path).eraseDups ∧
    (ofFeatures label features window).paths.Nodup ∧
    ∀ e ∈ (ofFeatures label features window).endpoints,
      (∃ first, (featuresOf e.path features).head? = some first ∧
        e.location = some ⟨some label, first.file, some first.line⟩) ∧
      e.spellings = ((featuresOf e.path features).map (·.path)).eraseDups ∧
      e.methods.Nodup ∧ e.methodLines.map (·.1) = e.methods ∧
      ∀ m, m ∈ e.methods ↔
        ∃ f ∈ featuresOf e.path features, ∃ g ∈ features.methods,
          Belongs window f g ∧ g.method = m := by
  refine ⟨paths_ofFeatures, nodup_paths_ofFeatures, fun e he => ?_⟩
  have collects := collects_endpointsOf he
  rw [sightingsOf_map_sighting] at collects
  refine ⟨?_, ?_, ?_, ?_, fun m => ?_⟩
  · obtain ⟨s, hs, location⟩ := Option.map_eq_some_iff.1 collects.location
    rw [List.head?_map] at hs
    obtain ⟨first, hf, rfl⟩ := Option.map_eq_some_iff.1 hs
    exact ⟨first, hf, location.symm⟩
  · rw [collects.spellings, List.map_map]
    rfl
  · rw [collects.tied.methods]
    exact nodup_eraseDups _
  · rw [collects.tied.methodLines, List.map_map]
    exact List.map_id' _
  · rw [collects.tied.mem_methods, List.flatMap_map, List.map_flatMap, List.mem_flatMap]
    simp only [sighting, List.map_map, List.mem_map, mem_methodsNear_iff, Function.comp_apply,
      and_assoc]

/-- What stands on the same line of another file does not belong to an endpoint. -/
example : (ofFeatures "web" ⟨[⟨"/a", 1, "", none, some "a.ts"⟩],
    [⟨"GET", 1, "", none, some "a.ts"⟩, ⟨"PUT", 1, "", none, some "b.ts"⟩], [], []⟩ 3).endpoints.map
      (·.methods) = [["GET"]] := by
  decide

/-- The surfaces that are built: those of code and those of specifications. -/
inductive Built : Surface → Prop
  | code (label : String) (features : FeatureSet) (window : Int) :
    Built (ofFeatures label features window)
  | spec (label : String) (spec : Spec) : Built (ofSpec label spec)

/-- An endpoint of a surface that is built lists a method once. -/
theorem Built.nodup_methods {s : Surface} (h : s.Built) (he : e ∈ s.endpoints) :
    e.methods.Nodup := by
  cases h with
  | code =>
    rw [(collects_endpointsOf he).tied.methods]
    exact nodup_eraseDups _
  | spec =>
    rw [(collects_endpointsOf he).tied.methods]
    exact nodup_eraseDups _

/-- The side declares a parameter: code anywhere, a specification for one of its operations. -/
def Declares (s : Surface) (name : String) : Prop :=
  match s.spec with
  | some spec => ∃ op ∈ spec.operations, ∃ p ∈ op.parameters, p.name = name
  | none => ∃ p ∈ s.parameters, p.name = name

theorem mem_parameterNames_iff {s : Surface} {name : String} :
    name ∈ s.parameterNames ↔ s.Declares name := by
  unfold parameterNames Declares
  cases s.spec with
  | some spec => simp only [List.mem_eraseDups, List.mem_flatMap, List.mem_map]
  | none => simp only [List.mem_eraseDups, List.mem_map]

end Surface

end ApiAccord
