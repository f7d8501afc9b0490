import ApiAccord.Proofs.Comparison.MethodMismatch
import ApiAccord.Proofs.EndpointPath.Templates
import Mathlib.Data.List.Basic

/-!
# When the comparison of methods is symmetric

A source endpoint is compared with its first equivalent on the target only, so that exchanging the
sides may compare other pairs.  The reports agree in both orders, whatever methods the endpoints
show, exactly if the first equivalents are mutual (`Mutual`); and every method that an equivalent
path lacks is reported in both orders exactly if no path has two equivalents (`Unambiguous`).
-/

namespace ApiAccord

namespace Comparison

open EndpointPath (equivalent_comm)

variable {o : CheckOptions} {A B : Surface} {extra : Option Spec} {degraded : List String}
  {ps qs : List String} {p q m label label' : String} {F F' : FeatureSet} {window : Int}
  {a b : SurfaceEndpoint}

/-! ## First equivalents -/

/-- The first of some paths that is equivalent to a path. -/
def firstEquivalent (paths : List String) (path : String) : Option String :=
  paths.find? fun p => EndpointPath.equivalent p path

/-- Whatever is the first equivalent of a path on the other side has that path as its own. -/
def Mutual (ps qs : List String) : Prop :=
  ∀ p ∈ ps, ∀ q ∈ qs, firstEquivalent qs p = some q ↔ firstEquivalent ps q = some p

instance : Decidable (Mutual ps qs) := by
  unfold Mutual
  infer_instance

/-- Each of the paths `ps` has one equivalent among `qs` at most. -/
def Single (ps qs : List String) : Prop :=
  ∀ p ∈ ps, ∀ q ∈ qs, EndpointPath.equivalent p q → firstEquivalent qs p = some q

/-- No path has two equivalents on the other side. -/
def Unambiguous (ps qs : List String) : Prop := Single ps qs ∧ Single qs ps

theorem Mutual.symm (h : Mutual ps qs) : Mutual qs ps := fun q hq p hp => (h p hp q hq).symm

theorem equivalent_of_firstEquivalent (h : firstEquivalent qs p = some q) :
    q ∈ qs ∧ EndpointPath.equivalent p q = true := by
  refine ⟨List.mem_of_find?_eq_some h, ?_⟩
  rw [equivalent_comm]
  exact List.find?_some (p := fun q => EndpointPath.equivalent q p) h

theorem Unambiguous.mutual (h : Unambiguous ps qs) : Mutual ps qs := by
  intro p hp q hq
  constructor
  · intro hf
    refine h.2 q hq p hp ?_
    rw [equivalent_comm]
    exact (equivalent_of_firstEquivalent hf).2
  · intro hf
    refine h.1 p hp q hq ?_
    rw [equivalent_comm]
    exact (equivalent_of_firstEquivalent hf).2

theorem Unambiguous.symm (h : Unambiguous ps qs) : Unambiguous qs ps := And.symm h

theorem find_path : (A.find q).map (·.path) = firstEquivalent A.paths q := by
  simp only [Surface.find, firstEquivalent, Surface.paths, List.find?_map, Function.comp_def]

theorem find_eq_some_iff (hd : A.paths.Nodup) (ha : a ∈ A.endpoints) :
    A.find q = some a ↔ firstEquivalent A.paths q = some a.path := by
  rw [← find_path]
  constructor
  · intro h
    rw [h]
    rfl
  · intro h
    obtain ⟨a', hf, hp⟩ := Option.map_eq_some_iff.1 h
    rw [hf, eq_of_path_eq hd (List.mem_of_find?_eq_some hf) ha hp]

/-! ## The two properties -/

/-- Both orders of the sides report the same. -/
def Symmetric (o : CheckOptions) (extra : Option Spec) (degraded : List String) (A B : Surface) :
    Prop :=
  ∀ t, t ∈ methodMismatches (compare o A B extra degraded) ↔
    t ∈ methodMismatches (compare o B A extra degraded)

/-- Each method of an endpoint of `A` that an equivalent one of `B` lacks is reported in both
orders. -/
def Reported (o : CheckOptions) (extra : Option Spec) (degraded : List String) (A B : Surface) :
    Prop :=
  ∀ a ∈ A.endpoints, ∀ b ∈ B.endpoints, EndpointPath.equivalent a.path b.path → ∀ m,
    MethodGap a b m →
      (some A.label, some a.path, some m) ∈ methodMismatches (compare o A B extra degraded) ∧
      (some A.label, some a.path, some m) ∈ methodMismatches (compare o B A extra degraded)

/-- On either side, each method that an equivalent endpoint lacks is reported in both orders. -/
def Complete (o : CheckOptions) (extra : Option Spec) (degraded : List String) (A B : Surface) :
    Prop :=
  Reported o extra degraded A B ∧ Reported o extra degraded B A

theorem subset_of_mutual (on : o.includeWarnings = true) (hB : B.paths.Nodup) (hA : A.paths.Nodup)
    (h : Mutual A.paths B.paths) {t : Option String × Option String × Option String}
    (ht : t ∈ methodMismatches (compare o A B extra degraded)) :
    t ∈ methodMismatches (compare o B A extra degraded) := by
  obtain ⟨⟨a, b⟩, hp, m, hm⟩ := (mem_methodMismatches_iff on).1 ht
  obtain ⟨ha, hb⟩ := mem_pairs_iff.1 hp
  have hb' : b ∈ B.endpoints := List.mem_of_find?_eq_some hb
  have back := (h a.path (List.mem_map_of_mem ha) b.path (List.mem_map_of_mem hb')).1
    ((find_eq_some_iff hB hb').1 hb)
  have hp' : (b, a) ∈ pairs B A := mem_pairs_iff.2 ⟨hb', (find_eq_some_iff hA ha).2 back⟩
  exact (mem_methodMismatches_iff on).2 ⟨(b, a), hp', m, hm.symm⟩

theorem symmetric_of_mutual (on : o.includeWarnings = true) (hA : A.paths.Nodup)
    (hB : B.paths.Nodup) (h : Mutual A.paths B.paths) : Symmetric o extra degraded A B :=
  fun _ => ⟨subset_of_mutual on hB hA h, subset_of_mutual on hA hB h.symm⟩

theorem reported_of_unambiguous (on : o.includeWarnings = true) (hA : A.paths.Nodup)
    (hB : B.paths.Nodup) (h : Unambiguous A.paths B.paths) : Reported o extra degraded A B := by
  intro a ha b hb he m hm
  have hpa : a.path ∈ A.paths := List.mem_map_of_mem ha
  have hpb : b.path ∈ B.paths := List.mem_map_of_mem hb
  have hab : (a, b) ∈ pairs A B :=
    mem_pairs_iff.2 ⟨ha, (find_eq_some_iff hB hb).2 (h.1 _ hpa _ hpb he)⟩
  have hba : (b, a) ∈ pairs B A := by
    refine mem_pairs_iff.2 ⟨hb, (find_eq_some_iff hA ha).2 (h.2 _ hpb _ hpa ?_)⟩
    rw [equivalent_comm]
    exact he
  exact ⟨(mem_methodMismatches_iff on).2 ⟨(a, b), hab, m, .inl ⟨hm, rfl⟩⟩,
    (mem_methodMismatches_iff on).2 ⟨(b, a), hba, m, .inr ⟨hm, rfl⟩⟩⟩

/-! ## Features with chosen methods -/

/-- The same paths, each on a line of its own with the method that `f` chooses for it. -/
def probe (F : FeatureSet) (f : String → String) : FeatureSet where
  endpoints := F.endpoints.zipIdx.map fun (e, (i : Nat)) => ⟨e.path, i, "", none, none⟩
  methods := F.endpoints.zipIdx.map fun (e, (i : Nat)) =>
    ⟨f (EndpointPath.normalize e.path), i, "", none, none⟩
  schemas := []
  parameters := []

theorem paths_probe {f : String → String} :
    (Surface.ofFeatures label (probe F f) window).paths =
      (Surface.ofFeatures label F window).paths := by
  rw [Surface.paths_ofFeatures, Surface.paths_ofFeatures]
  congr 1
  simp only [probe, List.map_map]
  calc F.endpoints.zipIdx.map _
      = (F.endpoints.zipIdx.map Prod.fst).map fun e => EndpointPath.normalize e.path := by
        rw [List.map_map]
        rfl
    _ = F.endpoints.map fun e => EndpointPath.normalize e.path := by rw [List.zipIdx_map_fst]

/-- The method on the line of an endpoint is the one chosen for its path. -/
theorem mem_methodsNear_probe {f : String → String} {n : Nat} {e : EndpointFeature}
    (he : e ∈ (probe F f).endpoints) :
    m ∈ (Surface.methodsNear (.ofMethods (probe F f).methods) n e).map (·.method) ↔
      m = f (EndpointPath.normalize e.path) := by
  obtain ⟨⟨e, i⟩, hi, rfl⟩ := List.mem_map.1 he
  rw [List.mk_mem_zipIdx_iff_getElem?] at hi
  simp only [List.mem_map, Surface.mem_methodsNear_iff]
  constructor
  · rintro ⟨x, ⟨hx, -, -, near⟩, rfl⟩
    obtain ⟨⟨e', j⟩, hj, rfl⟩ := List.mem_map.1 hx
    rw [List.mk_mem_zipIdx_iff_getElem?] at hj
    -- Features without a rule count on their own line only.
    obtain rfl : j = i := by
      rcases near with line | ⟨-, -, rule⟩
      · exact Int.ofNat_inj.1 line
      · cases rule
    rw [Option.some.inj (hi.symm.trans hj)]
  · rintro rfl
    refine ⟨⟨f (EndpointPath.normalize e.path), i, "", none, none⟩, ⟨?_, ?_⟩, rfl⟩
    · exact List.mem_map.2 ⟨(e, i), List.mk_mem_zipIdx_iff_getElem?.2 hi, rfl⟩
    · exact ⟨Int.natCast_nonneg n, rfl, .inl rfl⟩

theorem mem_methods_probe {f : String → String} {n : Nat}
    (ha : a ∈ (Surface.ofFeatures label (probe F f) n).endpoints) :
    m ∈ a.methods ↔ m = f a.path := by
  have near : ∀ e ∈ (probe F f).endpoints,
      m ∈ (Surface.sighting label (.ofMethods (probe F f).methods) n e).methods.map (·.1) ↔
        m = f (EndpointPath.normalize e.path) := by
    intro e he
    rw [← mem_methodsNear_probe he, Surface.sighting, List.map_map]
    rfl
  rw [mem_methods_endpointsOf ha]
  constructor
  · rintro ⟨s, hs, hp, hm⟩
    obtain ⟨e, he, rfl⟩ := List.mem_map.1 hs
    rw [← hp]
    exact (near e he).1 hm
  · rintro rfl
    have hp : a.path ∈ (Surface.ofFeatures label (probe F f) n).paths := List.mem_map_of_mem ha
    obtain ⟨e, he, hp⟩ := Surface.mem_paths_ofFeatures.1 hp
    refine ⟨_, List.mem_map_of_mem he, hp, (near e he).2 ?_⟩
    rw [hp]

theorem mem_regularMethods_probe {f : String → String} {n : Nat}
    (hf : ∀ p, HttpMethod.isRegular (f p) = true)
    (ha : a ∈ (Surface.ofFeatures label (probe F f) n).endpoints) :
    m ∈ a.regularMethods ↔ m = f a.path := by
  rw [SurfaceEndpoint.regularMethods, List.mem_filter, mem_methods_probe ha]
  exact ⟨And.left, fun h => ⟨h, h ▸ hf _⟩⟩

/-! ## Methods that tell which pairs are compared -/

/-- Every path with the same method. -/
def getAlways : String → String := fun _ => "GET"

/-- One path with another method than all others. -/
def postAt (q : String) : String → String := fun p => if p = q then "POST" else "GET"

theorem isRegular_getAlways : HttpMethod.isRegular (getAlways p) = true := by
  rw [getAlways]
  decide

theorem isRegular_postAt : HttpMethod.isRegular (postAt q p) = true := by
  rw [postAt]
  split <;> decide

variable {n : Nat} {G G' : FeatureSet}

theorem get_gap_iff (ha : a ∈ (Surface.ofFeatures label (probe F getAlways) n).endpoints)
    (hb : b ∈ (Surface.ofFeatures label' (probe F' (postAt q)) n).endpoints) :
    MethodGap a b "GET" ↔ b.path = q := by
  simp only [MethodGap, mem_regularMethods_probe (fun _ => isRegular_getAlways) ha,
    mem_regularMethods_probe (fun _ => isRegular_postAt) hb]
  constructor
  · rintro ⟨-, hn, -⟩
    by_contra h
    exact hn (if_neg h).symm
  · intro h
    have post : "POST" ∈ b.regularMethods :=
      (mem_regularMethods_probe (fun _ => isRegular_postAt) hb).2 (if_pos h).symm
    refine ⟨rfl, ?_, List.ne_nil_of_mem post⟩
    rw [postAt, if_pos h]
    decide

theorem not_get_gap (ha : a ∈ (Surface.ofFeatures label (probe F getAlways) n).endpoints) :
    ¬ MethodGap b a "GET" := by
  rintro ⟨-, hn, -⟩
  exact hn ((mem_regularMethods_probe (fun _ => isRegular_getAlways) ha).2 rfl)

/-- A path `p` without the method of its pair is reported only if it is paired with `q`. -/
theorem firstEquivalent_of_reported (on : o.includeWarnings = true)
    (h : (some label, some p, some "GET") ∈ methodMismatches
      (compare o (Surface.ofFeatures label (probe F getAlways) n)
        (Surface.ofFeatures label' (probe F' (postAt q)) n) extra degraded)) :
    firstEquivalent (Surface.ofFeatures label' F' n).paths p = some q := by
  obtain ⟨⟨a, b⟩, hp, m, h⟩ := (mem_methodMismatches_iff on).1 h
  obtain ⟨ha, hb⟩ := mem_pairs_iff.1 hp
  have hb' := List.mem_of_find?_eq_some hb
  rcases h with ⟨gap, h⟩ | ⟨gap, h⟩
  · simp only [Prod.mk.injEq, Option.some.injEq] at h
    obtain ⟨-, rfl, rfl⟩ := h
    rw [← (get_gap_iff ha hb').1 gap, ← paths_probe (f := postAt q)]
    exact (find_eq_some_iff Surface.nodup_paths_ofFeatures hb').1 hb
  · simp only [Prod.mk.injEq, Option.some.injEq] at h
    obtain ⟨-, -, rfl⟩ := h
    exact absurd gap (not_get_gap ha)

theorem firstEquivalent_of_reported_swap (on : o.includeWarnings = true)
    (h : (some label, some p, some "GET") ∈ methodMismatches
      (compare o (Surface.ofFeatures label' (probe F' (postAt q)) n)
        (Surface.ofFeatures label (probe F getAlways) n) extra degraded)) :
    firstEquivalent (Surface.ofFeatures label F n).paths q = some p := by
  obtain ⟨⟨b, a⟩, hp, m, h⟩ := (mem_methodMismatches_iff on).1 h
  obtain ⟨hb, ha⟩ := mem_pairs_iff.1 hp
  have ha' := List.mem_of_find?_eq_some ha
  rcases h with ⟨gap, h⟩ | ⟨gap, h⟩
  · simp only [Prod.mk.injEq, Option.some.injEq] at h
    obtain ⟨-, -, rfl⟩ := h
    exact absurd gap (not_get_gap ha')
  · simp only [Prod.mk.injEq, Option.some.injEq] at h
    obtain ⟨-, rfl, rfl⟩ := h
    rw [← (get_gap_iff ha' hb).1 gap, ← paths_probe (f := getAlways)]
    exact (find_eq_some_iff Surface.nodup_paths_ofFeatures ha').1 ha

theorem exists_endpoint_of_mem_paths (hp : p ∈ A.paths) : ∃ a ∈ A.endpoints, a.path = p :=
  List.mem_map.1 hp

theorem mutual_of_symmetric (on : o.includeWarnings = true)
    (hp : p ∈ (Surface.ofFeatures label F n).paths)
    (hq : q ∈ (Surface.ofFeatures label' F' n).paths)
    (h : Symmetric o extra degraded (Surface.ofFeatures label (probe F getAlways) n)
      (Surface.ofFeatures label' (probe F' (postAt q)) n))
    (hf : firstEquivalent (Surface.ofFeatures label' F' n).paths p = some q) :
    firstEquivalent (Surface.ofFeatures label F n).paths q = some p := by
  rw [← paths_probe (f := getAlways)] at hp
  rw [← paths_probe (f := postAt q)] at hq hf
  obtain ⟨a, ha, rfl⟩ := exists_endpoint_of_mem_paths hp
  obtain ⟨b, hb, rfl⟩ := exists_endpoint_of_mem_paths hq
  have pair := mem_pairs_iff.2 ⟨ha, (find_eq_some_iff Surface.nodup_paths_ofFeatures hb).2 hf⟩
  have gap := (get_gap_iff ha hb).2 rfl
  exact firstEquivalent_of_reported_swap on
    ((h _).1 ((mem_methodMismatches_iff on).2 ⟨(a, b), pair, "GET", .inl ⟨gap, rfl⟩⟩))

theorem single_of_reported (on : o.includeWarnings = true)
    (h : ∀ q, Reported o extra degraded (Surface.ofFeatures label (probe F getAlways) n)
      (Surface.ofFeatures label' (probe F' (postAt q)) n)) :
    Single (Surface.ofFeatures label F n).paths (Surface.ofFeatures label' F' n).paths := by
  intro p hp q hq he
  rw [← paths_probe (f := getAlways)] at hp
  rw [← paths_probe (f := postAt q)] at hq
  obtain ⟨a, ha, rfl⟩ := exists_endpoint_of_mem_paths hp
  obtain ⟨b, hb, rfl⟩ := exists_endpoint_of_mem_paths hq
  have gap := (get_gap_iff ha hb).2 rfl
  exact firstEquivalent_of_reported on (h b.path a ha b hb he "GET" gap).1

/-! ## Windows that let no method in -/

theorem not_mem_methods_of_neg (hw : window < 0)
    (ha : a ∈ (Surface.ofFeatures label F window).endpoints) : m ∉ a.methods := by
  intro hm
  obtain ⟨s, hs, -, hm⟩ := (mem_methods_endpointsOf ha).1 hm
  obtain ⟨e, -, rfl⟩ := List.mem_map.1 hs
  have none : (window + 1).toNat = 0 := by omega
  simp [Surface.sighting, Surface.methodsNear, none] at hm

theorem not_methodGap_of_neg (hw : window < 0)
    (ha : a ∈ (Surface.ofFeatures label F window).endpoints) : ¬ MethodGap a b m := by
  rintro ⟨hm, -⟩
  exact not_mem_methods_of_neg hw ha (List.mem_filter.1 hm).1

theorem not_mem_methodMismatches_of_neg (on : o.includeWarnings = true) (hw : window < 0)
    {t : Option String × Option String × Option String} :
    t ∉ methodMismatches (compare o (Surface.ofFeatures label F window)
      (Surface.ofFeatures label' F' window) extra degraded) := by
  intro h
  obtain ⟨⟨a, b⟩, hp, m, h⟩ := (mem_methodMismatches_iff on).1 h
  obtain ⟨ha, hb⟩ := mem_pairs_iff.1 hp
  rcases h with ⟨gap, -⟩ | ⟨gap, -⟩
  · exact not_methodGap_of_neg hw ha gap
  · exact not_methodGap_of_neg hw (List.mem_of_find?_eq_some hb) gap

theorem symmetric_and_complete_of_neg (on : o.includeWarnings = true) (hw : window < 0) :
    Symmetric o extra degraded (Surface.ofFeatures label F window)
        (Surface.ofFeatures label' F' window) ∧
      Complete o extra degraded (Surface.ofFeatures label F window)
        (Surface.ofFeatures label' F' window) := by
  refine ⟨fun t => ?_, fun a ha b _ _ m gap => ?_, fun b hb a _ _ m gap => ?_⟩
  · exact iff_of_false (not_mem_methodMismatches_of_neg on hw)
      (not_mem_methodMismatches_of_neg on hw)
  · exact absurd gap (not_methodGap_of_neg hw ha)
  · exact absurd gap (not_methodGap_of_neg hw hb)

/-! ## When the law holds -/

/-- Code with the paths of `F` is compared with code with those of `F'` alike in both orders,
whatever methods these show, exactly if first equivalents are mutual; and every method that an
equivalent path lacks is reported, in both orders, exactly if no path has two equivalents.  A
negative window lets no method in. -/
theorem symmetric_iff_mutual (o : CheckOptions) (on : o.includeWarnings = true)
    (extra : Option Spec) (degraded : List String) (label label' : String) (F F' : FeatureSet)
    (window : Int) :
    ((∀ G G',
        (Surface.ofFeatures label G window).paths = (Surface.ofFeatures label F window).paths →
        (Surface.ofFeatures label' G' window).paths = (Surface.ofFeatures label' F' window).paths →
        Symmetric o extra degraded (Surface.ofFeatures label G window)
          (Surface.ofFeatures label' G' window)) ↔
      window < 0 ∨
        Mutual (Surface.ofFeatures label F window).paths
          (Surface.ofFeatures label' F' window).paths) ∧
    ((∀ G G',
        (Surface.ofFeatures label G window).paths = (Surface.ofFeatures label F window).paths →
        (Surface.ofFeatures label' G' window).paths = (Surface.ofFeatures label' F' window).paths →
        Symmetric o extra degraded (Surface.ofFeatures label G window)
            (Surface.ofFeatures label' G' window) ∧
          Complete o extra degraded (Surface.ofFeatures label G window)
            (Surface.ofFeatures label' G' window)) ↔
      window < 0 ∨
        Unambiguous (Surface.ofFeatures label F window).paths
          (Surface.ofFeatures label' F' window).paths) := by
  refine ⟨⟨fun h => ?_, ?_⟩, ⟨fun h => ?_, ?_⟩⟩
  · by_cases hw : window < 0
    · exact .inl hw
    · obtain ⟨n, rfl⟩ := Int.eq_ofNat_of_zero_le (Int.not_lt.1 hw)
      refine .inr fun p hp q hq => ⟨fun hf => ?_, fun hf => ?_⟩
      · exact mutual_of_symmetric on hp hq (h _ _ paths_probe paths_probe) hf
      · have swapped := h (probe F (postAt p)) (probe F' getAlways) paths_probe paths_probe
        exact mutual_of_symmetric on hq hp (fun t => (swapped t).symm) hf
  · rintro (hw | hm) G G' hG hG'
    · exact (symmetric_and_complete_of_neg on hw).1
    · rw [← hG, ← hG'] at hm
      exact symmetric_of_mutual on Surface.nodup_paths_ofFeatures Surface.nodup_paths_ofFeatures hm
  · by_cases hw : window < 0
    · exact .inl hw
    · obtain ⟨n, rfl⟩ := Int.eq_ofNat_of_zero_le (Int.not_lt.1 hw)
      refine .inr ⟨?_, ?_⟩
      · exact single_of_reported on fun q => (h _ _ paths_probe paths_probe).2.1
      · exact single_of_reported on fun q => (h _ _ paths_probe paths_probe).2.2
  · rintro (hw | hu) G G' hG hG'
    · exact symmetric_and_complete_of_neg on hw
    · rw [← hG, ← hG'] at hu
      have hA : (Surface.ofFeatures label G window).paths.Nodup := Surface.nodup_paths_ofFeatures
      have hB : (Surface.ofFeatures label' G' window).paths.Nodup := Surface.nodup_paths_ofFeatures
      exact ⟨symmetric_of_mutual on hA hB hu.mutual, reported_of_unambiguous on hA hB hu,
        reported_of_unambiguous on hB hA hu.symm⟩

/-! ## A template with two equivalents -/

/-- One side uses the template `/u/{id}`. -/
def templateFeatures : FeatureSet where
  endpoints := [⟨"/u/\x7bid\x7d", 1, "", none, none⟩]
  methods := [⟨"GET", 1, "", none, none⟩]
  schemas := []
  parameters := []

/-- The other side uses two paths that the template matches, with different methods. -/
def concreteFeatures : FeatureSet where
  endpoints := [⟨"/u/1", 1, "", none, none⟩, ⟨"/u/2", 2, "", none, none⟩]
  methods := [⟨"GET", 1, "", none, none⟩, ⟨"POST", 2, "", none, none⟩]
  schemas := []
  parameters := []

def templateSide : Surface := .ofFeatures "web" templateFeatures Surface.defaultWindow

def concreteSide : Surface := .ofFeatures "api" concreteFeatures Surface.defaultWindow

/-- Exchanging the sides does not keep the reports apart from the order, whatever the methods. -/
theorem not_symmetric_of_template :
    CheckOptions.default.includeWarnings = true ∧
    ¬ ∀ G G', (Surface.ofFeatures "web" G Surface.defaultWindow).paths = templateSide.paths →
      (Surface.ofFeatures "api" G' Surface.defaultWindow).paths = concreteSide.paths →
        Symmetric .default none [] (Surface.ofFeatures "web" G Surface.defaultWindow)
          (Surface.ofFeatures "api" G' Surface.defaultWindow) := by
  refine ⟨rfl, fun h => ?_⟩
  have law := (symmetric_iff_mutual .default rfl none [] "web" "api" templateFeatures
    concreteFeatures Surface.defaultWindow).1.1 h
  exact absurd law (by decide)

/-- `POST /u/2` is reported only if the side that has it comes first. -/
theorem mismatch_lost_of_template :
    (some "api", some "/u/2", some "POST") ∈
      methodMismatches (compare .default concreteSide templateSide none []) ∧
    (some "api", some "/u/2", some "POST") ∉
      methodMismatches (compare .default templateSide concreteSide none []) := by
  have on : CheckOptions.default.includeWarnings = true := rfl
  constructor
  · rw [mem_methodMismatches_iff on]
    refine ⟨(⟨"/u/2", ["POST"], some ⟨some "api", none, some 2⟩, [("POST", some 2)], ["/u/2"]⟩,
      ⟨"/u/\x7bid\x7d", ["GET"], some ⟨some "web", none, some 1⟩, [("GET", some 1)],
        ["/u/\x7bid\x7d"]⟩),
      by decide, "POST", .inl ⟨⟨by decide, by decide, by decide⟩, rfl⟩⟩
  · rw [mem_methodMismatches_iff on]
    rintro ⟨p, hp, m, h⟩
    have pairs : pairs templateSide concreteSide =
        [(⟨"/u/\x7bid\x7d", ["GET"], some ⟨some "web", none, some 1⟩, [("GET", some 1)],
          ["/u/\x7bid\x7d"]⟩,
          ⟨"/u/1", ["GET"], some ⟨some "api", none, some 1⟩, [("GET", some 1)], ["/u/1"]⟩)] := by
      decide
    rw [pairs, List.mem_singleton] at hp
    subst hp
    rcases h with ⟨-, h⟩ | ⟨-, h⟩
    · simp only [Prod.mk.injEq, Option.some.injEq] at h
      exact absurd h.2.1 (by decide)
    · simp only [Prod.mk.injEq, Option.some.injEq] at h
      exact absurd h.2.1 (by decide)

end Comparison

end ApiAccord
