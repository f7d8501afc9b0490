import ApiAccord.Extraction
import ApiAccord.Proofs.Correspondence
import ApiAccord.Proofs.Feature.JoinedPaths
import Mathlib.Data.List.TakeWhile

/-!
# Rooted paths

An endpoint is a path if it begins with a slash.  Patterns take nothing else for an endpoint
(`startsWith_of_mem_endpoints`), nor do the calls of an HTTP client in a program
(`isRooted_of_used?`).  The routes that decorators declare are taken as they are written: such a
path begins with what its router begins with, or with its own text where there is no path above it
(`isRooted_routePath`).  So all endpoints are paths exactly if these texts are
(`endpoints_rooted_iff`).
-/

namespace ApiAccord

/-! ## Endpoints by pattern -/

namespace Matching

theorem mem_of_mem_dedupBy {α κ : Type} [BEq κ] {key : α → κ} {seen : List κ} {xs : List α} {x : α}
    (h : x ∈ dedupBy key seen xs) : x ∈ xs := by
  induction xs generalizing seen with
  | nil => cases h
  | cons y rest ih =>
    rw [dedupBy] at h
    split at h
    · exact List.mem_cons_of_mem _ (ih h)
    · rcases List.mem_cons.1 h with rfl | h
      · exact List.mem_cons_self
      · exact List.mem_cons_of_mem _ (ih h)

theorem startsWith_of_mem_endpointSites {text : Array Char} {p : Pattern} {s : Site}
    (h : s ∈ endpointSites text p) : Text.startsWith "/" s.value = true := by
  obtain ⟨m, -, h⟩ := List.mem_filterMap.1 h
  obtain ⟨found, -, h⟩ := Option.bind_eq_some_iff.1 h
  dsimp only at h
  split at h
  · next hs => exact Option.some.inj h ▸ hs
  · cases h

/-- What a pattern shows is taken for an endpoint only if it begins with a slash. -/
theorem startsWith_of_mem_endpoints {cfg : ExtractionConfig} {text : Array Char}
    {e : EndpointFeature} (h : e ∈ endpoints cfg text) : Text.startsWith "/" e.path = true := by
  obtain ⟨rule, -, h⟩ := List.mem_flatMap.1 h
  obtain ⟨s, hs, rfl⟩ := List.mem_map.1 h
  obtain ⟨p, -, hs⟩ := List.mem_flatMap.1 (mem_of_mem_dedupBy hs)
  exact startsWith_of_mem_endpointSites hs

end Matching

namespace Script

variable {router path codes : Codes} {routers : Routers} {c : Call} {r : Route}
  {sites : List Site}

/-! ## How a path below a router begins -/

theorem head?_collapseSlashes (path : Codes) : (collapseSlashes path).head? = path.head? := by
  fun_induction collapseSlashes path with
  | case1 path _ ih => rw [ih, head?_halveSlashes]
  | case2 => rfl

theorem isRooted_joinPaths (router path : Codes) :
    isRooted (joinPaths router path) = isRooted (if router.isEmpty then path else router) := by
  unfold joinPaths
  split
  · rfl
  · next hne =>
    -- The router is what is left of it, and the slashes taken off its end.
    have whole : (router.reverse.dropWhile (· == slash)).reverse ++
        (router.reverse.takeWhile (· == slash)).reverse = router := by
      rw [← List.reverse_append, List.takeWhile_append_dropWhile, List.reverse_reverse]
    have slashes : ∀ a ∈ (router.reverse.takeWhile (· == slash)).reverse, a = slash := by
      intro a ha
      exact beq_iff_eq.1 (List.mem_takeWhile_imp (p := (· == slash)) (List.mem_reverse.1 ha))
    generalize (router.reverse.dropWhile (· == slash)).reverse = kept at whole
    generalize (router.reverse.takeWhile (· == slash)).reverse = trailing at whole slashes
    subst whole
    cases kept with
    | cons a rest => rfl
    | nil =>
      cases trailing with
      | nil => exact absurd rfl hne
      | cons a rest =>
        obtain rfl := slashes a List.mem_cons_self
        rfl

/-- A path below a router begins as the router does, or as itself if the router has no path. -/
theorem isRooted_routePath (router path : Codes) :
    isRooted (routePath router path) = isRooted (if router.isEmpty then path else router) := by
  rw [← isRooted_joinPaths, isRooted, routePath, head?_collapseSlashes, isRooted]

/-! ## Texts of code points -/

theorem ofNat_eq_slash_iff {n : Nat} (h : n.isValidChar) : Char.ofNat n = '/' ↔ n = slash := by
  have back : (Char.ofNat n).toNat = n := by
    rw [Char.ofNat, dif_pos h]
    rfl
  constructor
  · exact fun he => back.symm.trans (congrArg Char.toNat he)
  · rintro rfl
    rfl

/-- A text begins with a slash if its code points do. -/
theorem startsWith_text? {s : String} (h : codes.text? = some s) :
    Text.startsWith "/" s = isRooted codes := by
  unfold Codes.text? at h
  split at h
  · next valid =>
    obtain rfl := Option.some.inj h
    rw [Text.startsWith, String.toList_ofList]
    cases codes with
    | nil => rfl
    | cons n rest =>
      have hn := of_decide_eq_true (List.all_eq_true.1 valid n List.mem_cons_self)
      rw [Bool.eq_iff_iff]
      simp [isRooted, List.isPrefixOf, eq_comm (a := '/'), ofNat_eq_slash_iff hn]
  · cases h

/-! ## Routes -/

/-- The text with which the path of a declared route begins: the path of its router, or its own if
there is none above it. -/
def Call.lead? (routers : Routers) (c : Call) : Option Codes :=
  match c.function, c.arguments.head?.bind Expr.codes? with
  | .attribute router attr, some path =>
    if verbNames.contains attr || attr == "route" || attr == "api_route" then
      some (if (routers.pathOf router).isEmpty then path else routers.pathOf router)
    else none
  | _, _ => none

/-- All that decorators of functions declare to be routes begins with a slash. -/
def DeclaresRooted (sites : List Site) : Prop :=
  ∀ c, .decorator c ∈ sites → ∀ lead, c.lead? (Routers.ofSites sites) = some lead →
    isRooted lead = true

theorem isRooted_declared? (routers : Routers) (c : Call) :
    (c.declared? routers).map (fun r => isRooted r.path) = (c.lead? routers).map isRooted := by
  obtain ⟨function, arguments, keywords, span⟩ := c
  unfold Call.declared? Call.lead?
  cases function <;> try rfl
  next router attr =>
  cases arguments.head?.bind Expr.codes? with
  | none => rfl
  | some path =>
    dsimp only
    by_cases verb : verbNames.contains attr = true
    · simp only [verb, Bool.true_or, if_true, Option.map_some, isRooted_routePath]
    · by_cases route : (attr == "route" || attr == "api_route") = true
      · simp only [verb, Bool.false_or, route, if_true, Bool.false_eq_true, if_false,
          Option.map_some, isRooted_routePath]
      · simp only [verb, Bool.false_or, route, Bool.false_eq_true, if_false, Option.map_none]

/-- A call of a client is a route only if its path begins with a slash. -/
theorem isRooted_of_used? (h : c.used? = some r) : isRooted r.path = true := by
  have made {path method : Codes}
      (h : (if isRooted path then some (Route.mk path [method] c.span "client-call") else none) =
        some r) : isRooted r.path = true := by
    split at h
    · next hp => exact Option.some.inj h ▸ hp
    · cases h
  unfold Call.used? at h
  dsimp only at h
  split at h
  · split at h
    · obtain ⟨path, -, h⟩ := Option.bind_eq_some_iff.1 h
      exact made h
    · split at h
      · obtain ⟨verb, -, h⟩ := Option.bind_eq_some_iff.1 h
        obtain ⟨path, -, h⟩ := Option.bind_eq_some_iff.1 h
        obtain ⟨name, -, h⟩ := Option.bind_eq_some_iff.1 h
        split at h
        · exact made h
        · cases h
      · cases h
  · cases h

theorem mem_routes_iff :
    r ∈ routes sites ↔ ∃ s ∈ sites, s.route? (Routers.ofSites sites) = some r := by
  rw [routes, List.mem_mergeSort, List.mem_append, ← List.mem_partition, List.mem_filterMap]

/-- The routes of a program are rooted exactly if what decorators declare is. -/
theorem routes_rooted_iff :
    (∀ r ∈ routes sites, isRooted r.path = true) ↔ DeclaresRooted sites := by
  constructor
  · intro h c hc lead hl
    have same := isRooted_declared? (Routers.ofSites sites) c
    rw [hl] at same
    obtain ⟨r, declared, rooted⟩ := Option.map_eq_some_iff.1 same
    have found : r ∈ routes sites :=
      mem_routes_iff.2 ⟨_, hc, Option.or_eq_some_iff.2 (.inl declared)⟩
    exact rooted.symm.trans (h r found)
  · intro h r hr
    obtain ⟨s, hs, found⟩ := mem_routes_iff.1 hr
    cases s with
    | decorator c =>
      rcases Option.or_eq_some_iff.1 found with declared | ⟨-, used⟩
      · have same := isRooted_declared? (Routers.ofSites sites) c
        rw [declared] at same
        obtain ⟨lead, hl, rooted⟩ := Option.map_eq_some_iff.1 same.symm
        exact rooted.symm.trans (h c hs lead hl)
      · exact isRooted_of_used? used
    | call c => exact isRooted_of_used? found
    | _ => cases found

/-- The endpoints of a program are rooted exactly if what decorators declare is. -/
theorem featuresOf_rooted_iff {program : Program} {lines : Array (List Char)} {fs : FeatureSet}
    (h : featuresOf program lines = .ok fs) :
    (∀ e ∈ fs.endpoints, Text.startsWith "/" e.path = true) ↔
      DeclaresRooted (Program.sites program) := by
  obtain ⟨endpoints, he, h⟩ := bind_eq_ok_iff.1 h
  obtain ⟨methods, -, h⟩ := bind_eq_ok_iff.1 h
  obtain ⟨parameters, -, h⟩ := bind_eq_ok_iff.1 h
  obtain rfl := Except.ok.inj h
  rw [← routes_rooted_iff]
  -- The endpoints are the routes, in order, with their paths written out.
  have each : List.Forall₂ (fun r e => Text.startsWith "/" e.path = isRooted r.path)
      (routes (Program.sites program)) endpoints := by
    refine (forall₂_of_mapM he).imp fun r e hre => ?_
    obtain ⟨path, hp, hre⟩ := bind_eq_ok_iff.1 hre
    obtain rfl := Except.ok.inj hre
    unfold Codes.textOrRefuse at hp
    split at hp
    · next s hs => exact Except.ok.inj hp ▸ startsWith_text? hs
    · cases hp
  constructor
  · intro h r hr
    obtain ⟨e, he, same⟩ := exists_of_forall₂_of_mem_left each hr
    exact same ▸ h e he
  · intro h e he
    obtain ⟨r, hr, same⟩ := exists_of_forall₂_of_mem_left each.flip he
    exact same ▸ h r hr

end Script

/-! ## Both ways to find endpoints -/

open Script

/-- Whatever is found in a text, all endpoints begin with a slash, unless the text is read as a
program some decorator of which declares a route that does not, by its own text or by the path of
its router. -/
theorem endpoints_rooted_iff (x : Extractor) (cfg : ExtractionConfig) (text : String)
    (fs : FeatureSet) (found : x.features cfg text = .ok fs) :
    (∀ e ∈ fs.endpoints, Text.startsWith "/" e.path = true) ↔
      (x = .syntaxTree → ∀ program, Program.ofText? text.toList = some program →
        DeclaresRooted (Program.sites program)) := by
  cases x with
  | patterns =>
    obtain rfl := Except.ok.inj found
    exact ⟨fun _ h => (by cases h), fun _ e he => Matching.startsWith_of_mem_endpoints he⟩
  | syntaxTree =>
    have found : Script.features text = .ok fs := found
    unfold Script.features at found
    split at found
    · cases found
    · next program parses =>
      rw [featuresOf_rooted_iff found]
      constructor
      · intro h _ program' parses'
        obtain rfl := Option.some.inj (parses.symm.trans parses')
        exact h
      · exact fun h => h rfl program parses

/-- Texts whose endpoints are known have features. -/
theorem exists_features_of_paths {x : Extractor} {cfg : ExtractionConfig} {text : String}
    {paths : List String}
    (h : (x.features cfg text).toOption.map (fun fs => fs.endpoints.map (·.path)) = some paths) :
    ∃ fs, x.features cfg text = .ok fs ∧ fs.endpoints.map (·.path) = paths := by
  cases found : x.features cfg text with
  | error e => rw [found] at h; cases h
  | ok fs => rw [found] at h; exact ⟨fs, rfl, Option.some.inj h⟩

/-- A route without a text of its own begins as its router does. -/
theorem endpoints_rooted_of_router :
    let text := "router = APIRouter(prefix='/users')\n@router.get('')\ndef users():\n    pass\n"
    ∃ fs, Extractor.syntaxTree.features .default text = .ok fs ∧
      fs.endpoints.map (·.path) = ["/users/"] ∧
      ∀ program, Program.ofText? text.toList = some program →
        DeclaresRooted (Program.sites program) := by
  intro text
  obtain ⟨fs, found, paths⟩ : ∃ fs, Extractor.syntaxTree.features .default text = .ok fs ∧
      fs.endpoints.map (·.path) = ["/users/"] := exists_features_of_paths (by decide +kernel)
  refine ⟨fs, found, paths, (endpoints_rooted_iff _ _ _ fs found).1 (fun e he => ?_) rfl⟩
  have path : e.path ∈ fs.endpoints.map (·.path) := List.mem_map.2 ⟨e, he, rfl⟩
  rw [paths, List.mem_singleton] at path
  rw [path]
  rfl

/-- A decorator that declares no route may have the name of a method.  Its text is then taken for an
endpoint, whatever it begins with. -/
theorem exists_unrooted_of_patch :
    ∃ fs, Extractor.syntaxTree.features .default
        "@mock.patch('app.db')\ndef test():\n    pass\n" = .ok fs ∧
      ∃ e ∈ fs.endpoints, e.path = "app.db" ∧ Text.startsWith "/" e.path = false := by
  obtain ⟨fs, found, paths⟩ : ∃ fs, Extractor.syntaxTree.features .default
      "@mock.patch('app.db')\ndef test():\n    pass\n" = .ok fs ∧
      fs.endpoints.map (·.path) = ["app.db"] := exists_features_of_paths (by decide +kernel)
  obtain ⟨e, he, path⟩ := List.mem_map.1 (paths ▸ List.mem_singleton.2 rfl)
  exact ⟨fs, found, e, he, path, by rw [path]; rfl⟩

end ApiAccord
