import ApiAccord.Proofs.Feature.Distinct
import ApiAccord.Proofs.Pattern.Matches
import ApiAccord.Proofs.Text
import ApiAccord.Proofs.Text.LineIndex
import Mathlib.Data.List.Pairwise

/-!
# Features are anchored in the text

What the patterns find in a text stands there: an endpoint with the match that shows it, the name of
a type, and a parameter at its declaration.  The line of a feature is that of its offset, and what
is found twice at one offset is listed once (`ofPatterns_anchored`).

Offsets of parameters come from `splitParameters`, which trims the pieces of a list; each piece
stands at the offset that it is given (`prefix_of_mem_splitParameters`).
-/

namespace ApiAccord

open Pattern

/-! ## Anchors -/

/-- The line of an offset: one more than the number of line feeds before it. -/
def lineAt (text : List Char) (o : ℕ) : ℕ := 1 + (text.take o).count '\n'

/-- The endpoint was found at the offset: a match of its rule stands there, and the path is a
trimmed piece of it. -/
structure EndpointFeature.FoundAt (cfg : ExtractionConfig) (text : List Char) (f : EndpointFeature)
    (o : ℕ) : Prop where
  matched : ∃ rule ∈ Rules.endpointRules cfg.apiPrefixes, f.rule = some rule.1 ∧
    ∃ p ∈ rule.2, ∃ m ∈ p.allMatches text.toArray, m.start = o ∧ m.text text.toArray = f.rawMatch
  stands : f.rawMatch.toList <+: text.drop o
  line : f.line = lineAt text o
  path_ne : f.path ≠ ""
  trimmed : Text.trim f.path = f.path
  part : f.path.toList <:+: f.rawMatch.toList

namespace Matching

/-- All parameters that a text declares, each as often as it is found. -/
def declared (text : Array Char) : List Declared :=
  Rules.signatureRules.flatMap (signatureParameters text) ++ annotatedParameters text ++
    Rules.accessorRules.flatMap (accessedParameters text)

end Matching

/-- The parameter was found at the offset, where its declaration begins. -/
structure ParameterFeature.FoundAt (text : List Char) (f : ParameterFeature) (o : ℕ) : Prop where
  declared : ⟨f.name, f.type, o⟩ ∈ Matching.declared text.toArray
  stands : f.name.toList <:+: text.drop o
  line : f.line = lineAt text o

namespace Matching

variable {cfg : ExtractionConfig} {text : List Char} {p : Pattern} {s : Site} {d : Declared}
  {o start depth base : ℕ} {reversed rest params piece : List Char}

theorem lineOf_eq_lineAt (text : List Char) (o : ℕ) :
    (Text.LineIndex.ofText text).lineOf o = lineAt text o :=
  Text.LineIndex.lineOf_ofText text o

/-! ## Endpoints -/

theorem mem_endpointSites_iff : s ∈ endpointSites text.toArray p ↔
    ∃ m ∈ p.allMatches text.toArray, ∃ path, m.groupText? text.toArray 1 = some path ∧
      Text.startsWith "/" (Text.trim path) = true ∧
      s = ⟨Text.trim path, m.start, m.text text.toArray⟩ := by
  simp only [endpointSites, List.mem_filterMap]
  refine exists_congr fun m => and_congr_right fun _ => ?_
  cases m.groupText? text.toArray 1 with
  | none => simp
  | some path =>
    by_cases h : Text.startsWith "/" (Text.trim path) = true
    · simp [h, @eq_comm _ s]
    · simp [h]

/-- The feature of a site that a rule shows. -/
def endpointOf (text : List Char) (rule : String) (s : Site) : EndpointFeature :=
  ⟨s.value, lineAt text s.offset, s.raw, some rule, none⟩

theorem endpointsBy_eq (text : List Char) (rule : String × List Pattern) :
    endpointsBy text.toArray (Text.LineIndex.ofText text) rule =
      (dedupBy (fun s => (s.value, s.offset)) []
        (rule.2.flatMap (endpointSites text.toArray))).map (endpointOf text rule.1) := by
  simp only [endpointsBy, lineOf_eq_lineAt]
  rfl

theorem foundAt_endpointOf {rule : String × List Pattern}
    (hr : rule ∈ Rules.endpointRules cfg.apiPrefixes)
    (hs : s ∈ rule.2.flatMap (endpointSites text.toArray)) :
    (endpointOf text rule.1 s).FoundAt cfg text s.offset := by
  obtain ⟨p, hp, hs⟩ := List.mem_flatMap.1 hs
  obtain ⟨m, hm, path, hg, slash, rfl⟩ := mem_endpointSites_iff.1 hs
  refine ⟨⟨rule, hr, rfl, p, hp, m, hm, rfl, rfl⟩, ?_, rfl, ?_, Text.trim_trim path, ?_⟩
  · exact slice_prefix_drop text.toArray m.start m.stop
  · show Text.trim path ≠ ""
    intro empty
    rw [empty] at slash
    cases slash
  · exact (Text.trim_infix path).trans (groupText?_infix_text (matchAt_of_mem_allMatches hm) hg)

/-- The rules for endpoints have different names. -/
theorem pairwise_endpointRules (heads : List String) :
    (Rules.endpointRules heads).Pairwise fun r r' => r.1 ≠ r'.1 := by
  rw [Rules.endpointRules]
  split <;> simp

theorem endpoints_found (cfg : ExtractionConfig) (text : List Char) :
    ∃ found : List (EndpointFeature × ℕ), endpoints cfg text.toArray = found.map (·.1) ∧
      (∀ e ∈ found, e.1.FoundAt cfg text e.2) ∧
      found.Pairwise fun e e' => e.1.rule = e'.1.rule → e.1.path = e'.1.path → e.2 ≠ e'.2 := by
  refine ⟨(Rules.endpointRules cfg.apiPrefixes).flatMap fun rule =>
    (dedupBy (fun s => (s.value, s.offset)) []
      (rule.2.flatMap (endpointSites text.toArray))).map fun s =>
        (endpointOf text rule.1 s, s.offset), ?_, ?_, ?_⟩
  · simp only [endpoints, List.map_flatMap, List.map_map]
    refine List.flatMap_congr fun rule _ => ?_
    exact endpointsBy_eq text rule
  · intro e he
    obtain ⟨rule, hr, he⟩ := List.mem_flatMap.1 he
    obtain ⟨s, hs, rfl⟩ := List.mem_map.1 he
    exact foundAt_endpointOf hr ((dedupBy_sublist _ _ _).subset hs)
  · rw [List.pairwise_flatMap]
    constructor
    · intro rule _
      rw [List.pairwise_map]
      apply (pairwise_key_dedupBy _ _ _).imp
      intro s s' apart _ path offset
      exact apart (Prod.ext path offset)
    · apply (pairwise_endpointRules cfg.apiPrefixes).imp
      intro rule rule' apart e he e' he' same
      obtain ⟨s, -, rfl⟩ := List.mem_map.1 he
      obtain ⟨s', -, rfl⟩ := List.mem_map.1 he'
      exact absurd (Option.some.inj same) apart

/-! ## Names -/

theorem prefix_of_mem_namesBy {name : String} (h : (name, o) ∈ namesBy text.toArray p) :
    name.toList <+: text.drop o := by
  obtain ⟨m, hm, h⟩ := List.mem_filterMap.1 h
  cases hg : m.group? 1 with
  | none => simp [hg] at h
  | some place =>
    simp only [hg, Match.groupText?] at h
    obtain ⟨rfl, rfl⟩ := Prod.mk.inj (Option.some.inj h)
    exact slice_prefix_drop text.toArray place.1 place.2

theorem schemas_found (text : List Char) : ∀ f ∈ schemas text.toArray, ∃ o,
    f.name.toList <+: text.drop o ∧ f.line = lineAt text o := by
  intro f hf
  obtain ⟨⟨name, o⟩, hn, rfl⟩ := List.mem_map.1 hf
  obtain ⟨p, -, hn⟩ := List.mem_flatMap.1 ((dedupBy_sublist _ _ _).subset hn)
  exact ⟨o, prefix_of_mem_namesBy hn, congrArg Nat.cast (lineOf_eq_lineAt text o)⟩

/-! ## Pieces of a parameter list -/

theorem prefix_of_mem_piece? (h : (piece, o) ∈ piece? reversed start) :
    start ≤ o ∧ piece <+: reversed.reverse.drop (o - start) := by
  have afterBlanks (cs : List Char) :
      cs.drop (cs.takeWhile Text.isBlank).length = cs.dropWhile Text.isBlank :=
    (congrArg _ List.takeWhile_append_dropWhile.symm).trans List.drop_left
  unfold piece? at h
  dsimp only at h
  split at h
  · cases h
  · obtain ⟨rfl, rfl⟩ := Prod.mk.inj (Option.some.inj h)
    refine ⟨Nat.le_add_right _ _, ?_⟩
    rw [Nat.add_sub_cancel_left, afterBlanks]
    exact Text.Chars.dropEndWhile_prefix_self _ _

/-- A piece stands at its offset in what was read since the last comma and what is left. -/
theorem prefix_of_mem_splitFrom (h : (piece, o) ∈ splitFrom depth start reversed rest) :
    start ≤ o ∧ piece <+: (reversed.reverse ++ rest).drop (o - start) := by
  have here {reversed rest : List Char} {start : ℕ}
      (h : (piece, o) ∈ (piece? reversed start).toList) :
      start ≤ o ∧ piece <+: (reversed.reverse ++ rest).drop (o - start) := by
    obtain ⟨le, stands⟩ := prefix_of_mem_piece? (Option.mem_toList.1 h)
    exact ⟨le, stands.trans ((List.prefix_append _ rest).drop _)⟩
  fun_induction splitFrom depth start reversed rest with
  | case1 depth start reversed flat => exact here h
  | case2 => cases h
  | case3 depth start reversed c rest comma ih =>
    rcases List.mem_append.1 h with h | h
    · exact here h
    · -- The pieces after the comma stand as far behind it as they are told to.
      obtain ⟨le, stands⟩ := ih h
      have after : (reversed.reverse ++ c :: rest).drop (o - start) =
          rest.drop (o - (start + reversed.length + 1)) := by
        have skipped : o - start =
            (reversed.reverse ++ [c]).length + (o - (start + reversed.length + 1)) := by
          rw [List.length_append, List.length_reverse, List.length_singleton]
          omega
        rw [List.append_cons, skipped, ← List.drop_drop, List.drop_left]
      exact ⟨by omega, after ▸ stands⟩
  | case4 depth start reversed c rest _ ih =>
    have := ih h
    rwa [List.reverse_cons, List.append_assoc, List.singleton_append] at this

theorem prefix_of_mem_splitParameters (h : (piece, o) ∈ splitParameters params base) :
    base ≤ o ∧ piece <+: params.drop (o - base) :=
  prefix_of_mem_splitFrom h

/-! ## Parameters -/

theorem dropDefault_prefix_self (piece : List Char) : dropDefault piece <+: piece := by
  have before (depth : ℕ) (cs : List Char) :
      ∀ kept, beforeDefault? depth cs = some kept → kept <+: cs := by
    fun_induction beforeDefault? depth cs with
    | case1 => exact fun kept h => nomatch h
    | case2 depth c rest _ =>
      rintro kept h
      exact Option.some.inj h ▸ List.nil_prefix
    | case3 depth c rest _ ih =>
      intro kept h
      obtain ⟨tail, ht, rfl⟩ := Option.map_eq_some_iff.1 h
      exact List.cons_prefix_cons.2 ⟨rfl, ih tail ht⟩
  unfold dropDefault
  split
  · next kept h => exact (Text.Chars.dropEndWhile_prefix_self _ _).trans (before 0 piece kept h)
  · exact List.prefix_refl piece

theorem infix_of_mem_signatureParameters (h : d ∈ signatureParameters text.toArray p) :
    d.name.toList <:+: text.drop d.offset := by
  obtain ⟨m, -, h⟩ := List.mem_flatMap.1 h
  split at h
  · cases h
  · next start stop _ =>
    obtain ⟨⟨piece, o⟩, hp, h⟩ := List.mem_filterMap.1 h
    obtain ⟨m', hm, h⟩ := Option.bind_eq_some_iff.1 h
    obtain ⟨name, hn, h⟩ := Option.bind_eq_some_iff.1 h
    obtain rfl := Option.some.inj h
    -- The name is a part of the declaration, which is the beginning of a piece of the list.
    have part : name.toList <:+: dropDefault piece := by
      have matched := (groupText?_infix_text hm hn).trans (slice_prefix_drop _ _ _).isInfix
      exact matched.trans (List.drop_suffix _ _).isInfix
    obtain ⟨le, stands⟩ := prefix_of_mem_splitParameters hp
    have list : (text.toArray.extract start stop).toList <+: text.drop start := by
      rw [Array.toList_extract]
      exact List.take_prefix _ _
    have stands : piece <+: text.drop o := by
      have := stands.trans (list.drop (o - start))
      rwa [List.drop_drop, Nat.add_sub_cancel' le] at this
    exact part.trans ((dropDefault_prefix_self piece).trans stands).isInfix

theorem prefix_of_mem_annotatedParameters (h : d ∈ annotatedParameters text.toArray) :
    d.name.toList <+: text.drop d.offset := by
  obtain ⟨m, -, h⟩ := List.mem_filterMap.1 h
  obtain ⟨place, hg, h⟩ := Option.bind_eq_some_iff.1 h
  obtain ⟨name, hn, h⟩ := Option.bind_eq_some_iff.1 h
  obtain rfl := Option.some.inj h
  rw [Match.groupText?, hg] at hn
  obtain rfl := Option.some.inj hn
  exact slice_prefix_drop text.toArray place.1 place.2

theorem infix_of_mem_declared (h : d ∈ declared text.toArray) :
    d.name.toList <:+: text.drop d.offset := by
  rcases List.mem_append.1 h with h | h
  · rcases List.mem_append.1 h with h | h
    · obtain ⟨p, -, h⟩ := List.mem_flatMap.1 h
      exact infix_of_mem_signatureParameters h
    · exact (prefix_of_mem_annotatedParameters h).isInfix
  · obtain ⟨p, -, h⟩ := List.mem_flatMap.1 h
    obtain ⟨⟨name, o⟩, hn, rfl⟩ := List.mem_map.1 h
    exact (prefix_of_mem_namesBy hn).isInfix

/-- The feature of a declared parameter. -/
def parameterOf (text : List Char) (d : Declared) : ParameterFeature :=
  ⟨d.name, d.type, lineAt text d.offset, none⟩

theorem parameters_eq (text : List Char) : parameters text.toArray =
    (dedupBy (fun d => (d.name, d.offset)) []
      ((declared text.toArray).filter fun d => !plumbingParameters.contains d.name)).map
      (parameterOf text) := by
  simp only [parameters, lineOf_eq_lineAt]
  rfl

theorem parameters_found (text : List Char) :
    ∃ found : List (ParameterFeature × ℕ), parameters text.toArray = found.map (·.1) ∧
      (∀ e ∈ found, e.1.FoundAt text e.2 ∧ e.1.name ∉ plumbingParameters) ∧
      found.Pairwise fun e e' => e.1.name = e'.1.name → e.2 ≠ e'.2 := by
  refine ⟨(dedupBy (fun d => (d.name, d.offset)) []
    ((declared text.toArray).filter fun d => !plumbingParameters.contains d.name)).map
      fun d => (parameterOf text d, d.offset), ?_, ?_, ?_⟩
  · rw [parameters_eq, List.map_map]
    rfl
  · intro e he
    obtain ⟨d, hd, rfl⟩ := List.mem_map.1 he
    obtain ⟨hd, own⟩ := List.mem_filter.1 ((dedupBy_sublist _ _ _).subset hd)
    have own : d.name ∉ plumbingParameters := by simpa using own
    exact ⟨⟨hd, infix_of_mem_declared hd, rfl⟩, own⟩
  · rw [List.pairwise_map]
    apply (pairwise_key_dedupBy _ _ _).imp
    intro d d' apart name offset
    exact apart (Prod.ext name offset)

end Matching

/-- What is found in a text is anchored in it: each endpoint at a match of its rule, of which its
path is a trimmed piece, each type name and each parameter where it stands; lines are counted by
line feeds.  No rule finds the same path, and no parameter is found, twice at the same offset, and
what belongs to a framework is no parameter. -/
theorem ofPatterns_anchored (cfg : ExtractionConfig) (s : String) :
    let text := s.toList
    let features := FeatureSet.ofPatterns cfg text.toArray
    (∃ found : List (EndpointFeature × ℕ), features.endpoints = found.map (·.1) ∧
      (∀ e ∈ found, e.1.FoundAt cfg text e.2) ∧
      found.Pairwise fun e e' => e.1.rule = e'.1.rule → e.1.path = e'.1.path → e.2 ≠ e'.2) ∧
    (∀ f ∈ features.schemas, ∃ o, f.name.toList <+: text.drop o ∧ f.line = lineAt text o) ∧
    ∃ found : List (ParameterFeature × ℕ), features.parameters = found.map (·.1) ∧
      (∀ e ∈ found, e.1.FoundAt text e.2 ∧ e.1.name ∉ plumbingParameters) ∧
      found.Pairwise fun e e' => e.1.name = e'.1.name → e.2 ≠ e'.2 :=
  ⟨Matching.endpoints_found cfg s.toList, Matching.schemas_found s.toList,
    Matching.parameters_found s.toList⟩

end ApiAccord
