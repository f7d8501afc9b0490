import ApiAccord.EndpointPath
import ApiAccord.Proofs.Correspondence
import ApiAccord.Proofs.Pattern
import ApiAccord.Proofs.Text

/-!
# Templates segment by segment

A path is matched against the pattern that a template writes.  What that comes to is said segment by
segment (`covers_iff`): a placeholder stands for any segment that is not empty, and every other
segment for itself.  So two paths are equivalent if they are the same or one covers the other, and
paths with their placeholders at the same places are equivalent if they have the same key
(`equivalent_iff_covers`).  Equivalence is reflexive and symmetric, but not transitive: a template is
equivalent to many paths that are not equivalent to one another.
-/

namespace ApiAccord.EndpointPath

variable {w template segment : List Char} {a b path p q : String}

/-! ## Equivalence -/

theorem equivalent_self : equivalent p p = true := by
  simp [equivalent]

theorem equivalent_comm : equivalent p q = equivalent q p := by
  unfold equivalent
  dsimp only
  rw [Bool.or_assoc, Bool.or_assoc, BEq.comm, Bool.or_comm (covers (normalize p) _)]

/-- The template `/u/{id}` is equivalent to `/u/1` and to `/u/2`. -/
example : equivalent "/u/1" "/u/\x7bid\x7d" = true ∧ equivalent "/u/\x7bid\x7d" "/u/2" = true ∧
    equivalent "/u/1" "/u/2" = false := by decide

/-! ## Placeholders -/

/-- One word character or more. -/
def IsName (w : List Char) : Prop := w ≠ [] ∧ ∀ c ∈ w, Text.isWord c = true

/-- What may stand between braces: no slash and no brace, but something. -/
def IsBracedName (w : List Char) : Prop :=
  w ≠ [] ∧ ∀ c ∈ w, c ≠ '/' ∧ c ≠ '\x7b' ∧ c ≠ '\x7d'

/-- The ways to write a placeholder. -/
inductive Placeholder : List Char → Prop where
  | braced {name : List Char} : IsBracedName name → Placeholder ('\x7b' :: (name ++ ['\x7d']))
  | colon {first : Char} {rest : List Char} : first.isAlpha = true ∨ first = '_' →
    (∀ c ∈ rest, Text.isWord c = true) → Placeholder (':' :: first :: rest)
  | angled {name : List Char} : IsName name → Placeholder ('<' :: (name ++ ['>']))
  | typed {kind name : List Char} : IsName kind → IsName name →
    Placeholder ('<' :: (kind ++ ':' :: (name ++ ['>'])))
  | dollar {name : List Char} : IsBracedName name →
    Placeholder ('$' :: '\x7b' :: (name ++ ['\x7d']))

/-- A segment that is a placeholder; a line feed after it makes no difference. -/
def IsPlaceholder (segment : List Char) : Prop :=
  Placeholder segment ∨ ∃ w, Placeholder w ∧ segment = w ++ ['\n']

theorem mem_language_bracedName :
    w ∈ bracedName.language ↔ ∃ name, IsBracedName name ∧ w = '\x7b' :: (name ++ ['\x7d']) := by
  simp only [bracedName, Pattern.language_append, Pattern.mem_language_mul_text,
    Pattern.mem_language_text_mul, Pattern.mem_language_plus_char, Pattern.holds_noneOf]
  simp [IsBracedName]

theorem mem_language_aWord : w ∈ Pattern.aWord.language ↔ IsName w :=
  Pattern.mem_language_plus_char

theorem mem_language_colon :
    w ∈ (Pattern.text ":" ++ .char (.either .letter (.one '_')) ++ .star (.char .word)).language ↔
      ∃ first rest, (first.isAlpha = true ∨ first = '_') ∧ (∀ c ∈ rest, Text.isWord c = true) ∧
        w = ':' :: first :: rest := by
  have letter (c : Char) : CharClass.letter.holds c = c.isAlpha := by
    have upper : (decide ('A' ≤ c) && decide (c ≤ 'Z')) = c.isUpper := (Bool.decide_and _ _).symm
    change (c.isLower || (decide ('A' ≤ c) && decide (c ≤ 'Z'))) = (c.isUpper || c.isLower)
    rw [upper, Bool.or_comm]
  rw [Pattern.language_append, Language.mem_mul]
  simp only [Pattern.language_append, Pattern.mem_language_text_mul, Pattern.mem_language_char,
    Pattern.mem_language_star_char, CharClass.holds, letter, Bool.or_eq_true, beq_iff_eq]
  constructor
  · rintro ⟨_, ⟨_, ⟨c, rfl, hc⟩, rfl⟩, rest, hr, rfl⟩
    exact ⟨c, rest, hc.imp_right Eq.symm, hr, rfl⟩
  · rintro ⟨c, rest, hc, hr, rfl⟩
    exact ⟨_, ⟨_, ⟨c, rfl, hc.imp_right Eq.symm⟩, rfl⟩, rest, hr, rfl⟩

theorem mem_language_angled :
    w ∈ (Pattern.text "<" ++ .opt (.aWord ++ .text ":") ++ .aWord ++ .text ">").language ↔
      ∃ name, IsName name ∧ (w = '<' :: (name ++ ['>']) ∨
        ∃ kind, IsName kind ∧ w = '<' :: (kind ++ ':' :: (name ++ ['>']))) := by
  rw [Pattern.language_append, Pattern.mem_language_mul_text]
  simp only [Pattern.language_append, Language.mem_mul, Pattern.mem_language_text,
    Pattern.mem_language_opt, mem_language_aWord]
  constructor
  · rintro ⟨_, ⟨_, ⟨_, rfl, _, rfl | ⟨kind, hk, _, rfl, rfl⟩, rfl⟩, name, hn, rfl⟩, rfl⟩
    · exact ⟨name, hn, .inl rfl⟩
    · exact ⟨name, hn, .inr ⟨kind, hk, by simp⟩⟩
  · rintro ⟨name, hn, rfl | ⟨kind, hk, rfl⟩⟩
    · exact ⟨_, ⟨_, ⟨_, rfl, _, .inl rfl, rfl⟩, name, hn, rfl⟩, rfl⟩
    · exact ⟨_, ⟨_, ⟨_, rfl, _, .inr ⟨kind, hk, _, rfl, rfl⟩, rfl⟩, name, hn, rfl⟩, by simp⟩

/-- The pattern of placeholders matches the ways to write one. -/
theorem isPlaceholder_iff : isPlaceholder segment = true ↔ IsPlaceholder segment := by
  have ways (w : List Char) : w ∈ (Pattern.firstOf [
      bracedName,
      .text ":" ++ .char (.either .letter (.one '_')) ++ .star (.char .word),
      .text "<" ++ .opt (.aWord ++ .text ":") ++ .aWord ++ .text ">",
      .text "$" ++ bracedName]).language ↔ Placeholder w := by
    simp only [Pattern.firstOf, Pattern.language, Language.mem_add, mem_language_bracedName,
      mem_language_colon, mem_language_angled]
    rw [Pattern.language_append, Pattern.mem_language_text_mul]
    simp only [mem_language_bracedName]
    constructor
    · rintro (⟨name, hn, rfl⟩ | ⟨first, rest, hf, hr, rfl⟩ | ⟨name, hn, rfl | ⟨kind, hk, rfl⟩⟩ |
        ⟨_, ⟨name, hn, rfl⟩, rfl⟩)
      · exact .braced hn
      · exact .colon hf hr
      · exact .angled hn
      · exact .typed hk hn
      · exact .dollar hn
    · intro h
      cases h with
      | braced hn => exact .inl ⟨_, hn, rfl⟩
      | colon hf hr => exact .inr (.inl ⟨_, _, hf, hr, rfl⟩)
      | angled hn => exact .inr (.inr (.inl ⟨_, hn, .inl rfl⟩))
      | typed hk hn => exact .inr (.inr (.inl ⟨_, hn, .inr ⟨_, hk, rfl⟩⟩))
      | dollar hn => exact .inr (.inr (.inr ⟨_, ⟨_, hn, rfl⟩, rfl⟩))
  rw [isPlaceholder, placeholder, Pattern.matchAt_anchored_iff rfl]
  simp only [ways, IsPlaceholder]

theorem Placeholder.ne_nil (h : Placeholder w) : w ≠ [] := by
  cases h <;> exact List.cons_ne_nil _ _

theorem IsPlaceholder.ne_nil (h : IsPlaceholder segment) : segment ≠ [] := by
  rcases h with h | ⟨w, -, rfl⟩
  · exact h.ne_nil
  · exact List.append_ne_nil_of_right_ne_nil w (List.cons_ne_nil _ _)

/-! ## Segments -/

/-- What stands between the slashes of a path. -/
def pieces (path : String) : List (List Char) := Text.Chars.splitOn '/' path.toList

theorem segments_eq (path : String) : segments path = pieces (normalize path) := by
  rw [pieces, normalize, String.toList_ofList, segments]

theorem slash_notMem_of_mem_pieces (h : segment ∈ pieces path) : '/' ∉ segment :=
  Text.Chars.sep_notMem_of_mem_splitOn h

/-- A segment of a template stands for a segment. -/
def SegmentCovers (template segment : List Char) : Prop :=
  (IsPlaceholder template ∧ segment ≠ []) ∨ template = segment

/-- A template stands for a path: there are as many segments, and each stands for its own. -/
def Covers (template path : String) : Prop :=
  List.Forall₂ SegmentCovers (pieces template) (pieces path)

theorem mem_language_segmentPattern (ht : '/' ∉ template) :
    segment ∈ (segmentPattern template).language ↔
      SegmentCovers template segment ∧ '/' ∉ segment := by
  unfold segmentPattern SegmentCovers
  split
  · next h =>
    have other (c : Char) : (CharClass.noneOf "/").holds c = true ↔ c ≠ '/' := by
      simp [Pattern.holds_noneOf]
    have slash : (∀ c ∈ segment, c ≠ '/') ↔ '/' ∉ segment :=
      ⟨fun hc hs => hc _ hs rfl, fun hs c hc hm => hs (hm ▸ hc)⟩
    simp only [Pattern.mem_language_plus_char, other, slash, isPlaceholder_iff.1 h, true_and]
    constructor
    · exact fun hs => ⟨.inl hs.1, hs.2⟩
    · rintro ⟨ne | rfl, hs⟩
      · exact ⟨ne, hs⟩
      · exact ⟨(isPlaceholder_iff.1 h).ne_nil, hs⟩
  · next h =>
    rw [Pattern.mem_language_text, String.toList_ofList]
    constructor
    · rintro rfl
      exact ⟨.inr rfl, ht⟩
    · rintro ⟨⟨hp, -⟩ | rfl, -⟩
      · exact absurd (isPlaceholder_iff.2 hp) h
      · rfl

theorem isPlain_segmentPattern (segment : List Char) : (segmentPattern segment).isPlain = true := by
  unfold segmentPattern
  split
  · rfl
  · exact Pattern.isPlain_text _

/-- The pattern that a template writes matches the paths for which it stands. -/
theorem covers_iff {template : String} :
    covers template path = true ↔ Covers (normalize template) path := by
  have plain : (pathPattern template).isPlain = true := by
    refine Pattern.isPlain_joinedBy fun p hp => ?_
    obtain ⟨s, -, rfl⟩ := List.mem_map.1 hp
    exact isPlain_segmentPattern s
  rw [covers, Pattern.matchesAll_iff plain, pathPattern, Pattern.mem_language_joinedBy, segments_eq,
    Covers]
  simp only [List.forall₂_map_left_iff]
  constructor
  · rintro ⟨found, each, hpath⟩
    have covered : List.Forall₂ (fun t s => SegmentCovers t s ∧ '/' ∉ s)
        (pieces (normalize template)) found :=
      forall₂_imp_of_mem_left each fun t ht s hs =>
        (mem_language_segmentPattern (slash_notMem_of_mem_pieces ht)).1 hs
    -- The pieces found have no slashes, so they are those between the slashes of the path.
    have whole : pieces path = found := by
      rw [pieces, hpath]
      refine Text.Chars.splitOn_intercalate ?_ fun s hs => ?_
      · rintro rfl
        exact Text.Chars.splitOn_ne_nil _ (List.forall₂_nil_right_iff.1 covered)
      · obtain ⟨t, -, -, hs⟩ := exists_of_forall₂_of_mem_left covered.flip hs
        exact hs
    rw [whole]
    exact covered.imp fun _ _ h => h.1
  · intro each
    refine ⟨pieces path, ?_, (Text.Chars.intercalate_splitOn _ _).symm⟩
    have found := forall₂_and_mem each
    exact found.imp fun t s h => (mem_language_segmentPattern (slash_notMem_of_mem_pieces h.2.1)).2
      ⟨h.1, slash_notMem_of_mem_pieces h.2.2⟩

/-! ## Keys -/

/-- The segment at a place of a path is a placeholder. -/
def PlaceholderAt (path : String) (i : ℕ) : Prop :=
  ∃ segment, (pieces path)[i]? = some segment ∧ IsPlaceholder segment

/-- What a key has in the place of a segment. -/
def keyPiece (segment : List Char) : List Char :=
  if isPlaceholder segment then ['\x7b', '\x7d'] else segment

theorem slash_notMem_keyPiece (h : '/' ∉ segment) : '/' ∉ keyPiece segment := by
  unfold keyPiece
  split
  · decide
  · exact h

theorem splitOn_templateKey (path : String) :
    pieces (templateKey path) = (pieces (normalize path)).map keyPiece := by
  have key : (templateKey path).toList =
      ['/'].intercalate ((pieces (normalize path)).map keyPiece) := by
    rw [templateKey, String.toList_intercalate, List.map_map, segments_eq]
    congr 2
    funext s
    simp only [Function.comp_apply, keyPiece]
    split
    · rfl
    · exact String.toList_ofList
  rw [pieces, key]
  refine Text.Chars.splitOn_intercalate ?_ fun s hs => ?_
  · exact mt List.map_eq_nil_iff.1 (Text.Chars.splitOn_ne_nil _)
  · obtain ⟨t, ht, rfl⟩ := List.mem_map.1 hs
    exact slash_notMem_keyPiece (slash_notMem_of_mem_pieces ht)

theorem templateKey_eq_iff : templateKey a = templateKey b ↔
    (pieces (normalize a)).map keyPiece = (pieces (normalize b)).map keyPiece := by
  rw [← splitOn_templateKey, ← splitOn_templateKey]
  constructor
  · exact congrArg pieces
  · intro h
    rw [← String.toList_inj, ← Text.Chars.intercalate_splitOn '/' (templateKey a).toList,
      ← Text.Chars.intercalate_splitOn '/' (templateKey b).toList]
    exact congrArg _ h

/-- Of two segments that both are placeholders, or both are none, one stands for the other if the
key does not tell them apart. -/
theorem segmentCovers_iff_keyPiece (h : IsPlaceholder template ↔ IsPlaceholder segment) :
    SegmentCovers template segment ↔ keyPiece template = keyPiece segment := by
  by_cases hs : IsPlaceholder segment
  · have key : keyPiece template = keyPiece segment := by
      rw [keyPiece, keyPiece, if_pos (isPlaceholder_iff.2 hs),
        if_pos (isPlaceholder_iff.2 (h.2 hs))]
    exact iff_of_true (.inl ⟨h.2 hs, hs.ne_nil⟩) key
  · have ht : ¬ IsPlaceholder template := mt h.1 hs
    rw [keyPiece, keyPiece, if_neg (mt isPlaceholder_iff.1 hs), if_neg (mt isPlaceholder_iff.1 ht)]
    exact ⟨fun hc => hc.resolve_left fun hp => ht hp.1, .inr⟩

/-- Where placeholders have the same places, a template stands for the paths with its key. -/
theorem forall₂_segmentCovers_iff {ts ss : List (List Char)}
    (h : ∀ i : ℕ, (∃ t, ts[i]? = some t ∧ IsPlaceholder t) ↔
      ∃ s, ss[i]? = some s ∧ IsPlaceholder s) :
    List.Forall₂ SegmentCovers ts ss ↔ ts.map keyPiece = ss.map keyPiece := by
  induction ts generalizing ss with
  | nil => cases ss <;> simp
  | cons t ts ih =>
    cases ss with
    | nil => simp
    | cons s ss =>
      have first : IsPlaceholder t ↔ IsPlaceholder s := by simpa using h 0
      have rest := ih fun i => by simpa using h (i + 1)
      rw [List.forall₂_cons, List.map_cons, List.map_cons, List.cons_eq_cons, rest,
        segmentCovers_iff_keyPiece first]

/-! ## Equivalence -/

/-- Two paths are equivalent exactly if they are the same once normalized, or one stands for the
other segment by segment.  So a path is equivalent to itself, and to the paths that are equivalent
to it; and normalized paths whose placeholders have the same places are equivalent exactly if they
have the same key. -/
theorem equivalent_iff_covers (a b : String) :
    (equivalent a b = true ↔ normalize a = normalize b ∨
      Covers (normalize (normalize a)) (normalize b) ∨
      Covers (normalize (normalize b)) (normalize a)) ∧
    equivalent a a = true ∧ equivalent a b = equivalent b a ∧
    (normalize a = a → normalize b = b → (∀ i, PlaceholderAt a i ↔ PlaceholderAt b i) →
      (equivalent a b = true ↔ templateKey a = templateKey b)) := by
  have covered : equivalent a b = true ↔ normalize a = normalize b ∨
      Covers (normalize (normalize a)) (normalize b) ∨
      Covers (normalize (normalize b)) (normalize a) := by
    simp only [equivalent, Bool.or_eq_true, beq_iff_eq, covers_iff, or_assoc]
  refine ⟨covered, equivalent_self, equivalent_comm, fun ha hb places => ?_⟩
  rw [covered, templateKey_eq_iff]
  simp only [ha, hb]
  have forth := forall₂_segmentCovers_iff places
  have back := forall₂_segmentCovers_iff fun i => (places i).symm
  rw [Covers, forth, Covers, back]
  constructor
  · rintro (rfl | h | h)
    · rfl
    · exact h
    · exact h.symm
  · exact fun h => .inr (.inl h)

/-- The names of placeholders do not matter, nor how these are written. -/
theorem equivalent_iff_covers_users :
    let a := "/users/\x7bid\x7d/posts"
    let b := "/users/:userId/posts"
    normalize a = a ∧ normalize b = b ∧ (∀ i, PlaceholderAt a i ↔ PlaceholderAt b i) ∧
      templateKey a = templateKey b ∧ equivalent a b = true := by
  intro a b
  have first : pieces a = ["".toList, "users".toList, "\x7bid\x7d".toList, "posts".toList] := by
    decide
  have second : pieces b = ["".toList, "users".toList, ":userId".toList, "posts".toList] := by
    decide
  have places (i : ℕ) : PlaceholderAt a i ↔ PlaceholderAt b i := by
    unfold PlaceholderAt
    rw [first, second]
    rcases i with _ | _ | _ | i
    · rfl
    · rfl
    · simp only [List.getElem?_cons_succ, List.getElem?_cons_zero, Option.some.injEq,
        exists_eq_left', ← isPlaceholder_iff]
      decide
    · rfl
  have ha : normalize a = a := by decide
  have hb : normalize b = b := by decide
  have key : templateKey a = templateKey b := by decide
  exact ⟨ha, hb, places, key, ((equivalent_iff_covers a b).2.2.2 ha hb places).2 key⟩

/-- A placeholder does not stand for an empty segment. -/
example : equivalent "/users/\x7bid\x7d/posts" "/users//posts" = false := by decide

end ApiAccord.EndpointPath
