import ApiAccord.Proofs.Correspondence
import ApiAccord.Proofs.Feature.Anchors
import Mathlib

/-!
# Methods of calls

A call is written as a dot, a word, and an opening parenthesis.  Two rules look for calls: one where
the word is a method of HTTP in either case, and, unless the detection is strict, one for any word.

Where a dot begins a call, what follows the dot determines it (`Call.StandsIn.eq_readAt`), and
within a call no other begins.  So each of the rules finds all the calls whose word it takes, in
their order (`candidatesOf_callPattern`).  No other rule looks at a dot, so that no finding of
theirs is left out because of a call, nor a call because of them.
-/

namespace ApiAccord

open Pattern

/-! ## Classes of characters -/

namespace Text

variable {c d : Char}

/-- No blank belongs to a word. -/
theorem isWord_of_isBlank (h : isBlank c = true) : isWord c = false := by
  have blanks : ∀ n ∈ [9, 10, 11, 12, 13, 28, 29, 30, 31, 32, 0x85, 0xa0, 0x1680, 0x2000, 0x2001,
      0x2002, 0x2003, 0x2004, 0x2005, 0x2006, 0x2007, 0x2008, 0x2009, 0x200a, 0x2028, 0x2029,
      0x202f, 0x205f, 0x3000], isWord (Char.ofNat n) = false := by
    decide +kernel
  have listed : c.toNat ∈ [9, 10, 11, 12, 13, 28, 29, 30, 31, 32, 0x85, 0xa0, 0x1680, 0x2000,
      0x2001, 0x2002, 0x2003, 0x2004, 0x2005, 0x2006, 0x2007, 0x2008, 0x2009, 0x200a, 0x2028,
      0x2029, 0x202f, 0x205f, 0x3000] := by
    simp only [isBlank, Bool.or_eq_true, Bool.and_eq_true, decide_eq_true_eq, beq_iff_eq] at h
    simp only [List.mem_cons, List.not_mem_nil, or_false]
    omega
  rw [← Char.ofNat_toNat c]
  exact blanks _ listed

theorem isWord_of_isAlpha (h : c.isAlpha = true) : isWord c = true := by
  simp [isWord, isAlphanumeric, Char.isAlphanum, h]

/-- What shares its case with a letter belongs to words. -/
theorem isWord_of_anyCase (hc : c.isAlpha = true) (h : (CharClass.anyCase c).holds d = true) :
    isWord d = true := by
  rcases Bool.or_eq_true_iff.1 h with same | shares
  · apply isWord_of_isAlpha
    rw [← Char.isAlpha_toLower_eq_isAlpha, ← beq_iff_eq.1 same, Char.isAlpha_toLower_eq_isAlpha, hc]
  · have letters : ∀ n ∈ [0x130, 0x131, 0x17f, 0x212a], isWord (Char.ofNat n) = true := by
      decide +kernel
    have listed : d.toNat ∈ [0x130, 0x131, 0x17f, 0x212a] := by
      simp only [CharClass.sharesCase, Bool.or_eq_true, Bool.and_eq_true, beq_iff_eq] at shares
      simp only [List.mem_cons, List.not_mem_nil, or_false]
      omega
    rw [← Char.ofNat_toNat d]
    exact letters _ listed

end Text

/-! ## Calls -/

/-- The word is a method of HTTP, with each letter in either case. -/
def Rules.IsVerb (word : List Char) : Prop :=
  ∃ verb ∈ verbs, List.Forall₂ (fun c d => (CharClass.anyCase c).holds d = true) verb.toList word

/-- A call as it is written: the place of its dot, the word after it, and the blanks before the
opening parenthesis. -/
structure Call where
  dot : ℕ
  word : List Char
  gap : List Char
deriving DecidableEq

namespace Call

/-- What is written of a call. -/
def text (call : Call) : List Char := '.' :: (call.word ++ call.gap ++ ['('])

/-- The call stands in the text. -/
structure StandsIn (call : Call) (text : List Char) : Prop where
  stands : call.text <+: text.drop call.dot
  word_ne : call.word ≠ []
  word_chars : ∀ c ∈ call.word, Text.isWord c = true
  gap_chars : ∀ c ∈ call.gap, Text.isBlank c = true

/-- The call that the dot begins, if it begins one. -/
def readAt (text : List Char) (dot : ℕ) : Call where
  dot := dot
  word := (text.drop (dot + 1)).takeWhile Text.isWord
  gap := ((text.drop (dot + 1)).dropWhile Text.isWord).takeWhile Text.isBlank

variable {call call' : Call} {text : List Char} {j : ℕ}

/-- The word of a call goes as far as there are word characters. -/
theorem StandsIn.word_maximal (h : call.StandsIn text) : ∃ rest,
    text.drop (call.dot + 1) = call.word ++ (call.gap ++ '(' :: rest) ∧
      (call.gap ++ '(' :: rest).takeWhile Text.isWord = [] := by
  obtain ⟨rest, hr⟩ := h.stands
  have parenthesis : Text.isWord '(' = false := by decide +kernel
  refine ⟨rest, ?_, ?_⟩
  · rw [← List.tail_drop, ← hr]
    simp [Call.text]
  · cases hg : call.gap with
    | nil => exact List.takeWhile_cons_of_neg (by simp [parenthesis])
    | cons c gap =>
      have blank := h.gap_chars c (hg ▸ List.mem_cons_self)
      exact List.takeWhile_cons_of_neg (by simp [Text.isWord_of_isBlank blank])

/-- A call is determined by its dot. -/
theorem StandsIn.eq_readAt (h : call.StandsIn text) : call = readAt text call.dot := by
  obtain ⟨rest, hr, stop⟩ := h.word_maximal
  have word : (text.drop (call.dot + 1)).takeWhile Text.isWord = call.word := by
    rw [hr, List.takeWhile_append_of_pos h.word_chars, stop, List.append_nil]
  have after : (text.drop (call.dot + 1)).dropWhile Text.isWord = call.gap ++ '(' :: rest := by
    refine List.append_cancel_left (?_ : call.word ++ _ = call.word ++ _)
    rw [← hr, ← word, List.takeWhile_append_dropWhile]
  have gap : (call.gap ++ '(' :: rest).takeWhile Text.isBlank = call.gap := by
    rw [List.takeWhile_append_of_pos h.gap_chars, List.takeWhile_cons_of_neg (by decide),
      List.append_nil]
  rw [readAt, word, after, gap]

theorem StandsIn.eq_of_dot_eq (h : call.StandsIn text) (h' : call'.StandsIn text)
    (same : call.dot = call'.dot) : call = call' := by
  rw [h.eq_readAt, h'.eq_readAt, same]

theorem StandsIn.getElem?_dot (h : call.StandsIn text) : text[call.dot]? = some '.' := by
  obtain ⟨rest, hr⟩ := h.stands
  rw [← List.head?_drop, ← hr]
  rfl

/-- Within a call there is no other dot. -/
theorem StandsIn.getElem?_ne_dot (h : call.StandsIn text) (lt : call.dot < j)
    (lt' : j < call.dot + call.text.length) : text[j]? ≠ some '.' := by
  obtain ⟨rest, hr⟩ := h.stands
  obtain ⟨i, rfl⟩ : ∃ i, j = call.dot + (i + 1) := ⟨j - call.dot - 1, by omega⟩
  intro dot
  have here : (call.word ++ call.gap ++ ['('])[i]? = some '.' := by
    have within : i + 1 < call.text.length := by omega
    rw [← List.getElem?_drop, List.prefix_iff_getElem?.1 h.stands (i + 1) within] at dot
    exact (List.getElem?_eq_getElem _).trans dot
  rcases List.mem_append.1 (List.mem_of_getElem? here) with mem | mem
  · rcases List.mem_append.1 mem with mem | mem
    · exact absurd (h.word_chars _ mem) (by decide +kernel)
    · exact absurd (h.gap_chars _ mem) (by decide)
  · exact absurd mem (by decide)

/-- A call is written in a text if its parts are, one after another. -/
theorem text_prefix_iff (call : Call) (text : List Char) : call.text <+: text.drop call.dot ↔
    ['.'] <+: text.drop call.dot ∧ call.word <+: text.drop (call.dot + 1) ∧
      call.gap <+: text.drop (call.dot + 1 + call.word.length) ∧
      ['('] <+: text.drop (call.dot + 1 + call.word.length + call.gap.length) := by
  have parts : call.text = ['.'] ++ (call.word ++ (call.gap ++ ['('])) := by
    simp [Call.text]
  rw [parts, append_prefix_iff, append_prefix_iff, append_prefix_iff, List.drop_drop,
    List.drop_drop, List.drop_drop, List.length_singleton]

theorem length_text (call : Call) :
    call.text.length = 1 + call.word.length + call.gap.length + 1 := by
  simp [Call.text]
  omega

/-- The match of a call, which remembers the word. -/
def found (call : Call) : Match :=
  ⟨call.dot, call.dot + call.text.length,
    [(1, call.dot + 1, call.dot + 1 + call.word.length)]⟩

end Call

/-! ## The patterns of calls -/

namespace Rules

/-- `.word(`, with a word that the pattern takes. -/
def callPattern (word : Pattern) : Pattern := oneOf "." ++ group 1 word ++ blanks ++ oneOf "("

theorem verbCall_eq : verbCall = callPattern verbAnyCase := rfl

theorem anyCall_eq : anyCall = callPattern aWord := rfl

/-- The pattern takes words, and remembers nothing. -/
structure TakesWords (p : Pattern) : Prop where
  bare : p.isBare = true
  ne_nil : ∀ w ∈ p.language, w ≠ []
  chars : ∀ w ∈ p.language, ∀ c ∈ w, Text.isWord c = true

theorem takesWords_aWord : TakesWords aWord where
  bare := rfl
  ne_nil _ h := (mem_language_plus_char.1 h).1
  chars _ h := (mem_language_plus_char.1 h).2

theorem mem_language_verbAnyCase {w : List Char} : w ∈ verbAnyCase.language ↔ IsVerb w := by
  simp only [IsVerb, verbAnyCase, mem_language_firstOf, List.mem_map, exists_exists_and_eq_and,
    mem_language_anyCaseText]

theorem takesWords_verbAnyCase : TakesWords verbAnyCase where
  bare := by decide
  ne_nil w h := by
    rintro rfl
    obtain ⟨verb, hv, each⟩ := mem_language_verbAnyCase.1 h
    rw [List.forall₂_nil_right_iff] at each
    have written : ∀ verb ∈ verbs, verb.toList ≠ [] := by decide
    exact written verb hv each
  chars w h d hd := by
    obtain ⟨verb, hv, each⟩ := mem_language_verbAnyCase.1 h
    have letters : (verbs.all fun verb => verb.toList.all Char.isAlpha) = true := rfl
    obtain ⟨c, hc, same⟩ := exists_of_forall₂_of_mem_left each.flip hd
    exact Text.isWord_of_anyCase
      (List.all_eq_true.1 (List.all_eq_true.1 letters verb hv) c hc) same

variable {p : Pattern} {text : List Char} {o : ℕ} {st : State} {m : Match}

theorem mem_language_oneOf {s : String} {c : Char} {w : List Char} (hs : s.toList = [c]) :
    w ∈ (oneOf s).language ↔ w = [c] := by
  simp [oneOf, mem_language_char, holds_anyOf, hs]

/-- The outcomes of the pattern are the calls that its dot may begin. -/
theorem mem_outcomes_callPattern (hp : TakesWords p) :
    st ∈ outcomes text.toArray (callPattern p) ⟨o, []⟩ ↔ ∃ call : Call, call.StandsIn text ∧
      call.word ∈ p.language ∧ call.dot = o ∧ st = ⟨call.found.stop, call.found.groups⟩ := by
  have dotBare : (oneOf ".").isBare = true := rfl
  have blanksBare : blanks.isBare = true := rfl
  have closeBare : (oneOf "(").isBare = true := rfl
  constructor
  · intro h
    obtain ⟨_, h, atClose⟩ := mem_outcomes_append.1 h
    obtain ⟨_, h, atGap⟩ := mem_outcomes_append.1 h
    obtain ⟨_, atDot, h⟩ := mem_outcomes_append.1 h
    obtain ⟨_, atWord, rfl⟩ := mem_outcomes_group.1 h
    obtain ⟨d, hd, dot, rfl⟩ := (mem_outcomes_iff_of_isBare dotBare).1 atDot
    obtain ⟨w, hw, word, rfl⟩ := (mem_outcomes_iff_of_isBare hp.bare).1 atWord
    obtain ⟨g, hg, gap, rfl⟩ := (mem_outcomes_iff_of_isBare blanksBare).1 atGap
    obtain ⟨c, hc, close, rfl⟩ := (mem_outcomes_iff_of_isBare closeBare).1 atClose
    obtain rfl : d = ['.'] := (mem_language_oneOf rfl).1 hd
    obtain rfl : c = ['('] := (mem_language_oneOf rfl).1 hc
    refine ⟨⟨o, w, g⟩, ⟨?_, hp.ne_nil w hw, hp.chars w hw, mem_language_star_char.1 hg⟩, hw, rfl,
      ?_⟩
    · exact (Call.text_prefix_iff _ _).2 ⟨dot, word, gap, close⟩
    · simp [Call.found, Call.length_text, Nat.add_assoc]
  · rintro ⟨call, h, hw, rfl, rfl⟩
    obtain ⟨dot, word, gap, close⟩ := (Call.text_prefix_iff call _).1 h.stands
    have blank : call.gap ∈ blanks.language := mem_language_star_char.2 h.gap_chars
    have atDot := mem_outcomes_of_stands dotBare ((mem_language_oneOf rfl).2 rfl) dot []
    have atWord := mem_outcomes_of_stands hp.bare hw word []
    have atGap := mem_outcomes_of_stands blanksBare blank gap call.found.groups
    have atClose := mem_outcomes_of_stands closeBare ((mem_language_oneOf rfl).2 rfl) close
      call.found.groups
    have stop : call.found.stop = call.dot + 1 + call.word.length + call.gap.length + 1 := by
      simp [Call.found, Call.length_text, Nat.add_assoc]
    rw [stop]
    exact mem_outcomes_append.2 ⟨_, mem_outcomes_append.2 ⟨_, mem_outcomes_append.2 ⟨_, atDot,
      mem_outcomes_group.2 ⟨_, atWord, rfl⟩⟩, atGap⟩, atClose⟩

theorem exists_call_of_matchAt (hp : TakesWords p)
    (h : (callPattern p).matchAt text.toArray o = some m) : ∃ call : Call, call.StandsIn text ∧
      call.word ∈ p.language ∧ call.dot = o ∧ m = call.found := by
  obtain ⟨st, hs, rfl⟩ := exists_of_matchAt h
  obtain ⟨call, stands, hw, rfl, rfl⟩ := (mem_outcomes_callPattern hp).1 hs
  exact ⟨call, stands, hw, rfl, rfl⟩

theorem matchAt_dot (hp : TakesWords p) {call : Call} (h : call.StandsIn text)
    (hw : call.word ∈ p.language) :
    (callPattern p).matchAt text.toArray call.dot = some call.found := by
  have way := (mem_outcomes_callPattern hp).2 ⟨call, h, hw, rfl, rfl⟩
  obtain ⟨m, hm⟩ := Option.isSome_iff_exists.1 (isSome_matchAt_iff.2 ⟨_, way⟩)
  obtain ⟨call', h', -, same, rfl⟩ := exists_call_of_matchAt hp hm
  rw [hm, h.eq_of_dot_eq h' same.symm]

/-- All calls are found whose word the pattern takes. -/
theorem mem_allMatches_callPattern (hp : TakesWords p) :
    m ∈ (callPattern p).allMatches text.toArray ↔
      ∃ call : Call, call.StandsIn text ∧ call.word ∈ p.language ∧ m = call.found := by
  constructor
  · intro h
    obtain ⟨call, stands, hw, -, rfl⟩ := exists_call_of_matchAt hp (matchAt_of_mem_allMatches h)
    exact ⟨call, stands, hw, rfl⟩
  · rintro ⟨call, stands, hw, rfl⟩
    apply mem_allMatches _ (matchAt_dot hp stands hw)
    · obtain ⟨lt, -⟩ := List.getElem?_eq_some_iff.1 stands.getElem?_dot
      exact lt.le
    · intro i m hm j lt lt'
      obtain ⟨outer, houter, -, rfl, rfl⟩ := exists_call_of_matchAt hp hm
      by_contra found
      obtain ⟨m', hm'⟩ := Option.ne_none_iff_exists'.1 found
      obtain ⟨inner, hinner, -, rfl, -⟩ := exists_call_of_matchAt hp hm'
      exact houter.getElem?_ne_dot lt lt' hinner.getElem?_dot

/-- The calls that the pattern finds. -/
def callsBy (p : Pattern) (text : List Char) : List Call :=
  ((callPattern p).allMatches text.toArray).map fun m => Call.readAt text m.start

theorem mem_callsBy (hp : TakesWords p) {call : Call} :
    call ∈ callsBy p text ↔ call.StandsIn text ∧ call.word ∈ p.language := by
  simp only [callsBy, List.mem_map, mem_allMatches_callPattern hp]
  constructor
  · rintro ⟨_, ⟨call', stands, hw, rfl⟩, rfl⟩
    exact stands.eq_readAt ▸ ⟨stands, hw⟩
  · rintro ⟨stands, hw⟩
    exact ⟨call.found, ⟨call, stands, hw, rfl⟩, stands.eq_readAt.symm⟩

theorem pairwise_dot_callsBy (p : Pattern) (text : List Char) :
    (callsBy p text).Pairwise fun call call' => call.dot < call'.dot := by
  rw [callsBy, List.pairwise_map]
  exact pairwise_start_allMatches _ _

end Rules

/-! ## Findings -/

namespace Call

/-- What a rule finds at a call. -/
def candidate (rule : String) (call : Call) : Matching.Candidate :=
  ⟨rule, String.ofList call.word, call.dot, String.ofList call.text⟩

/-- The method that a rule finds at a call. -/
def method (text : List Char) (rule : String) (call : Call) : MethodFeature :=
  ⟨Text.upper (String.ofList call.word), lineAt text call.dot, String.ofList call.text, some rule,
    none⟩

end Call

namespace Matching

open Rules

variable {p : Pattern} {k : CharClass} {text : List Char} {rule : String} {c : Candidate}

theorem candidatesOf_callPattern (rule : String) (hp : TakesWords p) (text : List Char) :
    candidatesOf rule text.toArray (callPattern p) =
      (callsBy p text).map (Call.candidate rule) := by
  rw [callsBy, List.map_map, ← List.filterMap_eq_map, candidatesOf]
  apply List.filterMap_congr
  intro m hm
  obtain ⟨call, stands, -, rfl⟩ := (mem_allMatches_callPattern hp).1 hm
  obtain ⟨-, word, -, -⟩ := (Call.text_prefix_iff call _).1 stands.stands
  have token : call.found.groupText? text.toArray 1 = some (String.ofList call.word) :=
    congrArg some (slice_eq_ofList word)
  have raw : call.found.text text.toArray = String.ofList call.text :=
    slice_eq_ofList stands.stands
  have here : Call.readAt text call.found.start = call := stands.eq_readAt.symm
  simp only [token, raw, Function.comp_apply, here]
  rfl

/-! ### Methods that are not called -/

/-- What may be a method without being called. -/
def uncalled (text : Array Char) : List Candidate :=
  candidatesOf "annotation" text methodMark ++ candidatesOf "annotation" text requestMethod ++
    candidatesOf "config-method" text configMethod ++ listedMethods text

theorem candidates_eq (cfg : ExtractionConfig) (text : Array Char) : candidates cfg text =
    candidatesOf "verb-call" text verbCall ++
      (if cfg.strictMethods then [] else candidatesOf "any-call" text anyCall) ++
      uncalled text := by
  simp only [candidates, uncalled, List.append_assoc]

theorem of_mem_candidatesOf {text : Array Char} (hk : p.head? = some k)
    (h : c ∈ candidatesOf rule text p) :
    c.rule = rule ∧ ∃ d, text[c.offset]? = some d ∧ k.holds d = true := by
  obtain ⟨m, hm, h⟩ := List.mem_filterMap.1 h
  have head := head_of_matchAt hk (matchAt_of_mem_allMatches hm)
  cases hg : m.groupText? text 1 with
  | none => simp [hg] at h
  | some token =>
    rw [hg] at h
    obtain rfl := Option.some.inj h
    exact ⟨rfl, head⟩

theorem of_mem_listedMethods {text : Array Char} (h : c ∈ listedMethods text) :
    c.rule = "config-method" ∧
      ∃ d, text[c.offset]? = some d ∧ (CharClass.anyOf "'\"").holds d = true := by
  obtain ⟨m, -, h⟩ := List.mem_flatMap.1 h
  split at h
  · cases h
  · next start stop _ =>
    obtain ⟨c, hc, rfl⟩ := List.mem_map.1 h
    obtain ⟨rule, d, hd, quote⟩ := of_mem_candidatesOf rfl hc
    refine ⟨rule, d, ?_, quote⟩
    rw [Array.getElem?_extract] at hd
    split at hd
    · exact hd
    · cases hd

theorem ne_dot_of_holds {text : Array Char} {o : ℕ} (hk : k.holds '.' = false)
    (h : ∃ d, text[o]? = some d ∧ k.holds d = true) : text[o]? ≠ some '.' := by
  obtain ⟨d, hd, holds⟩ := h
  intro dot
  obtain rfl := Option.some.inj (hd.symm.trans dot)
  rw [hk] at holds
  cases holds

/-- A method that is not called was found by another rule, and at no dot. -/
theorem of_mem_uncalled {text : Array Char} (h : c ∈ uncalled text) :
    c.rule ≠ "verb-call" ∧ c.rule ≠ "any-call" ∧ text[c.offset]? ≠ some '.' := by
  simp only [uncalled, List.mem_append] at h
  rcases h with ((h | h) | h) | h
  · obtain ⟨rule, head⟩ := of_mem_candidatesOf (k := CharClass.anyOf "@") rfl h
    exact ⟨by simp [rule], by simp [rule], ne_dot_of_holds (by decide) head⟩
  · obtain ⟨rule, head⟩ := of_mem_candidatesOf (k := .one 'R') rfl h
    exact ⟨by simp [rule], by simp [rule], ne_dot_of_holds (by decide) head⟩
  · obtain ⟨rule, head⟩ := of_mem_candidatesOf (k := .anyCase 'm') rfl h
    exact ⟨by simp [rule], by simp [rule], ne_dot_of_holds (by decide) head⟩
  · obtain ⟨rule, head⟩ := of_mem_listedMethods h
    exact ⟨by simp [rule], by simp [rule], ne_dot_of_holds (by decide) head⟩

/-! ### Calls and other methods -/

/-- A candidate with its word in upper case. -/
def Candidate.raised (c : Candidate) : Candidate := { c with token := Text.upper c.token }

/-- What tells candidates apart. -/
def Candidate.key (c : Candidate) : String × ℕ := (c.token, c.offset)

/-- The method that a candidate shows. -/
def Candidate.method (text : List Char) (c : Candidate) : MethodFeature :=
  ⟨c.token, lineAt text c.offset, c.raw, some c.rule, none⟩

theorem methods_eq (cfg : ExtractionConfig) (text : List Char) : methods cfg text.toArray =
    (dedupBy Candidate.key [] ((candidates cfg text.toArray).map Candidate.raised)).map
      (Candidate.method text) := by
  simp only [methods, lineOf_eq_lineAt]
  rfl

/-- The calls of a method of HTTP. -/
def verbCalls (text : List Char) : List Call := callsBy verbAnyCase text

/-- The calls of anything else. -/
def otherCalls (text : List Char) : List Call :=
  (callsBy aWord text).filter fun call => call ∉ verbCalls text

theorem mem_verbCalls {call : Call} :
    call ∈ verbCalls text ↔ call.StandsIn text ∧ IsVerb call.word := by
  rw [verbCalls, mem_callsBy takesWords_verbAnyCase, mem_language_verbAnyCase]

theorem mem_otherCalls {call : Call} :
    call ∈ otherCalls text ↔ call.StandsIn text ∧ ¬IsVerb call.word := by
  rw [otherCalls, List.mem_filter, decide_eq_true_iff, mem_verbCalls,
    mem_callsBy takesWords_aWord]
  constructor
  · rintro ⟨⟨stands, -⟩, other⟩
    exact ⟨stands, fun verb => other ⟨stands, verb⟩⟩
  · rintro ⟨stands, other⟩
    exact ⟨⟨stands, mem_language_plus_char.2 ⟨stands.word_ne, stands.word_chars⟩⟩,
      fun verb => other verb.2⟩

theorem nodup_callsBy (p : Pattern) (text : List Char) : (callsBy p text).Nodup :=
  (pairwise_dot_callsBy p text).imp fun lt same => absurd (same ▸ lt) (lt_irrefl _)

/-- What the rule of calls finds, with the word in upper case. -/
def called (rule : String) (calls : List Call) : List Candidate :=
  calls.map fun call => (call.candidate rule).raised

theorem pairwise_key_called (rule : String) (p : Pattern) (text : List Char) :
    (called rule (callsBy p text)).Pairwise fun c c' => c.key ≠ c'.key := by
  rw [called, List.pairwise_map]
  apply (pairwise_dot_callsBy p text).imp
  intro call call' lt same
  exact lt.ne (Prod.mk.inj same).2

theorem key_mem_called_iff (rule rule' : String) {calls : List Call} {call : Call}
    (hs : ∀ call ∈ calls, call.StandsIn text) (h : call.StandsIn text) :
    (call.candidate rule).raised.key ∈ (called rule' calls).map Candidate.key ↔
      call ∈ calls := by
  rw [called, List.map_map, List.mem_map]
  constructor
  · rintro ⟨call', mem, same⟩
    exact (hs call' mem).eq_of_dot_eq h (Prod.mk.inj same).2 ▸ mem
  · intro mem
    exact ⟨call, mem, rfl⟩

theorem map_raised_candidatesOf (rule : String) (hp : TakesWords p) (text : List Char) :
    (candidatesOf rule text.toArray (callPattern p)).map Candidate.raised =
      called rule (callsBy p text) := by
  rw [candidatesOf_callPattern rule hp, List.map_map]
  rfl

/-- Of what the rule for any word finds, the calls of methods of HTTP were found before. -/
theorem filter_called_callsBy (text : List Char) :
    (called "any-call" (callsBy aWord text)).filter (fun c =>
      !((called "verb-call" (verbCalls text)).map Candidate.key).contains c.key) =
      called "any-call" (otherCalls text) := by
  rw [otherCalls, called.eq_def "any-call", called.eq_def "any-call", List.filter_map]
  congr 1
  apply List.filter_congr
  intro call mem
  have verbs : ∀ call ∈ verbCalls text, call.StandsIn text := fun _ h => (mem_verbCalls.1 h).1
  have same := key_mem_called_iff "any-call" "verb-call" verbs
    ((mem_callsBy takesWords_aWord).1 mem).1
  rw [Bool.eq_iff_iff, decide_eq_true_iff, ← same]
  simp

/-- What is found at no dot is not found at a call. -/
theorem key_notMem_called {z : Candidate} (hz : z ∈ (uncalled text.toArray).map Candidate.raised)
    (rule : String) (hp : TakesWords p) :
    z.key ∉ (called rule (callsBy p text)).map Candidate.key := by
  obtain ⟨c, hc, rfl⟩ := List.mem_map.1 hz
  rw [called, List.map_map, List.mem_map]
  rintro ⟨call, mem, same⟩
  have dot : call.dot = c.offset := (Prod.mk.inj same).2
  apply (of_mem_uncalled hc).2.2
  rw [List.getElem?_toArray, ← dot]
  exact ((mem_callsBy hp).1 mem).1.getElem?_dot

/-- What is found besides calls. -/
def uncalledMethods (text : List Char) : List MethodFeature :=
  (dedupBy Candidate.key ((called "verb-call" (verbCalls text)).map Candidate.key)
    ((uncalled text.toArray).map Candidate.raised)).map (Candidate.method text)

theorem rule_of_mem_uncalledMethods {f : MethodFeature} (h : f ∈ uncalledMethods text) :
    f.rule ≠ some "verb-call" ∧ f.rule ≠ some "any-call" := by
  obtain ⟨c', hc', rfl⟩ := List.mem_map.1 h
  obtain ⟨c, hc, rfl⟩ := List.mem_map.1 ((dedupBy_sublist _ _ _).subset hc')
  obtain ⟨notVerb, notAny, -⟩ := of_mem_uncalled hc
  exact ⟨fun same => notVerb (Option.some.inj same), fun same => notAny (Option.some.inj same)⟩

theorem map_method_called (rule : String) (calls : List Call) (text : List Char) :
    (called rule calls).map (Candidate.method text) = calls.map (Call.method text rule) := by
  rw [called, List.map_map]
  rfl

/-- The calls of methods of HTTP come first, then the other calls, unless the detection is strict,
and then everything else, whether the detection is strict or not. -/
theorem methods_split (cfg : ExtractionConfig) (text : List Char) :
    methods cfg text.toArray = (verbCalls text).map (Call.method text "verb-call") ++
      (if cfg.strictMethods then [] else (otherCalls text).map (Call.method text "any-call")) ++
      uncalledMethods text := by
  have verbs : (candidatesOf "verb-call" text.toArray verbCall).map Candidate.raised =
      called "verb-call" (verbCalls text) := by
    rw [verbCall_eq]
    exact map_raised_candidatesOf "verb-call" takesWords_verbAnyCase text
  have words : (candidatesOf "any-call" text.toArray anyCall).map Candidate.raised =
      called "any-call" (callsBy aWord text) := by
    rw [anyCall_eq]
    exact map_raised_candidatesOf "any-call" takesWords_aWord text
  have apart : (called "verb-call" (verbCalls text)).Pairwise fun c c' => c.key ≠ c'.key :=
    pairwise_key_called "verb-call" verbAnyCase text
  have apart' := pairwise_key_called "any-call" aWord text
  rw [methods_eq, candidates_eq, List.map_append, List.map_append, verbs, uncalledMethods]
  cases cfg.strictMethods with
  | true =>
    rw [if_pos rfl, if_pos rfl, List.map_nil, dedupBy_append_append apart .nil (by simp),
      List.filter_nil, List.map_append, List.map_append, map_method_called, List.map_nil]
  | false =>
    have away : ∀ z ∈ (uncalled text.toArray).map Candidate.raised,
        z.key ∉ (called "any-call" (callsBy aWord text)).map Candidate.key :=
      fun z hz => key_notMem_called hz "any-call" takesWords_aWord
    rw [if_neg Bool.false_ne_true, if_neg Bool.false_ne_true, words,
      dedupBy_append_append apart apart' away, filter_called_callsBy, List.map_append,
      List.map_append, map_method_called, map_method_called]

/-- Of the calls of one rule, those with a rule of some sort are all or none. -/
theorem filter_map_method (keeps : Option String → Bool) (rule : String) (calls : List Call) :
    (calls.map (Call.method text rule)).filter (fun f => keeps f.rule) =
      if keeps (some rule) then calls.map (Call.method text rule) else [] := by
  rw [List.filter_map]
  cases h : keeps (some rule) with
  | true =>
    rw [if_pos rfl, List.filter_eq_self.2]
    exact fun _ _ => h
  | false =>
    rw [if_neg Bool.false_ne_true, List.filter_eq_nil_iff.2, List.map_nil]
    exact fun _ _ => ne_true_of_eq_false h

theorem methods_strict (cfg : ExtractionConfig) (text : List Char) :
    methods { cfg with strictMethods := true } text.toArray =
      (verbCalls text).map (Call.method text "verb-call") ++ uncalledMethods text := by
  rw [methods_split, if_pos rfl, List.append_nil]

theorem methods_loose (cfg : ExtractionConfig) (text : List Char) :
    methods { cfg with strictMethods := false } text.toArray =
      (verbCalls text).map (Call.method text "verb-call") ++
        (otherCalls text).map (Call.method text "any-call") ++ uncalledMethods text :=
  methods_split { cfg with strictMethods := false } text

/-- Without the calls of anything else, what is found is what strict detection finds. -/
theorem filter_methods_loose (cfg : ExtractionConfig) (text : List Char) :
    (methods { cfg with strictMethods := false } text.toArray).filter
      (fun f => f.rule ≠ some "any-call") =
        methods { cfg with strictMethods := true } text.toArray := by
  have rest : (uncalledMethods text).filter (fun f => f.rule ≠ some "any-call") =
      uncalledMethods text := by
    rw [List.filter_eq_self]
    exact fun f h => decide_eq_true (rule_of_mem_uncalledMethods h).2
  rw [methods_loose, methods_strict, List.filter_append, List.filter_append, rest,
    filter_map_method fun r => decide (r ≠ some "any-call"), if_pos (by decide),
    filter_map_method fun r => decide (r ≠ some "any-call"), if_neg (by decide), List.append_nil]

/-- The methods that the two rules for calls find. -/
theorem filter_methods_called (cfg : ExtractionConfig) (text : List Char) :
    (methods { cfg with strictMethods := false } text.toArray).filter
      (fun f => f.rule = some "verb-call" ∨ f.rule = some "any-call") =
        (verbCalls text).map (Call.method text "verb-call") ++
          (otherCalls text).map (Call.method text "any-call") := by
  have rest : (uncalledMethods text).filter (fun f =>
      f.rule = some "verb-call" ∨ f.rule = some "any-call") = [] := by
    rw [List.filter_eq_nil_iff]
    intro f h
    simp [rule_of_mem_uncalledMethods h]
  rw [methods_loose, List.filter_append, List.filter_append, rest, List.append_nil,
    filter_map_method fun r => decide (r = some "verb-call" ∨ r = some "any-call"),
    if_pos (by decide),
    filter_map_method fun r => decide (r = some "verb-call" ∨ r = some "any-call"),
    if_pos (by decide)]

/-- All calls in a text. -/
def calls (text : List Char) : List Call := verbCalls text ++ otherCalls text

theorem mem_calls {call : Call} : call ∈ calls text ↔ call.StandsIn text := by
  rw [calls, List.mem_append, mem_verbCalls, mem_otherCalls, ← and_or_left]
  exact and_iff_left (em _)

theorem nodup_calls (text : List Char) : (calls text).Nodup := by
  apply List.Nodup.append (nodup_callsBy _ _) ((nodup_callsBy _ _).filter _)
  intro call verb other
  exact (mem_otherCalls.1 other).2 (mem_verbCalls.1 verb).2

end Matching

/-! ## Strict detection -/

open Matching in
/-- Strict detection leaves out the calls of words that are no methods of HTTP, and nothing else.
Without it, every call in a text shows one method, by one of the two rules for calls: the word in
upper case, on the line of the dot. -/
theorem methods_of_calls (cfg : ExtractionConfig) (text : List Char) :
    let strict := FeatureSet.ofPatterns { cfg with strictMethods := true } text.toArray
    let loose := FeatureSet.ofPatterns { cfg with strictMethods := false } text.toArray
    strict.methods = loose.methods.filter (fun f => f.rule ≠ some "any-call") ∧
      ∃ calls : List Call, calls.Nodup ∧ (∀ call, call ∈ calls ↔ call.StandsIn text) ∧
        List.Forall₂ (fun call (f : MethodFeature) =>
          f.method = Text.upper (String.ofList call.word) ∧ f.line = lineAt text call.dot ∧
            f.rawMatch = String.ofList call.text ∧
            (f.rule = some "verb-call" ↔ Rules.IsVerb call.word))
          calls (loose.methods.filter fun f =>
            f.rule = some "verb-call" ∨ f.rule = some "any-call") := by
  intro strict loose
  refine ⟨(filter_methods_loose cfg text).symm, calls text, nodup_calls text,
    fun call => mem_calls, ?_⟩
  have found : loose.methods.filter (fun f =>
      f.rule = some "verb-call" ∨ f.rule = some "any-call") = _ := filter_methods_called cfg text
  rw [found, calls]
  apply List.rel_append
  · rw [List.forall₂_map_right_iff, List.forall₂_same]
    intro call mem
    exact ⟨rfl, rfl, rfl, iff_of_true rfl (mem_verbCalls.1 mem).2⟩
  · rw [List.forall₂_map_right_iff, List.forall₂_same]
    intro call mem
    refine ⟨rfl, rfl, rfl, iff_of_false ?_ (mem_otherCalls.1 mem).2⟩
    show some "any-call" ≠ some "verb-call"
    decide

example : (Matching.methods ⟨[], 0, false⟩ "a.run(b.Get (x))".toList.toArray).map
    (fun f => (f.method, f.rule)) = [("GET", some "verb-call"), ("RUN", some "any-call")] := by
  decide +kernel

end ApiAccord
