import ApiAccord.Json.Printer
import ApiAccord.Json.Reader
import Mathlib.Data.List.Basic
import Mathlib.Order.Nat

/-!
# Texts read back

In JSON a text stands in quotes, with letters or code points for some of its characters.  `ascii`
writes code points for those beyond the tilde, too, as pairs where one does not suffice; else they
stand for themselves.  Either way is a `Spelling`, and `readText` takes each character as it is
meant (`Spelling.readText_escapeChar`), and so a whole text (`Spelling.readText_quote`).
-/

namespace ApiAccord.Json

/-! ## Characters -/

/-- The character is a line feed, or one from blank to tilde. -/
def Clean (c : Char) : Prop := c = '\n' ∨ ' ' ≤ c ∧ c ≤ '~'

instance (c : Char) : Decidable (Clean c) := inferInstanceAs (Decidable (_ ∨ _))

theorem Clean.le {c : Char} (h : Clean c) : c ≤ '~' := by
  rcases h with rfl | ⟨-, h⟩
  · decide
  · exact h

/-- Characters as they are written where only those up to the tilde may stand. -/
def ascii (cs : List Char) : List Char := cs.flatMap fun c => if '~' < c then escapeWide c else [c]

theorem toList_toAscii (s : String) : (toAscii s).toList = ascii s.toList := by
  simp [toAscii, ascii]

@[simp]
theorem ascii_append (as bs : List Char) : ascii (as ++ bs) = ascii as ++ ascii bs :=
  List.flatMap_append

@[simp]
theorem ascii_nil : ascii [] = [] := rfl

theorem ascii_cons_of_le {c : Char} (h : c ≤ '~') (cs : List Char) :
    ascii (c :: cs) = c :: ascii cs := by
  simp [ascii, Char.not_lt.2 h]

/-- Clean characters are written as they are. -/
theorem ascii_of_clean {cs : List Char} (h : ∀ c ∈ cs, Clean c) : ascii cs = cs := by
  induction cs with
  | nil => rfl
  | cons c cs ih =>
    rw [ascii_cons_of_le (h c List.mem_cons_self).le,
      ih fun d hd => h d (List.mem_cons_of_mem _ hd)]

/-! ## Code points -/

theorem clean_digitChar {d : ℕ} (hd : d < 16) : Clean (Nat.digitChar d) := by decide +revert

theorem hexValue?_digitChar {d : ℕ} (hd : d < 16) :
    Text.hexValue? (Nat.digitChar d) = some d := by
  decide +revert

theorem hexPadded_succ {width : ℕ} (hw : 0 < width) (n : ℕ) :
    Text.hexPadded (width + 1) n = Text.hexPadded width (n / 16) ++ [Nat.digitChar (n % 16)] := by
  obtain ⟨k, rfl⟩ : ∃ k, width = k + 1 := ⟨width - 1, by omega⟩
  unfold Text.hexPadded Decimal.padLeft
  rcases lt_or_ge n 16 with h | h
  · rw [Nat.toDigits_of_lt_base h, Nat.div_eq_of_lt h, Nat.mod_eq_of_lt h, Nat.toDigits_zero]
    simp [← List.replicate_succ']
  · rw [Nat.toDigits_of_base_le (by decide) h]
    simp

theorem hexPadded_four {n : ℕ} (hn : n < 65536) : Text.hexPadded 4 n =
    [Nat.digitChar (n / 4096), Nat.digitChar (n / 256 % 16), Nat.digitChar (n / 16 % 16),
      Nat.digitChar (n % 16)] := by
  have first : Text.hexPadded 1 (n / 4096) = [Nat.digitChar (n / 4096)] := by
    simp [Text.hexPadded, Decimal.padLeft, Nat.toDigits_of_lt_base (by omega : n / 4096 < 16)]
  rw [hexPadded_succ (by decide), hexPadded_succ (by decide), hexPadded_succ (by decide)]
  simp only [Nat.div_div_eq_div_mul, Nat.reduceMul, first, List.cons_append, List.nil_append]

theorem length_hexPadded_four {n : ℕ} (hn : n < 65536) : (Text.hexPadded 4 n).length = 4 := by
  rw [hexPadded_four hn]
  rfl

/-- Four hexadecimal digits are read back. -/
theorem hex4?_hexPadded {n : ℕ} (hn : n < 65536) (rest : List Char) :
    hex4? (Text.hexPadded 4 n ++ rest) = some (n, rest) := by
  rw [hexPadded_four hn]
  simp only [List.cons_append, List.nil_append, hex4?,
    hexValue?_digitChar (by omega : n / 4096 < 16),
    hexValue?_digitChar (by omega : n / 256 % 16 < 16),
    hexValue?_digitChar (by omega : n / 16 % 16 < 16), hexValue?_digitChar (by omega : n % 16 < 16)]
  simp
  omega

section Characters

variable {start fuel : ℕ} {tail : List Char} {n : ℕ}

/-- A code point that is not half of a pair. -/
theorem readCodePoint_group (hn : n < 65536) (hs : ¬ (0xd800 ≤ n ∧ n < 0xe000)) (ht : tail ≠ []) :
    readCodePoint (Text.hexPadded 4 n ++ tail) = .ok (Char.ofNat n, tail) := by
  have long : ¬ (Text.hexPadded 4 n ++ tail).length < 5 := by
    have := List.length_pos_of_ne_nil ht
    rw [List.length_append, length_hexPadded_four hn]
    omega
  have whole : charOf n = Char.ofNat n := by simp [charOf, hs]
  have high : isHighSurrogate n = false := by
    simp [isHighSurrogate]
    omega
  unfold readCodePoint
  simp only [long, if_false, hex4?_hexPadded hn, high, Bool.false_and, Bool.false_eq_true, whole]

/-- Two code points that make a pair. -/
theorem readCodePoint_pair (hn : 0x10000 ≤ n) (hm : n < 0x110000) (ht : tail ≠ []) :
    readCodePoint (Text.hexPadded 4 (0xD800 + (n - 0x10000) / 0x400) ++
      ('\\' :: 'u' :: (Text.hexPadded 4 (0xDC00 + (n - 0x10000) % 0x400) ++ tail))) =
      .ok (Char.ofNat n, tail) := by
  have first : 0xD800 + (n - 0x10000) / 0x400 < 65536 := by omega
  have second : 0xDC00 + (n - 0x10000) % 0x400 < 65536 := by omega
  have long : ¬ (Text.hexPadded 4 (0xD800 + (n - 0x10000) / 0x400) ++
      ('\\' :: 'u' :: (Text.hexPadded 4 (0xDC00 + (n - 0x10000) % 0x400) ++ tail))).length < 5 := by
    rw [List.length_append, length_hexPadded_four first, List.length_cons]
    omega
  have enough : 6 < ('\\' :: 'u' ::
      (Text.hexPadded 4 (0xDC00 + (n - 0x10000) % 0x400) ++ tail)).length := by
    have := List.length_pos_of_ne_nil ht
    rw [List.length_cons, List.length_cons, List.length_append, length_hexPadded_four second]
    omega
  have high : isHighSurrogate (0xD800 + (n - 0x10000) / 0x400) = true := by
    simp [isHighSurrogate]
    omega
  have low : isLowSurrogate (0xDC00 + (n - 0x10000) % 0x400) = true := by
    simp [isLowSurrogate]
    omega
  have sum : 0x10000 + (0xD800 + (n - 0x10000) / 0x400 - 0xd800) * 0x400 +
      (0xDC00 + (n - 0x10000) % 0x400 - 0xdc00) = n := by omega
  unfold readCodePoint
  simp only [long, if_false, hex4?_hexPadded first, high, enough, decide_true, Bool.and_self,
    if_true, hex4?_hexPadded second, low, sum]

theorem escapeWide_of_lt {c : Char} (h : c.toNat < 0x10000) :
    escapeWide c = '\\' :: 'u' :: Text.hexPadded 4 c.toNat := if_pos h

theorem escapeWide_of_ge {c : Char} (h : 0x10000 ≤ c.toNat) :
    escapeWide c = ('\\' :: 'u' :: Text.hexPadded 4 (0xD800 + (c.toNat - 0x10000) / 0x400)) ++
      ('\\' :: 'u' :: Text.hexPadded 4 (0xDC00 + (c.toNat - 0x10000) % 0x400)) :=
  if_neg (Nat.not_lt.2 h)

/-- A character by its code point. -/
theorem readText_codePoint {c : Char} {text : List Char} (h : readCodePoint text = .ok (c, tail)) :
    readText start (fuel + 1) ('\\' :: 'u' :: text) = (do
      let (ds, rest) ← readText start fuel tail
      return (c :: ds, rest)) := by
  simp only [readText, h]
  rfl

theorem clean_group {n : ℕ} (hn : n < 65536) :
    ∀ c ∈ '\\' :: 'u' :: Text.hexPadded 4 n, Clean c := by
  intro c hc
  rw [hexPadded_four hn] at hc
  simp only [List.mem_cons, List.not_mem_nil, or_false] at hc
  rcases hc with rfl | rfl | rfl | rfl | rfl | rfl
  · decide
  · decide
  all_goals exact clean_digitChar (by omega)

theorem toNat_cases (c : Char) :
    c.toNat < 0x110000 ∧ ¬ (0xd800 ≤ c.toNat ∧ c.toNat < 0xe000) := by
  have valid : c.toNat < 0xd800 ∨ 0xdfff < c.toNat ∧ c.toNat < 0x110000 := c.valid
  omega

/-- A character that stands for itself. -/
theorem readText_plain {c : Char} (hq : ¬ (c == '"' || c == '\\') = true) (hc : ¬ c.toNat < 0x20) :
    readText start (fuel + 1) (c :: tail) = (do
      let (ds, rest) ← readText start fuel tail
      return (c :: ds, rest)) := by
  simp only [Bool.or_eq_true, not_or] at hq
  rw [readText.eq_def]
  simp [hq, hc]

/-- A character by its letter. -/
theorem readText_escapeOf {c e : Char} (he : escapeOf? e = some c) (hu : e ≠ 'u') :
    readText start (fuel + 1) ('\\' :: e :: tail) = (do
      let (ds, rest) ← readText start fuel tail
      return (c :: ds, rest)) := by
  simp [readText, he, hu]

theorem escapeWide_ne_nil (c : Char) : escapeWide c ≠ [] := by
  rcases Nat.lt_or_ge c.toNat 0x10000 with h | h
  · rw [escapeWide_of_lt h]
    exact List.cons_ne_nil _ _
  · rw [escapeWide_of_ge h, List.cons_append]
    exact List.cons_ne_nil _ _

theorem readText_escapeWide (c : Char) (ht : tail ≠ []) :
    readText start (fuel + 1) (escapeWide c ++ tail) = (do
      let (ds, rest) ← readText start fuel tail
      return (c :: ds, rest)) := by
  obtain ⟨valid, whole⟩ := toNat_cases c
  rcases Nat.lt_or_ge c.toNat 0x10000 with h | h
  · have read := readCodePoint_group h whole ht
    rw [Char.ofNat_toNat] at read
    rw [escapeWide_of_lt h, List.cons_append, List.cons_append]
    exact readText_codePoint read
  · have read := readCodePoint_pair h valid ht
    rw [Char.ofNat_toNat] at read
    rw [escapeWide_of_ge h, List.append_assoc, List.cons_append, List.cons_append,
      List.cons_append, List.cons_append]
    exact readText_codePoint read

end Characters

theorem clean_escapeWide (c : Char) : ∀ d ∈ escapeWide c, Clean d := by
  have bound := (toNat_cases c).1
  rcases Nat.lt_or_ge c.toNat 0x10000 with h | h
  · rw [escapeWide_of_lt h]
    exact clean_group h
  · rw [escapeWide_of_ge h]
    exact List.forall_mem_append.2 ⟨clean_group (by omega), clean_group (by omega)⟩

/-! ## Spellings -/

/-- The character stands in a text without a backslash. -/
def Plain (c : Char) : Prop := ¬ (c == '"' || c == '\\') = true ∧ ¬ c.toNat < 0x20

/-- What stands for a character of a text: itself, if it is plain, else clean characters after a
backslash, which are read as it is meant. -/
theorem escapeChar_cases (c : Char) : (Plain c ∧ escapeChar c = [c]) ∨
    (∃ d cs, escapeChar c = d :: cs) ∧ (∀ d ∈ escapeChar c, Clean d) ∧
      ∀ start fuel tail, tail ≠ [] → readText start (fuel + 1) (escapeChar c ++ tail) = (do
        let (ds, rest) ← readText start fuel tail
        return (c :: ds, rest)) := by
  have letter {c e : Char} (he : escapeOf? e = some c) (hu : e ≠ 'u') (clean : Clean e) :
      (∃ d cs, ['\\', e] = d :: cs) ∧ (∀ d ∈ ['\\', e], Clean d) ∧
        ∀ start fuel tail, tail ≠ [] → readText start (fuel + 1) (['\\', e] ++ tail) = (do
          let (ds, rest) ← readText start fuel tail
          return (c :: ds, rest)) :=
    ⟨⟨_, _, rfl⟩, List.forall_mem_cons.2 ⟨by decide, List.forall_mem_singleton.2 clean⟩,
      fun _ _ _ _ => readText_escapeOf he hu⟩
  unfold escapeChar
  split
  · next h =>
    simp only [Bool.or_eq_true, beq_iff_eq] at h
    rcases h with rfl | rfl <;> exact .inr (letter rfl (by decide) (by decide))
  split
  · next h => exact .inr (beq_iff_eq.1 h ▸ letter rfl (by decide) (by decide))
  split
  · next h => exact .inr (beq_iff_eq.1 h ▸ letter rfl (by decide) (by decide))
  split
  · next h => exact .inr (beq_iff_eq.1 h ▸ letter rfl (by decide) (by decide))
  split
  · next h => exact .inr (beq_iff_eq.1 h ▸ letter rfl (by decide) (by decide))
  split
  · next h => exact .inr (beq_iff_eq.1 h ▸ letter rfl (by decide) (by decide))
  split
  · refine .inr ⟨⟨_, _, rfl⟩, clean_group (by omega), fun start fuel tail ht => ?_⟩
    have read := readCodePoint_group (n := c.toNat) (by omega) (toNat_cases c).2 ht
    rw [Char.ofNat_toNat] at read
    exact readText_codePoint read
  · next quote _ _ _ _ _ control => exact .inl ⟨⟨quote, control⟩, rfl⟩

/-- A way to write characters: clean ones stay as they are, and a plain one is read as it is meant.
All characters that are written are `fine`. -/
structure Spelling (enc : List Char → List Char) (fine : Char → Prop) : Prop where
  append : ∀ as bs, enc (as ++ bs) = enc as ++ enc bs
  clean : ∀ {cs}, (∀ c ∈ cs, Clean c) → enc cs = cs
  fine_of_clean : ∀ {c}, Clean c → fine c
  fine_of_plain : ∀ {c}, Plain c → ∀ d ∈ enc [c], fine d
  ne_nil_of_plain : ∀ {c}, Plain c → enc [c] ≠ []
  read_plain : ∀ {c}, Plain c → ∀ start fuel tail, tail ≠ [] →
    readText start (fuel + 1) (enc [c] ++ tail) = (do
      let (ds, rest) ← readText start fuel tail
      return (c :: ds, rest))

theorem spelling_ascii : Spelling ascii Clean where
  append := ascii_append
  clean := ascii_of_clean
  fine_of_clean := id
  fine_of_plain := fun {c} h => by
    by_cases wide : '~' < c
    · have text : ascii [c] = escapeWide c := by simp [ascii, wide]
      exact text ▸ clean_escapeWide c
    · have clean : Clean c := .inr ⟨Nat.le_of_not_lt h.2, Char.not_lt.1 wide⟩
      rw [ascii_cons_of_le clean.le, ascii_nil]
      exact List.forall_mem_singleton.2 clean
  ne_nil_of_plain := fun {c} _ => by
    by_cases wide : '~' < c
    · have text : ascii [c] = escapeWide c := by simp [ascii, wide]
      exact text ▸ escapeWide_ne_nil c
    · rw [ascii_cons_of_le (Char.not_lt.1 wide)]
      exact List.cons_ne_nil _ _
  read_plain := fun {c} h start fuel tail ht => by
    by_cases wide : '~' < c
    · have text : ascii [c] = escapeWide c := by simp [ascii, wide]
      exact text ▸ readText_escapeWide c ht
    · rw [ascii_cons_of_le (Char.not_lt.1 wide), ascii_nil]
      exact readText_plain h.1 h.2

/-- The character is a line feed, or none of the control characters before the blank. -/
def Laid (c : Char) : Prop := c = '\n' ∨ ' ' ≤ c

theorem spelling_id : Spelling id Laid where
  append := fun _ _ => rfl
  clean := fun _ => rfl
  fine_of_clean := fun h => h.imp_right And.left
  fine_of_plain := fun h => List.forall_mem_singleton.2 (.inr (Nat.le_of_not_lt h.2))
  ne_nil_of_plain := fun _ => List.cons_ne_nil _ _
  read_plain := fun h _ _ _ _ => readText_plain h.1 h.2

namespace Spelling

variable {enc : List Char → List Char} {fine : Char → Prop} (sp : Spelling enc fine)

include sp

theorem nil : enc [] = [] := sp.clean fun _ h => absurd h List.not_mem_nil

theorem cons_of_clean {c : Char} (hc : Clean c) (cs : List Char) : enc (c :: cs) = c :: enc cs := by
  have first := sp.clean (List.forall_mem_singleton.2 hc)
  rw [← List.singleton_append, sp.append, first, List.singleton_append]

/-- A character of a text is read as it is written. -/
theorem readText_escapeChar (start fuel : ℕ) (c : Char) {tail : List Char} (ht : tail ≠ []) :
    readText start (fuel + 1) (enc (escapeChar c) ++ tail) = (do
      let (ds, rest) ← readText start fuel tail
      return (c :: ds, rest)) := by
  rcases escapeChar_cases c with ⟨plain, self⟩ | ⟨-, clean, read⟩
  · rw [self]
    exact sp.read_plain plain start fuel tail ht
  · rw [sp.clean clean]
    exact read start fuel tail ht

theorem fine_escapeChar (c : Char) : ∀ d ∈ enc (escapeChar c), fine d := by
  rcases escapeChar_cases c with ⟨plain, self⟩ | ⟨-, clean, -⟩
  · exact self ▸ sp.fine_of_plain plain
  · rw [sp.clean clean]
    exact fun d hd => sp.fine_of_clean (clean d hd)

theorem escapeChar_ne_nil (c : Char) : enc (escapeChar c) ≠ [] := by
  rcases escapeChar_cases c with ⟨plain, self⟩ | ⟨⟨d, cs, hd⟩, clean, -⟩
  · exact self ▸ sp.ne_nil_of_plain plain
  · rw [sp.clean clean, hd]
    exact List.cons_ne_nil d cs

/-! ## Whole texts -/

/-- A text is read back from its characters, up to the quote that ends it. -/
theorem readText_escapeChars (start : ℕ) (cs rest : List Char) {fuel : ℕ} (hf : cs.length < fuel) :
    readText start fuel (enc (cs.flatMap escapeChar) ++ '"' :: rest) = .ok (cs, rest) := by
  induction cs generalizing fuel with
  | nil =>
    obtain ⟨fuel, rfl⟩ : ∃ k, fuel = k + 1 := ⟨fuel - 1, by simp at hf; omega⟩
    rw [List.flatMap_nil, sp.nil]
    rfl
  | cons c cs ih =>
    obtain ⟨fuel, rfl⟩ : ∃ k, fuel = k + 1 := ⟨fuel - 1, by simp at hf; omega⟩
    rw [List.flatMap_cons, sp.append, List.append_assoc,
      sp.readText_escapeChar start fuel c (by simp), ih (by simpa using hf)]
    rfl

theorem length_le_escapeChars (cs : List Char) :
    cs.length ≤ (enc (cs.flatMap escapeChar)).length := by
  induction cs with
  | nil => exact Nat.zero_le _
  | cons c cs ih =>
    have := List.length_pos_of_ne_nil (sp.escapeChar_ne_nil c)
    rw [List.flatMap_cons, sp.append, List.length_append, List.length_cons]
    omega

theorem toList_quote (s : String) :
    enc (quote s).toList = '"' :: (enc (s.toList.flatMap escapeChar) ++ ['"']) := by
  rw [quote, String.toList_ofList, List.cons_append, sp.cons_of_clean (by decide), sp.append,
    sp.cons_of_clean (by decide), sp.nil]

/-- The characters after the quote that a text begins with. -/
theorem readText_quote (start : ℕ) (s : String) (rest : List Char) :
    readText start ((enc (s.toList.flatMap escapeChar) ++ '"' :: rest).length + 1)
      (enc (s.toList.flatMap escapeChar) ++ '"' :: rest) = .ok (s.toList, rest) := by
  have := sp.length_le_escapeChars s.toList
  exact sp.readText_escapeChars start _ _ (by rw [List.length_append]; omega)

theorem fine_quote (s : String) : ∀ c ∈ enc (quote s).toList, fine c := by
  have each : ∀ cs : List Char, ∀ c ∈ enc (cs.flatMap escapeChar), fine c := by
    intro cs
    induction cs with
    | nil =>
      rw [List.flatMap_nil, sp.nil]
      exact fun c hc => (by cases hc)
    | cons c cs ih =>
      rw [List.flatMap_cons, sp.append]
      exact List.forall_mem_append.2 ⟨sp.fine_escapeChar c, ih⟩
  have mark : fine '"' := sp.fine_of_clean (by decide)
  rw [sp.toList_quote]
  exact List.forall_mem_cons.2
    ⟨mark, List.forall_mem_append.2 ⟨each _, List.forall_mem_singleton.2 mark⟩⟩

end Spelling

end ApiAccord.Json
