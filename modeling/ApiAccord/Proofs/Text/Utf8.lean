import ApiAccord.Text.Utf8
import Mathlib.Data.List.Basic
import Mathlib.Order.Nat

/-!
# Texts that are stored and read again

`Utf8.read` gives back what `Utf8.encode` wrote, if no carriage return was in it
(`Utf8.read_encode`): each character is read from its one to four bytes, and line feeds stay what
they are.
-/

namespace ApiAccord.Text.Utf8

/-! ## Bytes of a text -/

theorem toList_loop (bs : ByteArray) (i : ℕ) (r : List UInt8) :
    ByteArray.toList.loop bs i r = r.reverse ++ bs.data.toList.drop i := by
  fun_induction ByteArray.toList.loop bs i r with
  | case1 i r h ih =>
    have here : bs.get! i = getElem bs.data i h := getElem!_pos bs.data i h
    rw [ih, List.reverse_cons, List.append_assoc, List.drop_eq_getElem_cons h, here]
    rfl
  | case2 i r h =>
    have past : bs.data.toList.length ≤ i := not_lt.1 h
    rw [List.drop_eq_nil_of_le past, List.append_nil]

theorem encode_eq (s : String) : encode s = s.toList.flatMap String.utf8EncodeChar := by
  have bytes : s.toUTF8 = (s.toList.flatMap String.utf8EncodeChar).toByteArray :=
    String.utf8Encode_toList.symm
  rw [encode, bytes, ByteArray.toList, toList_loop, List.toList_data_toByteArray]
  rfl

/-! ## One character -/

section Characters

variable {n : ℕ} (rest : List UInt8)

theorem toNat_byte (h : n < 256) : (UInt8.ofNat n).toNat = n := UInt8.toNat_ofNat_of_lt' h

theorem isContinuation_iff {b : UInt8} :
    isContinuation b = true ↔ 0x80 ≤ b.toNat ∧ b.toNat ≤ 0xBF := by
  simp [isContinuation, UInt8.le_iff_toNat_le]

theorem maySecond_iff {a b : UInt8} : maySecond a b = true ↔ (0x80 ≤ b.toNat ∧ b.toNat ≤ 0xBF) ∧
    (a.toNat = 0xE0 → 0xA0 ≤ b.toNat) ∧ (a.toNat = 0xED → b.toNat ≤ 0x9F) ∧
    (a.toNat = 0xF0 → 0x90 ≤ b.toNat) ∧ (a.toNat = 0xF4 → b.toNat ≤ 0x8F) := by
  simp [maySecond, isContinuation_iff, UInt8.lt_iff_toNat_lt, ← UInt8.toNat_inj, and_assoc,
    imp_iff_not_or]

theorem unit_one (h : n < 0x80) : unit (UInt8.ofNat n) rest = .char (Char.ofNat n) 0 := by
  have first := toNat_byte (h.trans (by decide))
  simp [unit, UInt8.lt_iff_toNat_lt, first, h]

theorem unit_two (h₁ : 0x80 ≤ n) (h₂ : n < 0x800) :
    unit (UInt8.ofNat (n / 64 % 32 + 192)) (UInt8.ofNat (n % 64 + 128) :: rest) =
      .char (Char.ofNat n) 1 := by
  have first := toNat_byte (show n / 64 % 32 + 192 < 256 by omega)
  have second := toNat_byte (show n % 64 + 128 < 256 by omega)
  generalize UInt8.ofNat (n / 64 % 32 + 192) = a at *
  generalize UInt8.ofNat (n % 64 + 128) = b at *
  have low : ¬ a.toNat < 0x80 := by omega
  have start : ¬ (a.toNat < 0xC2 ∨ 0xF4 < a.toNat) := by omega
  have may : maySecond a b = true := maySecond_iff.2 (by omega)
  have two : a.toNat < 0xE0 := by omega
  have value : extend (a.toNat % 32) b = n := by unfold extend; omega
  simp [unit, UInt8.lt_iff_toNat_lt, low, start, may, two, value]

theorem unit_three (h₁ : 0x800 ≤ n) (h₂ : n < 0x10000) (hs : ¬ (0xD800 ≤ n ∧ n < 0xE000)) :
    unit (UInt8.ofNat (n / 4096 % 16 + 224)) (UInt8.ofNat (n / 64 % 64 + 128) ::
      UInt8.ofNat (n % 64 + 128) :: rest) = .char (Char.ofNat n) 2 := by
  have first := toNat_byte (show n / 4096 % 16 + 224 < 256 by omega)
  have second := toNat_byte (show n / 64 % 64 + 128 < 256 by omega)
  have third := toNat_byte (show n % 64 + 128 < 256 by omega)
  generalize UInt8.ofNat (n / 4096 % 16 + 224) = a at *
  generalize UInt8.ofNat (n / 64 % 64 + 128) = b at *
  generalize UInt8.ofNat (n % 64 + 128) = c at *
  have low : ¬ a.toNat < 0x80 := by omega
  have start : ¬ (a.toNat < 0xC2 ∨ 0xF4 < a.toNat) := by omega
  have may : maySecond a b = true := maySecond_iff.2 (by omega)
  have two : ¬ a.toNat < 0xE0 := by omega
  have last : isContinuation c = true := isContinuation_iff.2 (by omega)
  have three : a.toNat < 0xF0 := by omega
  have value : extend (extend (a.toNat % 16) b) c = n := by unfold extend; omega
  simp [unit, UInt8.lt_iff_toNat_lt, low, start, may, two, last, three, value]

theorem unit_four (h₁ : 0x10000 ≤ n) (h₂ : n < 0x110000) :
    unit (UInt8.ofNat (n / 262144 % 8 + 240)) (UInt8.ofNat (n / 4096 % 64 + 128) ::
      UInt8.ofNat (n / 64 % 64 + 128) :: UInt8.ofNat (n % 64 + 128) :: rest) =
        .char (Char.ofNat n) 3 := by
  have first := toNat_byte (show n / 262144 % 8 + 240 < 256 by omega)
  have second := toNat_byte (show n / 4096 % 64 + 128 < 256 by omega)
  have third := toNat_byte (show n / 64 % 64 + 128 < 256 by omega)
  have fourth := toNat_byte (show n % 64 + 128 < 256 by omega)
  generalize UInt8.ofNat (n / 262144 % 8 + 240) = a at *
  generalize UInt8.ofNat (n / 4096 % 64 + 128) = b at *
  generalize UInt8.ofNat (n / 64 % 64 + 128) = c at *
  generalize UInt8.ofNat (n % 64 + 128) = d at *
  have low : ¬ a.toNat < 0x80 := by omega
  have start : ¬ (a.toNat < 0xC2 ∨ 0xF4 < a.toNat) := by omega
  have may : maySecond a b = true := maySecond_iff.2 (by omega)
  have two : ¬ a.toNat < 0xE0 := by omega
  have next : isContinuation c = true := isContinuation_iff.2 (by omega)
  have three : ¬ a.toNat < 0xF0 := by omega
  have last : isContinuation d = true := isContinuation_iff.2 (by omega)
  have value : extend (extend (extend (a.toNat % 8) b) c) d = n := by unfold extend; omega
  simp [unit, UInt8.lt_iff_toNat_lt, low, start, may, two, next, three, last, value]

/-- The bytes of a character begin with this character. -/
theorem exists_unit (c : Char) : ∃ b more, String.utf8EncodeChar c = b :: more ∧
    ∀ rest, unit b (more ++ rest) = .char c more.length := by
  have valid := c.valid
  have whole : Char.ofNat c.val.toNat = c := Char.ofNat_toNat c
  simp only [UInt32.isValidChar, Nat.isValidChar] at valid
  unfold String.utf8EncodeChar
  dsimp only
  generalize c.val.toNat = n at valid whole ⊢
  rw [← whole]
  split
  · exact ⟨_, _, rfl, fun rest => unit_one rest (n := n) (by omega)⟩
  split
  · exact ⟨_, _, rfl, fun rest => unit_two rest (n := n) (by omega) (by omega)⟩
  split
  · exact ⟨_, _, rfl, fun rest => unit_three rest (n := n) (by omega) (by omega) (by omega)⟩
  · exact ⟨_, _, rfl, fun rest => unit_four rest (n := n) (by omega) (by omega)⟩

end Characters

/-! ## Whole texts -/

theorem firstFault?_encoded (cs : List Char) (position : ℕ) :
    firstFault? position (cs.flatMap String.utf8EncodeChar) = none := by
  induction cs generalizing position with
  | nil => rw [List.flatMap_nil, firstFault?]
  | cons c cs ih =>
    obtain ⟨b, more, bytes, char⟩ := exists_unit c
    rw [List.flatMap_cons, bytes, List.cons_append, firstFault?, char]
    dsimp only
    rw [List.drop_left]
    exact ih _

theorem decodeOnto_encoded (cs done : List Char) :
    decodeOnto done (cs.flatMap String.utf8EncodeChar) = done.reverse ++ cs := by
  induction cs generalizing done with
  | nil => rw [List.flatMap_nil, decodeOnto, List.append_nil]
  | cons c cs ih =>
    obtain ⟨b, more, bytes, char⟩ := exists_unit c
    rw [List.flatMap_cons, bytes, List.cons_append, decodeOnto, char]
    dsimp only
    rw [List.drop_left, ih, List.reverse_cons, List.append_assoc, List.singleton_append]

theorem unifyLinesOnto_of_notMem {cs : List Char} (h : '\r' ∉ cs) (done : List Char) :
    unifyLinesOnto done cs = done.reverse ++ cs := by
  induction cs generalizing done with
  | nil => rw [unifyLinesOnto, List.append_nil]
  | cons c cs ih =>
    obtain ⟨hc, hcs⟩ := not_or.1 (mt List.mem_cons.2 h)
    unfold unifyLinesOnto
    split
    · next heq => cases heq
    · next heq =>
      cases heq
      exact absurd rfl hc
    · next heq =>
      cases heq
      exact absurd rfl hc
    · next heq =>
      cases heq
      rw [ih hcs, List.reverse_cons, List.append_assoc, List.singleton_append]

/-- A text without carriage returns is read back from its bytes. -/
theorem read_encode {s : String} (h : '\r' ∉ s.toList) : read (encode s) = .ok s := by
  rw [read, encode_eq, firstFault?_encoded]
  dsimp only
  rw [characters, decodeOnto_encoded, unifyLinesOnto_of_notMem (by simpa using h)]
  simp

end ApiAccord.Text.Utf8
