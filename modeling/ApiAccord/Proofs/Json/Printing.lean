import ApiAccord.Proofs.Json.Numbers
import ApiAccord.Proofs.Json.Texts
import ApiAccord.Proofs.Settings.Merging

/-!
# JSON read back

`Value.asJson?` is what JSON holds of a value: pairs are lists, keys are names, and the last member
of a name counts.  A value is printed exactly if JSON has a form for it, and reading what is printed
gives this form (`print_read`).  A `Portable` value is one that JSON gives back as it is: its keys
are different names, and its integers are not too long to be read (`exists_print_read`).
-/

namespace ApiAccord

/-! ## Portable values -/

/-- A mapping is what its members make of it, one after the other. -/
theorem Members.ofEntries_eq {ms : Members} (h : ms.Apart) : Members.ofEntries ms = ms := by
  have step : ∀ done : Members, (done ++ ms).Apart →
      ms.foldl (fun ms e => Members.insert e.1 e.2 ms) done = done ++ ms := by
    clear h
    induction ms with
    | nil => exact fun done _ => (List.append_nil done).symm
    | cons m rest ih =>
      intro done apart
      have new : Members.insert m.1 m.2 done = done ++ [m] := by
        have each : ∀ n ∈ done, n.1.same m.1 = false := fun n hn =>
          (List.pairwise_append.1 apart).2.2 n hn m List.mem_cons_self
        clear ih apart
        induction done with
        | nil => rfl
        | cons n done ih =>
          rw [Members.insert, each n List.mem_cons_self,
            ih fun n' hn => each n' (List.mem_cons_of_mem _ hn)]
          rfl
      rw [List.foldl_cons, new, ih _ (by rwa [List.append_assoc]), List.append_assoc]
      rfl
  exact step [] h

/-- The value is given back by JSON: integers are not too long, and keys are different names. -/
inductive Value.Portable : Value → Prop
  | null : Portable .null
  | bool (b : Bool) : Portable (.bool b)
  | int {i : Int} (short : Json.Short i) : Portable (.int i)
  | float (x : Float) : Portable (.float x)
  | str (s : String) : Portable (.str s)
  | list {items : List Value} (each : ∀ v ∈ items, Portable v) : Portable (.list items)
  | map {ms : Members} (apart : ms.Apart) (named : ∀ m ∈ ms, ∃ name, m.1 = .str name)
      (each : ∀ m ∈ ms, Portable m.2) : Portable (.map ms)

theorem Value.Portable.keyed {v : Value} (h : v.Portable) : v.Keyed := by
  induction h with
  | map apart _ _ ih => exact .map _ apart ih
  | list _ ih => exact .list _ ih
  | _ => exact .scalar _

/-! ## What JSON holds -/

/-- JSON has a form for the scalar. -/
def Scalar.fitsJson : Scalar → Bool
  | .null | .bool _ | .float _ | .str _ => true
  | .int i => (Scalar.int i).writable
  | .bytes _ | .date _ | .moment _ => false

mutual

/-- What JSON holds of a value, if it has a form for it. -/
def Value.asJson? : Value → Option Value
  | .scalar s => if s.fitsJson then some (.scalar s) else none
  | .list items => Value.list <$> Value.asJsonItems? items
  | .pair a b => do return .list [← a.asJson?, ← b.asJson?]
  | .map ms => (fun entries => .map (Members.ofEntries entries)) <$> Value.asJsonMembers? ms
  | .set _ => none

def Value.asJsonItems? : List Value → Option (List Value)
  | [] => some []
  | v :: rest => do return (← v.asJson?) :: (← Value.asJsonItems? rest)

/-- The members by the names that their keys become. -/
def Value.asJsonMembers? : List (Scalar × Value) → Option (List (Scalar × Value))
  | [] => some []
  | (k, v) :: rest => do
    let name ← Json.keyName? k
    return (.str name, ← v.asJson?) :: (← Value.asJsonMembers? rest)

end

theorem Json.short_iff_writable {i : Int} :
    Json.Short i ↔ (Scalar.int i).writable = true := by
  have same : Text.maxDigits = Json.maxIntegerDigits := rfl
  rw [Json.Short, Scalar.writable, decide_eq_true_iff, same]
  generalize Json.maxIntegerDigits = n
  exact Iff.rfl

/-- JSON holds a portable value as it is. -/
theorem Value.Portable.asJson? {v : Value} (h : v.Portable) : v.asJson? = some v := by
  induction h with
  | null => rfl
  | bool b => rfl
  | int short =>
    rw [Value.asJson?]
    exact if_pos (Json.short_iff_writable.1 short)
  | float x => rfl
  | str s => rfl
  | @list items each ih =>
    have all : Value.asJsonItems? items = some items := by
      clear each
      induction items with
      | nil => rfl
      | cons v rest ih' =>
        rw [Value.asJsonItems?, ih v List.mem_cons_self,
          ih' fun w hw => ih w (List.mem_cons_of_mem _ hw)]
        rfl
    rw [Value.asJson?, all]
    rfl
  | @map ms apart named each ih =>
    have all : Value.asJsonMembers? ms = some ms := by
      clear apart each
      induction ms with
      | nil => rfl
      | cons m rest ih' =>
        obtain ⟨k, v⟩ := m
        obtain ⟨name, hk⟩ := named _ List.mem_cons_self
        obtain rfl : k = .str name := hk
        rw [Value.asJsonMembers?, ih _ List.mem_cons_self,
          ih' (fun n hn => named n (List.mem_cons_of_mem _ hn))
            fun n hn => ih n (List.mem_cons_of_mem _ hn)]
        rfl
    rw [Value.asJson?, all]
    exact congrArg (fun ms => some (Value.map ms)) (Members.ofEntries_eq apart)

namespace Json

open Numeral

/-! ## Scalars -/

/-- No plain value begins with the mark of a text or a collection, nor with a blank. -/
theorem readPlain_head {cs : List Char} {r : Scalar × List Char} (h : readPlain cs = .ok r) :
    ∃ c rest, cs = c :: rest ∧
      c ∉ ['"', '[', ']', '\x7b', '\x7d', ' ', '\t', '\n', '\r'] := by
  cases cs with
  | nil => cases h
  | cons c rest =>
    refine ⟨c, rest, rfl, fun hc => ?_⟩
    simp only [List.mem_cons, List.not_mem_nil, or_false] at hc
    have fails : readPlain (c :: rest) = fail .expectedValue (c :: rest) := by
      rcases hc with rfl | rfl | rfl | rfl | rfl | rfl | rfl | rfl | rfl <;>
        simp [readPlain, takeWord?, readNumber, takeDigits]
    rw [fails] at h
    cases h

theorem readValue_of_readPlain {cs rest : List Char} {s : Scalar} (fuel : ℕ)
    (h : readPlain cs = .ok (s, rest)) : readValue (fuel + 1) cs = .ok (.scalar s, rest) := by
  obtain ⟨c, cs', rfl, hc⟩ := readPlain_head h
  simp only [List.mem_cons, List.not_mem_nil, or_false, not_or] at hc
  unfold readValue
  split
  · next heq =>
    cases heq
    exact absurd rfl hc.1
  · next heq =>
    cases heq
    exact absurd rfl hc.2.1
  · next heq =>
    cases heq
    exact absurd rfl hc.2.2.2.1
  · rw [h]
    rfl

theorem clean_of_isDigit {c : Char} (h : c.isDigit = true) : Clean c := by
  simp only [Char.isDigit, Bool.and_eq_true, decide_eq_true_eq] at h
  exact .inr ⟨UInt32.le_trans (by decide) h.1, UInt32.le_trans h.2 (by decide)⟩

theorem clean_signText (negative : Bool) : ∀ c ∈ signText negative, Clean c := by
  cases negative <;> simp [signText, Clean]

theorem clean_numeral {n : Numeral} (hn : n.WellFormed) : ∀ c ∈ n.text, Clean c := by
  have digits : ∀ ds, Digits ds → ∀ c ∈ ds, Clean c := fun ds h c hc => clean_of_isDigit (h c hc)
  have fraction : ∀ c ∈ fractionText n.fraction, Clean c := by
    cases h : n.fraction with
    | none => exact fun c hc => (by cases hc)
    | some ds => exact List.forall_mem_cons.2 ⟨by decide, digits ds (hn.fraction ds h).1⟩
  have exponent : ∀ c ∈ exponentText n.exponent, Clean c := by
    cases h : n.exponent with
    | none => exact fun c hc => (by cases hc)
    | some e =>
      obtain ⟨negative, ds⟩ := e
      have sign : Clean (if negative then '-' else '+') := by cases negative <;> decide
      exact List.forall_mem_cons.2 ⟨by decide,
        List.forall_mem_cons.2 ⟨sign, digits ds (hn.exponent _ ds h).1⟩⟩
  exact List.forall_mem_append.2 ⟨digits _ hn.whole, List.forall_mem_append.2 ⟨fraction, exponent⟩⟩

theorem clean_render (x : Float) : ∀ c ∈ (numberLayout.render x).toList, Clean c := by
  unfold Decimal.Layout.render
  split
  · simp [numberLayout, Clean]
  · next negative _ => cases negative <;> simp [numberLayout, Clean]
  · next negative b _ =>
    obtain ⟨n, hn, -, hd, -⟩ := exists_numeral numberLayout (Decimal.shortest b)
    have text : ((if negative then "-" else "") ++
        String.ofList (numberLayout.decimal (Decimal.shortest b))).toList =
          signText negative ++ n.text := by
      cases negative <;> simp [hd, signText]
    rw [text]
    exact List.forall_mem_append.2 ⟨clean_signText negative, clean_numeral hn⟩

theorem clean_toString (i : Int) : ∀ c ∈ (toString i).toList, Clean c := by
  rw [toList_toString]
  exact List.forall_mem_append.2
    ⟨clean_signText _, fun c hc => clean_of_isDigit (digits_toDigits _ c hc)⟩

/-! ## Blanks -/

/-- All characters are blanks. -/
def Blank (cs : List Char) : Prop := ∀ c ∈ cs, isSpace c = true

theorem skipSpace_append {blank cs : List Char} {c : Char} (hb : Blank blank)
    (hc : isSpace c = false) : skipSpace (blank ++ c :: cs) = c :: cs := by
  unfold skipSpace
  rw [List.dropWhile_append_of_pos hb]
  simp [hc]

theorem skipSpace_of_head {c : Char} (hc : isSpace c = false) (cs : List Char) :
    skipSpace (c :: cs) = c :: cs := by
  simp [skipSpace, hc]

theorem toList_newline (level : ℕ) :
    (newline level).toList = '\n' :: List.replicate (2 * level) ' ' := by
  simp [newline]

theorem blank_newline (level : ℕ) : Blank (newline level).toList := by
  intro c hc
  rw [toList_newline] at hc
  rcases List.mem_cons.1 hc with rfl | hc
  · rfl
  · rw [List.eq_of_mem_replicate hc]
    rfl

theorem clean_newline (level : ℕ) : ∀ c ∈ (newline level).toList, Clean c := by
  intro c hc
  rw [toList_newline] at hc
  rcases List.mem_cons.1 hc with rfl | hc
  · decide
  · rw [List.eq_of_mem_replicate hc]
    decide

/-- What follows the last part between brackets: a line break and the bracket. -/
theorem ends_newline (level : ℕ) (rest : List Char) : Ends ((newline level).toList ++ rest) := by
  rw [toList_newline]
  rintro c ⟨⟩
  decide

theorem ends_comma (rest : List Char) : Ends (',' :: rest) := by
  rintro c ⟨⟩
  decide

/-! ## Values -/

section Spelled

variable {enc : List Char → List Char} {fine : Char → Prop}

/-- The text gives the value back when it is read with what may follow it. -/
structure Printed (enc : List Char → List Char) (fine : Char → Prop) (v : Value) (text : String) :
    Prop where
  fine : ∀ c ∈ enc text.toList, fine c
  head : ∃ c rest, enc text.toList = c :: rest ∧ Clean c ∧ isSpace c = false ∧ c ≠ ']'
  read : ∀ fuel rest, Ends rest → (enc text.toList ++ rest).length < fuel →
    readValue fuel (enc text.toList ++ rest) = .ok (v, rest)

/-- The text gives the member back: a name in quotes, a colon, and the value. -/
def PrintedMember (enc : List Char → List Char) (fine : Char → Prop) (m : Scalar × Value)
    (text : String) : Prop :=
  ∃ name part, m.1 = .str name ∧ text = quote name ++ ": " ++ part ∧ Printed enc fine m.2 part

/-- The characters of parts, separated by commas and line breaks. -/
def joined (enc : List Char → List Char) (level : ℕ) : List String → List Char
  | [] => []
  | [part] => enc part.toList
  | part :: parts => enc part.toList ++ ',' :: ((newline level).toList ++ joined enc level parts)

theorem joined_cons_cons (level : ℕ) (part part' : String) (parts : List String) :
    joined enc level (part :: part' :: parts) =
      enc part.toList ++ ',' :: ((newline level).toList ++ joined enc level (part' :: parts)) := by
  rw [joined]
  simp

theorem exists_head_joined {v : Value} {part : String} (h : Printed enc fine v part) (level : ℕ)
    (parts : List String) :
    ∃ c rest, joined enc level (part :: parts) = c :: rest ∧ isSpace c = false ∧ c ≠ ']' := by
  obtain ⟨c, rest, hc, -, ordinary⟩ := h.head
  cases parts with
  | nil => exact ⟨c, rest, hc, ordinary⟩
  | cons part' parts => exact ⟨c, _, by rw [joined, hc, List.cons_append]; simp, ordinary⟩

/-- Items are read up to the bracket after them. -/
theorem readItems_joined {items : List Value} {parts : List String}
    (h : List.Forall₂ (Printed enc fine) items parts) (hp : parts ≠ []) (level outer : ℕ)
    (rest : List Char) {fuel : ℕ}
    (hf : (joined enc level parts ++ ((newline outer).toList ++ ']' :: rest)).length + 1 < fuel) :
    readItems fuel (joined enc level parts ++ ((newline outer).toList ++ ']' :: rest)) =
      .ok (items, rest) := by
  induction h generalizing fuel with
  | nil => exact absurd rfl hp
  | @cons v part items parts hv hrest ih =>
    obtain ⟨fuel, rfl⟩ : ∃ k, fuel = k + 1 := ⟨fuel - 1, by omega⟩
    cases hrest with
    | nil =>
      have read := hv.read fuel ((newline outer).toList ++ ']' :: rest) (ends_newline _ _) (by
        simp only [joined] at hf
        omega)
      simp only [joined, readItems, read, bind, Except.bind,
        skipSpace_append (blank_newline outer) (by decide : isSpace ']' = false)]
      rfl
    | @cons w part' items parts hw hrest =>
      obtain ⟨c, cs, hc, blank, -⟩ := exists_head_joined hw level parts
      rw [joined_cons_cons] at hf ⊢
      have skip (after : List Char) : skipSpace ((newline level).toList ++
          (joined enc level (part' :: parts) ++ after)) =
            joined enc level (part' :: parts) ++ after := by
        rw [hc, List.cons_append]
        exact skipSpace_append (blank_newline level) blank
      generalize joined enc level (part' :: parts) = text at *
      simp only [List.append_assoc, List.cons_append] at hf ⊢
      have read := hv.read fuel (',' :: ((newline level).toList ++ (text ++
        ((newline outer).toList ++ ']' :: rest)))) (ends_comma _) (by omega)
      have items := ih (List.cons_ne_nil _ _) (show _ < fuel by
        simp only [List.length_append, List.length_cons] at hf ⊢
        omega)
      have comma : ∀ cs, skipSpace (',' :: cs) = ',' :: cs := fun _ => rfl
      simp only [readItems, read, bind, Except.bind, comma, skip, items]
      rfl

/-- A text that gives a value is read on its own, with a line feed at its end. -/
theorem Printed.readChars {v : Value} {text : String} (h : Printed enc fine v text) :
    readChars (enc text.toList ++ ['\n']) = .ok v := by
  obtain ⟨c, cs, hc, clean, blank, -⟩ := h.head
  have value := h.read ((enc text.toList ++ ['\n']).length + 1) ['\n'] (by
    rintro c ⟨⟩
    decide) (Nat.lt_succ_self _)
  have order : c ≠ '\ufeff' := by
    rintro rfl
    exact absurd clean (by decide)
  rw [hc, List.cons_append] at value ⊢
  unfold Json.readChars
  split
  · next heq =>
    cases heq
    exact absurd rfl order
  · rw [skipSpace_of_head blank, value]
    rfl

/-! ### Scalars -/

section Spelling

variable (sp : Spelling enc fine)

include sp

theorem printed_of_readPlain {s : Scalar} {text : String} (hc : ∀ c ∈ text.toList, Clean c)
    (h : ∀ rest, Ends rest → readPlain (text.toList ++ rest) = .ok (s, rest)) :
    Printed enc fine (.scalar s) text where
  fine := (sp.clean hc).symm ▸ fun c h => sp.fine_of_clean (hc c h)
  head := by
    obtain ⟨c, rest, hc', ordinary⟩ := readPlain_head (h [] fun _ hc => (by cases hc))
    simp only [List.mem_cons, List.not_mem_nil, or_false, not_or] at ordinary
    rw [List.append_nil] at hc'
    refine ⟨c, rest, (sp.clean hc).trans hc', hc c (hc' ▸ List.mem_cons_self), ?_, ordinary.2.2.1⟩
    simp [isSpace, ordinary]
  read fuel rest hr hf := by
    obtain ⟨fuel, rfl⟩ : ∃ k, fuel = k + 1 := ⟨fuel - 1, by omega⟩
    rw [sp.clean hc]
    exact readValue_of_readPlain fuel (h rest hr)

theorem printed_quote (s : String) : Printed enc fine (.str s) (quote s) where
  fine := sp.fine_quote s
  head := ⟨_, _, sp.toList_quote s, by decide, by decide, by decide⟩
  read fuel rest hr hf := by
    obtain ⟨fuel, rfl⟩ : ∃ k, fuel = k + 1 := ⟨fuel - 1, by omega⟩
    rw [sp.toList_quote, List.cons_append, List.append_assoc, List.singleton_append, readValue,
      sp.readText_quote]
    simp [bind, Except.bind, pure, Except.pure]

/-- A scalar is printed exactly if JSON has a form for it. -/
theorem printed_scalar (s : Scalar) : Option.Rel (Printed enc fine)
    (if s.fitsJson then some (.scalar s) else none) (scalar? s) := by
  cases s with
  | null => exact .some (printed_of_readPlain sp (by simp [Clean]) fun _ _ => rfl)
  | bool b =>
    cases b
    · exact .some (printed_of_readPlain sp (by simp [Clean]) fun _ _ => rfl)
    · exact .some (printed_of_readPlain sp (by simp [Clean]) fun _ _ => rfl)
  | int i =>
    rw [scalar?, integer?, Scalar.fitsJson]
    split
    · next short =>
      refine .some (printed_of_readPlain sp (clean_toString i) fun _ => readPlain_toString ?_)
      exact short_iff_writable.2 short
    · exact .none
  | float x => exact .some (printed_of_readPlain sp (clean_render x) fun _ => readPlain_render x)
  | str s => exact .some (printed_quote sp s)
  | bytes data => exact .none
  | date d => exact .none
  | moment m => exact .none

/-! ### Collections -/

theorem enc_newline (level : ℕ) : enc (newline level).toList = (newline level).toList :=
  sp.clean (clean_newline level)

theorem fine_newline (level : ℕ) : ∀ c ∈ (newline level).toList, fine c :=
  fun c hc => sp.fine_of_clean (clean_newline level c hc)

theorem enc_mark {mark : String} {c : Char} (hm : mark.toList = [c]) (hc : Clean c) :
    enc mark.toList = [c] := by
  rw [hm, sp.clean (List.forall_mem_singleton.2 hc)]

theorem enc_intercalate (level : ℕ) (parts : List String) :
    enc (("," ++ newline level).intercalate parts).toList = joined enc level parts := by
  induction parts with
  | nil => exact sp.nil
  | cons part parts ih =>
    cases parts with
    | nil => rw [String.intercalate_singleton, joined]
    | cons part' parts =>
      have comma : enc ",".toList = [','] := enc_mark sp rfl (by decide)
      rw [String.intercalate_cons_cons, joined, ← ih]
      · simp only [String.toList_append, sp.append, enc_newline sp, comma, List.append_assoc,
          List.cons_append, List.nil_append]
      · simp

theorem fine_joined (level : ℕ) {parts : List String}
    (h : ∀ part ∈ parts, ∀ c ∈ enc part.toList, fine c) :
    ∀ c ∈ joined enc level parts, fine c := by
  induction parts with
  | nil => exact fun c hc => (by cases hc)
  | cons part parts ih =>
    have rest := ih fun part' hp => h part' (List.mem_cons_of_mem _ hp)
    cases parts with
    | nil => exact h part List.mem_cons_self
    | cons part' parts =>
      rw [joined_cons_cons]
      exact List.forall_mem_append.2 ⟨h part List.mem_cons_self, List.forall_mem_cons.2
        ⟨sp.fine_of_clean (by decide), List.forall_mem_append.2 ⟨fine_newline sp level, rest⟩⟩⟩

section Brackets

variable {left right : String} {l r : Char} (hl : left.toList = [l]) (hr : right.toList = [r])
  (cl : Clean l) (cr : Clean r) (level : ℕ) {parts : List String}

include hl hr cl cr

/-- Parts between brackets, before a rest. -/
theorem enc_bracket (hp : parts ≠ []) (rest : List Char) :
    enc (bracket left right level parts).toList ++ rest =
      l :: ((newline (level + 1)).toList ++ (joined enc (level + 1) parts ++
        ((newline level).toList ++ r :: rest))) := by
  unfold bracket
  split
  · exact absurd rfl hp
  · simp only [String.toList_append, sp.append, enc_newline sp, enc_intercalate sp,
      enc_mark sp hl cl, enc_mark sp hr cr, List.append_assoc, List.cons_append, List.nil_append]

/-- Brackets with nothing between them. -/
theorem enc_bracket_nil : enc (bracket left right level []).toList = [l, r] := by
  rw [bracket, String.toList_append, sp.append, enc_mark sp hl cl, enc_mark sp hr cr]
  rfl

theorem fine_bracket (h : ∀ part ∈ parts, ∀ c ∈ enc part.toList, fine c) :
    ∀ c ∈ enc (bracket left right level parts).toList, fine c := by
  have fl := sp.fine_of_clean cl
  have fr := sp.fine_of_clean cr
  rcases eq_or_ne parts [] with rfl | hp
  · rw [enc_bracket_nil sp hl hr cl cr]
    exact List.forall_mem_cons.2 ⟨fl, List.forall_mem_singleton.2 fr⟩
  · have text := enc_bracket sp hl hr cl cr level hp []
    rw [List.append_nil] at text
    rw [text]
    exact List.forall_mem_cons.2 ⟨fl, List.forall_mem_append.2 ⟨fine_newline sp _,
      List.forall_mem_append.2 ⟨fine_joined sp _ h, List.forall_mem_append.2
        ⟨fine_newline sp _, List.forall_mem_singleton.2 fr⟩⟩⟩⟩

end Brackets

theorem enc_member (name part : String) (rest : List Char) :
    enc (quote name ++ ": " ++ part).toList ++ rest =
      '"' :: (enc (name.toList.flatMap escapeChar) ++ '"' :: ':' :: ' ' ::
        (enc part.toList ++ rest)) := by
  have colon : enc ": ".toList = [':', ' '] := sp.clean (by simp [Clean])
  simp only [String.toList_append, sp.append, sp.toList_quote, colon, List.append_assoc,
    List.cons_append, List.nil_append]

theorem fine_member {m : Scalar × Value} {text : String} (h : PrintedMember enc fine m text) :
    ∀ c ∈ enc text.toList, fine c := by
  obtain ⟨name, part, -, rfl, printed⟩ := h
  have colon : enc ": ".toList = [':', ' '] := sp.clean (by simp [Clean])
  simp only [String.toList_append, sp.append, colon]
  refine List.forall_mem_append.2 ⟨List.forall_mem_append.2 ⟨sp.fine_quote name, ?_⟩, printed.fine⟩
  exact List.forall_mem_cons.2 ⟨sp.fine_of_clean (by decide),
    List.forall_mem_singleton.2 (sp.fine_of_clean (by decide))⟩

/-- A member is read; a bracket after it is the end, and a comma leads to further members. -/
theorem readEntries_member {name part : String} {v : Value} (h : Printed enc fine v part) {fuel : ℕ}
    {after : List Char} (ha : Ends after)
    (hf : (enc (quote name ++ ": " ++ part).toList ++ after).length < fuel + 1) :
    (∀ rest, skipSpace after = '\x7d' :: rest →
      readEntries (fuel + 1) (enc (quote name ++ ": " ++ part).toList ++ after) =
        .ok ([(.str name, v)], rest)) ∧
    ∀ next ms rest, skipSpace after = ',' :: next →
      readEntries fuel (skipSpace next) = .ok (ms, rest) →
        readEntries (fuel + 1) (enc (quote name ++ ": " ++ part).toList ++ after) =
          .ok ((.str name, v) :: ms, rest) := by
  obtain ⟨c, cs, hc, -, blank, -⟩ := h.head
  have colon : ∀ cs, skipSpace (':' :: cs) = ':' :: cs := fun _ => rfl
  have skip : skipSpace (' ' :: (enc part.toList ++ after)) = enc part.toList ++ after := by
    rw [hc, List.cons_append]
    exact skipSpace_append (show Blank [' '] by simp [Blank, isSpace]) blank
  rw [enc_member sp] at hf ⊢
  have read := h.read fuel after ha (by
    simp only [List.length_append, List.length_cons] at hf ⊢
    omega)
  rw [readEntries, sp.readText_quote]
  constructor
  · intro rest bracket
    simp only [bind, Except.bind, colon, skip, read, String.ofList_toList, bracket]
    rfl
  · intro next ms rest comma members
    simp only [bind, Except.bind, colon, skip, read, String.ofList_toList, comma, members]
    rfl

theorem exists_head_member {m : Scalar × Value} {part : String} (h : PrintedMember enc fine m part)
    (level : ℕ) (parts : List String) : ∃ rest, joined enc level (part :: parts) = '"' :: rest := by
  obtain ⟨name, text, -, rfl, -⟩ := h
  cases parts with
  | nil =>
    have := enc_member sp name text []
    rw [List.append_nil] at this
    exact ⟨_, this⟩
  | cons part' parts =>
    rw [joined_cons_cons, enc_member sp]
    exact ⟨_, rfl⟩

/-- Members are read up to the bracket after them. -/
theorem readEntries_joined {ms : Members} {parts : List String}
    (h : List.Forall₂ (PrintedMember enc fine) ms parts) (hp : parts ≠ []) (level outer : ℕ)
    (rest : List Char) {fuel : ℕ}
    (hf : (joined enc level parts ++ ((newline outer).toList ++ '\x7d' :: rest)).length + 1 <
      fuel) :
    readEntries fuel (joined enc level parts ++ ((newline outer).toList ++ '\x7d' :: rest)) =
      .ok (ms, rest) := by
  induction h generalizing fuel with
  | nil => exact absurd rfl hp
  | @cons m part ms parts hm hrest ih =>
    obtain ⟨fuel, rfl⟩ : ∃ k, fuel = k + 1 := ⟨fuel - 1, by omega⟩
    obtain ⟨k, v⟩ := m
    obtain ⟨name, text, hk, rfl, hv⟩ := hm
    obtain rfl : k = .str name := hk
    cases hrest with
    | nil =>
      simp only [joined] at hf ⊢
      exact (readEntries_member sp hv (ends_newline _ _) (by omega)).1 _
        (skipSpace_append (blank_newline outer) (by decide))
    | @cons m' part' ms parts hm' hrest =>
      obtain ⟨cs, hc⟩ := exists_head_member sp hm' level parts
      rw [joined_cons_cons] at hf ⊢
      have skip (after : List Char) : skipSpace ((newline level).toList ++
          (joined enc level (part' :: parts) ++ after)) =
            joined enc level (part' :: parts) ++ after := by
        rw [hc, List.cons_append]
        exact skipSpace_append (blank_newline level) (by decide)
      generalize joined enc level (part' :: parts) = rest' at *
      simp only [List.append_assoc, List.cons_append] at hf ⊢
      have members := ih (List.cons_ne_nil _ _) (show _ < fuel by
        simp only [List.length_append, List.length_cons] at hf ⊢
        omega)
      refine (readEntries_member sp hv (ends_comma _) (by omega)).2 _ _ _ rfl ?_
      rw [skip, members]

theorem printed_list {items : List Value} {parts : List String}
    (h : List.Forall₂ (Printed enc fine) items parts) (level : ℕ) :
    Printed enc fine (.list items) (bracket "[" "]" level parts) := by
  have left : "[".toList = ['['] := rfl
  have right : "]".toList = [']'] := rfl
  have cl : Clean '[' := by decide
  have cr : Clean ']' := by decide
  have fine := fine_bracket sp left right cl cr level fun part hp => by
    obtain ⟨_, -, printed⟩ := exists_of_forall₂_of_mem_left h.flip hp
    exact printed.fine
  cases h with
  | nil =>
    have text := enc_bracket_nil sp left right cl cr level
    refine ⟨fine, ⟨_, _, text, cl, by decide, by decide⟩, fun fuel rest _ hf => ?_⟩
    obtain ⟨fuel, rfl⟩ : ∃ k, fuel = k + 1 := ⟨fuel - 1, by omega⟩
    rw [text]
    rfl
  | @cons v part items parts hv hrest =>
    have text := enc_bracket sp left right cl cr level (List.cons_ne_nil part parts)
    refine ⟨fine, ⟨'[', _, (List.append_nil _).symm.trans (text []), cl, by decide, by decide⟩,
      fun fuel rest _ hf => ?_⟩
    obtain ⟨fuel, rfl⟩ : ∃ k, fuel = k + 1 := ⟨fuel - 1, by omega⟩
    rw [text] at hf ⊢
    have read := readItems_joined (.cons hv hrest) (List.cons_ne_nil part parts) (level + 1)
      level rest (show _ < fuel by
        rw [toList_newline] at hf
        simp only [List.length_append, List.length_cons] at hf ⊢
        omega)
    obtain ⟨c, cs, hc, blank, ordinary⟩ := exists_head_joined hv (level + 1) parts
    rw [hc, List.cons_append] at read ⊢
    rw [readValue, skipSpace_append (blank_newline (level + 1)) blank]
    split
    · next heq =>
      cases heq
      exact absurd rfl ordinary
    · rw [read]
      rfl

/-- A mapping is put together from the members that its text has. -/
theorem printed_map {ms : Members} {parts : List String}
    (h : List.Forall₂ (PrintedMember enc fine) ms parts) (level : ℕ) :
    Printed enc fine (.map (Members.ofEntries ms)) (bracket "\x7b" "\x7d" level parts) := by
  have left : "\x7b".toList = ['\x7b'] := rfl
  have right : "\x7d".toList = ['\x7d'] := rfl
  have cl : Clean '\x7b' := by decide
  have cr : Clean '\x7d' := by decide
  have fine := fine_bracket sp left right cl cr level fun part hp => by
    obtain ⟨_, -, printed⟩ := exists_of_forall₂_of_mem_left h.flip hp
    exact fine_member sp printed
  cases h with
  | nil =>
    have text := enc_bracket_nil sp left right cl cr level
    refine ⟨fine, ⟨_, _, text, cl, by decide, by decide⟩, fun fuel rest _ hf => ?_⟩
    obtain ⟨fuel, rfl⟩ : ∃ k, fuel = k + 1 := ⟨fuel - 1, by omega⟩
    rw [text]
    rfl
  | @cons m part ms parts hm hrest =>
    have text := enc_bracket sp left right cl cr level (List.cons_ne_nil part parts)
    refine ⟨fine, ⟨'\x7b', _, (List.append_nil _).symm.trans (text []), cl, by decide,
      by decide⟩, fun fuel rest _ hf => ?_⟩
    obtain ⟨fuel, rfl⟩ : ∃ k, fuel = k + 1 := ⟨fuel - 1, by omega⟩
    rw [text] at hf ⊢
    have read := readEntries_joined sp (.cons hm hrest) (List.cons_ne_nil part parts)
      (level + 1) level rest (show _ < fuel by
        rw [toList_newline] at hf
        simp only [List.length_append, List.length_cons] at hf ⊢
        omega)
    obtain ⟨cs, hc⟩ := exists_head_member sp hm (level + 1) parts
    rw [hc, List.cons_append] at read ⊢
    rw [readValue, skipSpace_append (blank_newline (level + 1)) (by decide)]
    split
    · next heq => cases heq
    · rw [read]
      rfl

end Spelling

/-! ### Whole values -/

mutual

/-- A value is printed exactly if JSON has a form for it, which its text gives. -/
theorem printed_value (sp : Spelling enc fine) (level : ℕ) : ∀ v : Value,
    Option.Rel (Printed enc fine) v.asJson? (printAt (fun _ => none) level v)
  | .scalar s => by
    rw [Value.asJson?, printAt, Option.or_none]
    exact printed_scalar sp s
  | .list items => by
    have parts := printed_items sp (level + 1) items
    rw [Value.asJson?, printAt]
    generalize Value.asJsonItems? items = x, printItems (fun _ => none) (level + 1) items = y
      at parts ⊢
    cases parts with
    | none => exact .none
    | some each => exact .some (printed_list sp each level)
  | .pair a b => by
    have first := printed_value sp (level + 1) a
    have second := printed_value sp (level + 1) b
    rw [Value.asJson?, printAt]
    generalize a.asJson? = x, printAt (fun _ => none) (level + 1) a = y at first ⊢
    generalize b.asJson? = x', printAt (fun _ => none) (level + 1) b = y' at second ⊢
    cases first with
    | none => exact .none
    | some ha =>
      cases second with
      | none => exact .none
      | some hb => exact .some (printed_list sp (.cons ha (.cons hb .nil)) level)
  | .map ms => by
    have parts := printed_members sp (level + 1) ms
    rw [Value.asJson?, printAt]
    generalize Value.asJsonMembers? ms = x, printMembers (fun _ => none) (level + 1) ms = y
      at parts ⊢
    cases parts with
    | none => exact .none
    | some each => exact .some (printed_map sp each level)
  | .set items => .none

theorem printed_items (sp : Spelling enc fine) (level : ℕ) : ∀ items : List Value,
    Option.Rel (List.Forall₂ (Printed enc fine)) (Value.asJsonItems? items)
      (printItems (fun _ => none) level items)
  | [] => .some .nil
  | v :: rest => by
    have first := printed_value sp level v
    have others := printed_items sp level rest
    rw [Value.asJsonItems?, printItems]
    generalize v.asJson? = x, printAt (fun _ => none) level v = y at first ⊢
    generalize Value.asJsonItems? rest = x', printItems (fun _ => none) level rest = y' at others ⊢
    cases first with
    | none => exact .none
    | some hv =>
      cases others with
      | none => exact .none
      | some each => exact .some (.cons hv each)

theorem printed_members (sp : Spelling enc fine) (level : ℕ) : ∀ ms : List (Scalar × Value),
    Option.Rel (List.Forall₂ (PrintedMember enc fine)) (Value.asJsonMembers? ms)
      (printMembers (fun _ => none) level ms)
  | [] => .some .nil
  | (k, v) :: rest => by
    have first := printed_value sp level v
    have others := printed_members sp level rest
    rw [Value.asJsonMembers?, printMembers]
    generalize v.asJson? = x, printAt (fun _ => none) level v = y at first ⊢
    generalize Value.asJsonMembers? rest = x', printMembers (fun _ => none) level rest = y'
      at others ⊢
    cases keyName? k with
    | none => exact .none
    | some name =>
      cases first with
      | none => exact .none
      | some hv =>
        cases others with
        | none => exact .none
        | some each => exact .some (.cons ⟨name, _, rfl, rfl, hv⟩ each)

end

end Spelled

/-- A value is printed exactly if JSON has a form for it, which is read back. -/
theorem print_read (v : Value) : Option.Rel (fun w text =>
    read (text ++ "\n") = .ok w ∧ ∀ c ∈ (text ++ "\n").toList, Laid c) v.asJson? (print? v) := by
  have printed := printed_value spelling_id 0 v
  rw [print?]
  generalize v.asJson? = x, printAt (fun _ => none) 0 v = y at printed ⊢
  cases printed with
  | none => exact .none
  | some h =>
    refine .some ⟨?_, ?_⟩
    · rw [read, String.toList_append]
      exact h.readChars
    · rw [String.toList_append]
      exact List.forall_mem_append.2 ⟨h.fine, List.forall_mem_singleton.2 (.inl rfl)⟩

/-- A portable value is read back from the clean text that is printed for it. -/
theorem exists_print_read {v : Value} (h : v.Portable) :
    ∃ text, print? v = some text ∧ (∀ c ∈ (toAscii text ++ "\n").toList, Clean c) ∧
      read (toAscii text ++ "\n") = .ok v := by
  have printed := printed_value spelling_ascii 0 v
  rw [h.asJson?] at printed
  generalize hp : printAt (fun _ => none) 0 v = y at printed
  cases printed with
  | @some _ text printed =>
    have chars : (toAscii text ++ "\n").toList = ascii text.toList ++ ['\n'] := by
      rw [String.toList_append, toList_toAscii]
      rfl
    refine ⟨text, hp, ?_, ?_⟩
    · rw [chars]
      exact List.forall_mem_append.2 ⟨printed.fine, List.forall_mem_singleton.2 (by decide)⟩
    · rw [read, chars]
      exact printed.readChars

/-! ## What is read is portable -/

theorem portable_of_readNumber {negative : Bool} {start cs rest : List Char} {s : Scalar}
    (h : readNumber negative start cs = .ok (s, rest)) : (Value.scalar s).Portable := by
  unfold readNumber at h
  split at h
  next whole after hw =>
  have digits : Digits whole := by
    split at hw
    · cases hw
      exact digits_replicate_zero 1
    · have := digits_takeDigits cs
      rw [hw] at this
      exact this
  split at h
  · cases h
  · dsimp only at h
    split at h
    · split at h
      · cases h
      · next long =>
        cases h
        exact .int (short_of_length digits (not_lt.1 long) negative)
    · cases h
      exact .float _

theorem portable_of_readPlain {cs rest : List Char} {s : Scalar}
    (h : readPlain cs = .ok (s, rest)) : (Value.scalar s).Portable := by
  unfold readPlain at h
  split at h
  · cases h; exact .null
  split at h
  · cases h; exact .bool true
  split at h
  · cases h; exact .bool false
  split at h
  · cases h; exact .float _
  split at h
  · cases h; exact .float _
  split at h
  · cases h; exact .float _
  split at h <;> exact portable_of_readNumber h

/-- A mapping that is put together from names has no other members than these. -/
theorem mem_of_mem_ofEntries {entries : List (Scalar × Value)}
    (named : ∀ e ∈ entries, ∃ name, e.1 = .str name) {m : Scalar × Value}
    (h : m ∈ Members.ofEntries entries) : m ∈ entries := by
  have step : ∀ done : Members, m ∈ entries.foldl (fun ms e => Members.insert e.1 e.2 ms) done →
      m ∈ entries ∨ m ∈ done := by
    clear h
    induction entries with
    | nil => exact fun done h => .inr h
    | cons e rest ih =>
      intro done h
      obtain ⟨name, hk⟩ := named e List.mem_cons_self
      rcases ih (fun e' he => named e' (List.mem_cons_of_mem _ he)) _ h with h | h
      · exact .inl (List.mem_cons_of_mem _ h)
      · dsimp only at h
        rw [hk] at h
        rcases Members.mem_insert_str h with rfl | h
        · exact .inl (List.mem_cons.2 (.inl (Prod.ext hk.symm rfl)))
        · exact .inr h
  exact (step [] h).resolve_right List.not_mem_nil

theorem portable_ofEntries {entries : List (Scalar × Value)}
    (h : ∀ e ∈ entries, (∃ name, e.1 = .str name) ∧ e.2.Portable) :
    (Value.map (Members.ofEntries entries)).Portable := by
  have mem {m} (hm : m ∈ Members.ofEntries entries) : m ∈ entries :=
    mem_of_mem_ofEntries (fun e he => (h e he).1) hm
  have keyed := Members.keyed_ofEntries fun e he => (h e he).2.keyed
  exact .map keyed.apart (fun m hm => (h m (mem hm)).1) fun m hm => (h m (mem hm)).2

/-- What is read from JSON is portable. -/
theorem portable_of_read {text : String} {v : Value} (h : read text = .ok v) : v.Portable :=
  read_induction (fun _ _ _ => portable_of_readPlain) .str (fun _ => .list)
    (fun _ => portable_ofEntries) h

end Json

end ApiAccord
