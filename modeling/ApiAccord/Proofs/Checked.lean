import ApiAccord.Checked
import ApiAccord.Proofs.Text.Utf8

/-!
# What passes a check

The inversion of checks, and of the fields of records: a field is read from the value under the
first of its names that is there, and otherwise has its default (`Record.field_eq_ok_iff`).
-/

namespace ApiAccord

/-- The check finds no fault. -/
def Checked.passes {α : Type} (c : Checked α) : Bool := c.toExcept.isOk

section Checks

variable {α β : Type} {f : α → β} {c : Checked α}

/-! ## Checks one after another -/

theorem passes_iff : c.passes = true ↔ ∃ a, c = .ok a := by
  cases c <;> simp [Checked.passes, Checked.toExcept, Except.isOk, Except.toBool]

@[simp] theorem passes_map (c : Checked α) : (f <$> c).passes = c.passes := by
  cases c <;> rfl

@[simp] theorem passes_seq (c : Checked (α → β)) (d : Checked α) :
    (c <*> d).passes = (c.passes && d.passes) := by
  cases c <;> cases d <;> rfl

@[simp] theorem passes_at (step : Step) (c : Checked α) : (c.at_ step).passes = c.passes := by
  cases c <;> rfl

theorem seq_eq_ok_iff {f : Checked (α → β)} {b : β} :
    f <*> c = .ok b ↔ ∃ g a, f = .ok g ∧ c = .ok a ∧ g a = b := by
  cases f <;> cases c <;> simp [Seq.seq, Checked.ap]

theorem map_check_eq_ok_iff {f : α → β} {b : β} : f <$> c = .ok b ↔ ∃ a, c = .ok a ∧ f a = b := by
  cases c <;> simp [Functor.map, Checked.map]

theorem at_eq_ok_iff {step : Step} {a : α} : c.at_ step = .ok a ↔ c = .ok a := by
  cases c <;> simp [Checked.at_]

theorem andThen_eq_ok_iff {f : α → Checked β} {b : β} :
    c.andThen f = .ok b ↔ ∃ a, c = .ok a ∧ f a = .ok b := by
  cases c <;> simp [Checked.andThen]

theorem passes_traverse (f : α → Checked β) (l : List α) :
    (Checked.traverse f l).passes = l.all fun a => (f a).passes := by
  induction l with
  | nil => rfl
  | cons a rest ih => rw [Checked.traverse, passes_seq, passes_map, ih, List.all_cons]

end Checks

/-! ## Kinds of fields -/

namespace Field

variable {α κ : Type} {check : Value → Checked α}

theorem passes_mappingOf (key : Value → Checked κ) (value : Value → Checked α) (ms : Members) :
    (mappingOf key value (.map ms)).passes =
      ms.all fun m => (key (.scalar m.1)).passes && (value m.2).passes := by
  rw [mappingOf, passes_traverse]
  refine congrArg ms.all (funext fun m => ?_)
  simp only [passes_seq, passes_map, passes_at]

/-- Whether a mapping has names as keys is said by the keys. -/
theorem passes_namedMapping (ms : Members) :
    (namedMapping (.map ms)).passes =
      (ms.map (·.1)).all fun k => (text (.scalar k)).passes := by
  have checked : (namedMapping (.map ms)).passes = (mappingOf text Checked.ok (.map ms)).passes :=
    passes_map _
  rw [checked, passes_mappingOf, List.all_map]
  exact congrArg ms.all (funext fun m => Bool.and_true _)

theorem eq_encode_of_decode? {data : List UInt8} {s : String} (h : decode? data = some s) :
    data = Text.Utf8.encode s := by
  unfold decode? String.fromUTF8? at h
  split at h
  · cases h
    rw [Text.Utf8.encode, String.toUTF8, ByteArray.toList, Text.Utf8.toList_loop]
    rfl
  · cases h

/-- The keys that are read as a text: the text, and the bytes that encode it. -/
theorem eq_of_text {k : Scalar} {s : String} (h : text (.scalar k) = .ok s) :
    k = .str s ∨ k = .bytes (Text.Utf8.encode s) := by
  cases k with
  | str t =>
    cases h
    exact .inl rfl
  | bytes data =>
    rw [text, looseText] at h
    cases hd : decode? data with
    | none =>
      rw [hd] at h
      cases h
    | some t =>
      rw [hd] at h
      cases h
      exact .inr (congrArg _ (eq_encode_of_decode? hd))
  | _ => cases h

theorem satisfying_eq_ok_iff {test : α → Bool} {bad : Flaw} {v : Value} {a : α} :
    satisfying test bad check v = .ok a ↔ check v = .ok a ∧ test a = true := by
  rw [satisfying, andThen_eq_ok_iff]
  constructor
  · rintro ⟨b, hb, h⟩
    split at h
    · next ht =>
      cases h
      exact ⟨hb, ht⟩
    · cases h
  · rintro ⟨h, ht⟩
    exact ⟨a, h, if_pos ht⟩

theorem choice_eq_ok_iff {options : List (String × α)} {v : Value} {a : α} :
    choice options v = .ok a ↔ ∃ s, v = .str s ∧ options.lookup s = some a := by
  unfold choice
  constructor
  · intro h
    split at h
    · next b hb =>
      cases h
      obtain ⟨s, hs, hl⟩ := Option.bind_eq_some_iff.1 hb
      unfold Value.str? at hs
      split at hs
      · cases hs
        exact ⟨s, rfl, hl⟩
      · cases hs
    · cases h
  · rintro ⟨s, rfl, hl⟩
    simp only [Value.str?, Option.bind_some, hl]

theorem checkItems_of_forall (write : α → Value) (h : ∀ a, check (write a) = .ok a) (i : Nat)
    (items : List α) : checkItems check i (items.map write) = .ok items := by
  induction items generalizing i with
  | nil => rfl
  | cons a rest ih =>
    exact seq_eq_ok_iff.2 ⟨_, rest, map_check_eq_ok_iff.2 ⟨a, at_eq_ok_iff.2 (h a), rfl⟩, ih _, rfl⟩

theorem listOf_text_map (items : List String) : listOf text (.list (items.map .str)) = .ok items :=
  checkItems_of_forall Value.str (fun _ => rfl) 0 items

/-- The check takes no mapping. -/
def Flat (check : Value → Checked α) : Prop := ∀ ms, (check (.map ms)).passes = false

theorem Flat.isMap (h : Flat check) {v : Value} {a : α} (hc : check v = .ok a) :
    v.isMap = false := by
  cases v with
  | map ms =>
    have taken : (check (.map ms)).passes = true := passes_iff.2 ⟨a, hc⟩
    rw [h ms] at taken
    cases taken
  | _ => rfl

theorem flat_text : Flat text := fun _ => rfl

theorem flat_truth : Flat truth := fun _ => rfl

theorem flat_whole : Flat whole := fun _ => rfl

theorem flat_number : Flat number := fun _ => rfl

theorem flat_listOf (check : Value → Checked α) : Flat (listOf check) := fun _ => rfl

theorem Flat.satisfying (h : Flat check) (test : α → Bool) (bad : Flaw) :
    Flat (satisfying test bad check) := by
  intro ms
  have failed := h ms
  unfold Field.satisfying
  cases hc : check (.map ms) with
  | ok a => rw [hc] at failed; cases failed
  | faults => rfl

end Field

/-! ## Fields of records -/

namespace Record

variable {α : Type} {ms : Members} {names : List String} {check : Value → Checked α} {d a : α}

/-- The value under the first of several names that is there. -/
def value? (ms : Members) : List String → Option Value
  | [] => none
  | name :: others => (ms.get? name).or (value? ms others)

theorem value?_nil (names : List String) : value? [] names = none := by
  induction names with
  | nil => rfl
  | cons name others ih => exact ih

theorem find?_map (ms : Members) (names : List String) :
    (find? ms names).map (·.2) = value? ms names := by
  induction names with
  | nil => rfl
  | cons name others ih =>
    rw [find?, value?]
    cases ms.get? name with
    | none => exact ih
    | some v => rfl

theorem field_eq_ok_iff :
    field ms names d check = .ok a ↔ (value? ms names).elim (.ok d) check = .ok a := by
  rw [← find?_map, field]
  cases find? ms names with
  | none => rfl
  | some found => exact at_eq_ok_iff

/-- A field whose value is known is what it says. -/
theorem field_of_get? {name : String} {v : Value} (h : ms.get? name = some v)
    (hv : check v = .ok a) (others : List String) : field ms (name :: others) d check = .ok a := by
  rw [field_eq_ok_iff, value?, h]
  exact hv

/-- What holds of the default of a field and of all that passes its check holds of the field. -/
theorem of_field {P : α → Prop} (h : field ms names d check = .ok a) (hd : P d)
    (hc : ∀ v b, check v = .ok b → P b) : P a := by
  rw [field_eq_ok_iff] at h
  cases hv : value? ms names with
  | none =>
    rw [hv] at h
    cases h
    exact hd
  | some v =>
    rw [hv] at h
    exact hc v a h

end Record

end ApiAccord
