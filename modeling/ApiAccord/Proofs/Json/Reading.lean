import ApiAccord.Json.Reader
import ApiAccord.Proofs.Correspondence

/-!
# What is read from JSON

`Json.read` makes a value of scalars, lists, and mappings whose keys are names, put together entry
by entry.  Hence a property that these keep holds of all that is read (`read_induction`).
-/

namespace ApiAccord.Json

/-- The readers give only what has the property when they have this much fuel. -/
structure ReadersKeep (P : Value → Prop) (fuel : Nat) : Prop where
  value : ∀ cs v rest, readValue fuel cs = .ok (v, rest) → P v
  items : ∀ cs items rest, readItems fuel cs = .ok (items, rest) → ∀ v ∈ items, P v
  entries : ∀ cs entries rest, readEntries fuel cs = .ok (entries, rest) →
    ∀ e ∈ entries, (∃ name, e.1 = .str name) ∧ P e.2

variable {P : Value → Prop} {fuel : Nat} {cs rest : List Char}

theorem readersKeep_zero : ReadersKeep P 0 := by
  refine ⟨fun _ _ _ h => ?_, fun _ _ _ h => ?_, fun _ _ _ h => ?_⟩
  · rw [readValue] at h; cases h
  · rw [readItems] at h; cases h
  · rw [readEntries] at h; cases h

theorem ReadersKeep.items_succ {items : List Value} (keep : ReadersKeep P fuel)
    (h : readItems (fuel + 1) cs = .ok (items, rest)) : ∀ v ∈ items, P v := by
  rw [readItems] at h
  obtain ⟨⟨v, _⟩, hv, h⟩ := bind_eq_ok_iff.1 h
  dsimp only at h
  split at h
  · cases h
    exact List.forall_mem_singleton.2 (keep.value _ _ _ hv)
  · obtain ⟨⟨vs, _⟩, hvs, h⟩ := bind_eq_ok_iff.1 h
    cases h
    exact List.forall_mem_cons.2 ⟨keep.value _ _ _ hv, keep.items _ _ _ hvs⟩
  · cases h

theorem ReadersKeep.entries_succ {entries : List (Scalar × Value)} (keep : ReadersKeep P fuel)
    (h : readEntries (fuel + 1) cs = .ok (entries, rest)) :
    ∀ e ∈ entries, (∃ name, e.1 = .str name) ∧ P e.2 := by
  unfold readEntries at h
  split at h
  · obtain ⟨⟨_, _⟩, -, h⟩ := bind_eq_ok_iff.1 h
    dsimp only at h
    split at h
    · obtain ⟨⟨v, _⟩, hv, h⟩ := bind_eq_ok_iff.1 h
      dsimp only at h
      split at h
      · cases h
        exact List.forall_mem_singleton.2 ⟨⟨_, rfl⟩, keep.value _ _ _ hv⟩
      · obtain ⟨⟨es, _⟩, hes, h⟩ := bind_eq_ok_iff.1 h
        cases h
        exact List.forall_mem_cons.2 ⟨⟨⟨_, rfl⟩, keep.value _ _ _ hv⟩, keep.entries _ _ _ hes⟩
      · cases h
    · cases h
  · cases h

section Induction

variable
  (scalar : ∀ cs s rest, readPlain cs = .ok (s, rest) → P (.scalar s))
  (text : ∀ s, P (.str s))
  (list : ∀ items, (∀ v ∈ items, P v) → P (.list items))
  (map : ∀ entries : List (Scalar × Value),
    (∀ e ∈ entries, (∃ name, e.1 = .str name) ∧ P e.2) → P (.map (Members.ofEntries entries)))

include scalar text list map

theorem ReadersKeep.value_succ {v : Value} (keep : ReadersKeep P fuel)
    (h : readValue (fuel + 1) cs = .ok (v, rest)) : P v := by
  unfold readValue at h
  split at h
  · obtain ⟨_, -, h⟩ := bind_eq_ok_iff.1 h
    cases h
    exact text _
  · split at h
    · cases h
      exact list _ fun v hv => (by cases hv)
    · obtain ⟨⟨vs, _⟩, hvs, h⟩ := bind_eq_ok_iff.1 h
      cases h
      exact list _ (keep.items _ _ _ hvs)
  · split at h
    · cases h
      exact map [] fun e he => (by cases he)
    · obtain ⟨⟨es, _⟩, hes, h⟩ := bind_eq_ok_iff.1 h
      cases h
      exact map _ (keep.entries _ _ _ hes)
  · obtain ⟨⟨s, _⟩, hs, h⟩ := bind_eq_ok_iff.1 h
    cases h
    exact scalar _ _ _ hs

/-- The readers keep what the parts of a value keep. -/
theorem readersKeep (fuel : Nat) : ReadersKeep P fuel := by
  induction fuel with
  | zero => exact readersKeep_zero
  | succ fuel keep =>
    exact ⟨fun _ _ _ => keep.value_succ scalar text list map, fun _ _ _ => keep.items_succ,
      fun _ _ _ => keep.entries_succ⟩

theorem read_induction {json : String} {v : Value} (h : read json = .ok v) : P v := by
  unfold read readChars at h
  split at h
  · cases h
  · obtain ⟨⟨w, _⟩, hw, h⟩ := bind_eq_ok_iff.1 h
    dsimp only at h
    split at h
    · cases h
      exact (readersKeep scalar text list map _).value _ _ _ hw
    · cases h

end Induction

end ApiAccord.Json
