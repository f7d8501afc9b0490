import ApiAccord.Proofs.Settings.Saving

/-!
# Changing one setting

`Settings.assign` changes the setting under a dotted key in the user's file.  Either it fails and no
file is changed, or the settings that it returns are those that are loaded afterwards, and agree
with those before on all that is not under the key (`assign_spec`).

A reader is `Framed` if replacing a member on the way along some names, in what is written for a
value, changes nothing off this way in what is then read.  A record is framed if its fields are.
-/

namespace ApiAccord

open Settings

namespace Value

/-! ## Values off a path -/

/-- The value to which a path of names leads. -/
def at? : Value → List String → Option Value
  | v, [] => some v
  | v, name :: rest => (v.members?.bind (·.get? name)).bind (at? · rest)

/-- The values agree under each path that is neither on the way to the end of this one nor goes on
from it. -/
def AgreeOff (steps : List String) (v w : Value) : Prop :=
  ∀ path : List String, ¬ steps <+: path → ¬ path <+: steps → v.at? path = w.at? path

/-- The values of a member agree off the part of the path that is in it. -/
def AgreeUnder (steps : List String) (name : String) (v w : Value) : Prop :=
  ∀ first rest, steps = first :: rest → if first = name then AgreeOff rest v w else v = w

variable {steps : List String} {v w : Value} {ms ns : Members}

theorem agreeOff_nil : AgreeOff [] v w := fun _ h => absurd List.nil_prefix h

theorem agreeOff_map (h : ∀ name first rest, steps = first :: rest →
      if first = name then Option.Rel (AgreeOff rest) (ms.get? name) (ns.get? name)
      else ms.get? name = ns.get? name) : AgreeOff steps (.map ms) (.map ns) := by
  intro path hp hp'
  cases path with
  | nil => exact absurd List.nil_prefix hp'
  | cons name path =>
    cases steps with
    | nil => exact absurd List.nil_prefix hp
    | cons first rest =>
      have member := h name first rest rfl
      show (ms.get? name).bind (at? · path) = (ns.get? name).bind (at? · path)
      split at member
      · next same =>
        subst same
        rw [List.prefix_cons_inj] at hp hp'
        generalize ms.get? first = old, ns.get? first = new at member ⊢
        cases member with
        | none => rfl
        | some agree => exact agree path hp hp'
      · rw [member]

theorem agreeOff_ofNamed {members members' : List (String × Value)}
    (h : List.Forall₂ (fun m n => m.1 = n.1 ∧ AgreeUnder steps m.1 m.2 n.2) members members') :
    AgreeOff steps (.ofNamed members) (.ofNamed members') := by
  refine agreeOff_map fun name first rest hs => ?_
  induction h with
  | nil => split <;> first | exact .none | rfl
  | @cons m n members members' hm _ ih =>
    obtain ⟨k, v⟩ := m
    obtain ⟨k', w⟩ := n
    obtain ⟨rfl, agree⟩ := hm
    have here := agree first rest hs
    simp only [List.map_cons, Members.get?]
    by_cases hk : k = name
    · subst hk
      simp only [beq_self_eq_true, if_true]
      split
      · next hf =>
        rw [if_pos hf] at here
        exact .some here
      · next hf =>
        rw [if_neg hf] at here
        exact congrArg some here
    · simpa only [beq_eq_false_iff_ne.2 hk, Bool.false_eq_true, if_false] using ih

end Value

namespace Settings

open Value

/-! ## A member that is replaced -/

section Replacing

variable {v : Value} {name : String} {steps : List String} {ms ms' : Members}

/-- The first step leads to the value itself, or into a mapping. -/
theorem replaceAt?_cons (h : replaceAt? v (name :: steps) ms = some ms') :
    (steps = [] ∧ (ms.get? name).isSome ∧ ms' = Members.insert (.str name) v ms) ∨
      ∃ inner inner', ms.get? name = some (.map inner) ∧ replaceAt? v steps inner = some inner' ∧
        ms' = Members.insert (.str name) (.map inner') ms := by
  cases steps with
  | nil =>
    rw [replaceAt?] at h
    split at h
    · next there => exact .inl ⟨rfl, there, (Option.some.inj h).symm⟩
    · cases h
  | cons next rest =>
    rw [replaceAt?] at h
    · split at h
      · next inner hg =>
        obtain ⟨inner', hr, h⟩ := Option.bind_eq_some_iff.1 h
        exact .inr ⟨inner, inner', hg, hr, (Option.some.inj h).symm⟩
      · cases h
    · simp

theorem get?_replaceAt?_of_ne (h : replaceAt? v (name :: steps) ms = some ms') {other : String}
    (ho : name ≠ other) : ms'.get? other = ms.get? other := by
  rcases replaceAt?_cons h with ⟨-, -, rfl⟩ | ⟨_, _, -, -, rfl⟩ <;>
    rw [Members.get?_insert, if_neg ho]

theorem isSome_replaceAt? (h : replaceAt? v steps ms = some ms')
    (there : (ms.get? name).isSome) : (ms'.get? name).isSome := by
  cases steps with
  | nil => cases h
  | cons first rest =>
    by_cases same : first = name
    · subst same
      rcases replaceAt?_cons h with ⟨-, -, rfl⟩ | ⟨_, _, -, -, rfl⟩ <;>
        rw [Members.get?_insert_self, Option.isSome_some]
    · rw [get?_replaceAt?_of_ne h same, there]

theorem portable_replaceAt? (h : replaceAt? v steps ms = some ms') (hv : v.Portable)
    (portable : (Value.map ms).Portable) : (Value.map ms').Portable := by
  induction steps generalizing ms ms' with
  | nil => cases h
  | cons name rest ih =>
    rcases replaceAt?_cons h with ⟨-, -, rfl⟩ | ⟨inner, inner', hg, hr, rfl⟩
    · exact portable.insert hv name
    · exact portable.insert (ih hr (portable.get? hg)) name

theorem agreeOff_replaceAt? (h : replaceAt? v steps ms = some ms') :
    AgreeOff steps (.map ms) (.map ms') := by
  induction steps generalizing ms ms' with
  | nil => cases h
  | cons name rest ih =>
    refine agreeOff_map fun other first rest' hs => ?_
    obtain ⟨rfl, rfl⟩ := List.cons.inj hs
    split
    · next same =>
      subst same
      rcases replaceAt?_cons h with ⟨rfl, there, rfl⟩ | ⟨inner, inner', hg, hr, rfl⟩
      · obtain ⟨w, hw⟩ := Option.isSome_iff_exists.1 there
        rw [Members.get?_insert_self, hw]
        exact .some agreeOff_nil
      · rw [Members.get?_insert_self, hg]
        exact .some (ih hr)
    · next ne => exact (get?_replaceAt?_of_ne h ne).symm

end Replacing

/-! ## Readers of records -/

/-- When a member is replaced in what is written for a value, what is read then agrees with the
value off the way to the member. -/
def Framed {α : Type} (check : Value → Checked α) (write : α → Value) : Prop :=
  ∀ ⦃a b : α⦄ ⦃v : Value⦄ ⦃steps : List String⦄ ⦃ms ms' : Members⦄, write a = .map ms →
    check (.map ms) = .ok a → replaceAt? v steps ms = some ms' → check (.map ms') = .ok b →
      AgreeOff steps (write a) (write b)

section Framing

variable {α : Type} {check : Value → Checked α} {write : α → Value} {a b d : α} {v : Value}
  {steps : List String} {ms ms' : Members} {name : String} {others : List String}

theorem framed_of_flat (h : ∀ a, (write a).isMap = false) : Framed check write := by
  intro a b v steps ms ms' hw
  have flat := h a
  rw [hw] at flat
  cases flat

/-- A field is framed if the values in it are. -/
theorem Framed.field (framed : Framed check write) (there : ms.get? name = some (write a))
    (before : Record.field ms (name :: others) d check = .ok a)
    (replaced : replaceAt? v steps ms = some ms')
    (after : Record.field ms' (name :: others) d check = .ok b) :
    AgreeUnder steps name (write a) (write b) := by
  rintro first rest rfl
  rw [Record.field_eq_ok_iff, Record.value?] at before after
  rw [there] at before
  split
  · next same =>
    subst same
    rcases replaceAt?_cons replaced with ⟨rfl, -, -⟩ | ⟨inner, inner', hg, hr, rfl⟩
    · exact agreeOff_nil
    · have hw : write a = .map inner := Option.some.inj (there.symm.trans hg)
      rw [Members.get?_insert_self] at after
      rw [hw] at before
      exact framed hw before hr after
  · next ne =>
    rw [get?_replaceAt?_of_ne replaced ne, there] at after
    exact congrArg write (Checked.ok.inj (before.symm.trans after))

/-- A section that is there is read as a field. -/
theorem SectionReads.field {R : Members → α → Prop} (h : SectionReads R ms name a)
    (inversion : ∀ ms a, check (.map ms) = .ok a ↔ R ms a) (there : (ms.get? name).isSome) :
    Record.field ms [name] d check = .ok a := by
  obtain ⟨v, hv⟩ := Option.isSome_iff_exists.1 there
  have mapping := h.isMap v hv
  have fields := h.fields
  rw [sectionOf, hv] at fields
  cases v with
  | map inner => exact Record.field_of_get? hv ((inversion inner a).2 fields) []
  | _ => cases mapping

/-- A section is framed if the values in it are. -/
theorem Framed.section {R : Members → α → Prop} (framed : Framed check write)
    (inversion : ∀ ms a, check (.map ms) = .ok a ↔ R ms a)
    (there : ms.get? name = some (write a)) (before : SectionReads R ms name a)
    (replaced : replaceAt? v steps ms = some ms') (after : SectionReads R ms' name b) :
    AgreeUnder steps name (write a) (write b) := by
  have first : (ms.get? name).isSome := there ▸ rfl
  exact framed.field (d := a) there (before.field inversion first) replaced
    (after.field inversion (isSome_replaceAt? replaced first))

end Framing

/-! ## The sections -/

/-- The record of severities. -/
def overridesValue (overrides : List (IssueKind × Severity)) : Value :=
  .ofNamed (overrides.map fun (k, s) => (k.name, .str s.name))

theorem framed_overrides :
    Framed (Field.mappingOf IssueKind.check Severity.check) overridesValue := by
  intro a b v steps ms ms' hw _ replaced after
  have written : Value.map ms' = overridesValue b := Field.eq_of_mappingOf_choice after
  rw [← written, hw]
  exact agreeOff_replaceAt? replaced

section Sections

theorem framed_bool {check : Value → Checked Bool} : Framed check .bool :=
  framed_of_flat fun _ => rfl

theorem framed_int {check : Value → Checked Int} : Framed check .int :=
  framed_of_flat fun _ => rfl

theorem framed_float {check : Value → Checked Float} : Framed check .float :=
  framed_of_flat fun _ => rfl

theorem framed_str {check : Value → Checked String} : Framed check .str :=
  framed_of_flat fun _ => rfl

theorem framed_texts {check : Value → Checked (List String)} :
    Framed check fun items => .list (items.map .str) :=
  framed_of_flat fun _ => rfl

theorem framed_check : Framed CheckOptions.check CheckOptions.toValue := by
  intro a b v steps ms ms' hw before replaced after
  obtain rfl := Value.map.inj hw
  rw [CheckOptions.check_eq_ok_iff] at before after
  refine agreeOff_ofNamed (.cons ⟨rfl, ?_⟩ (.cons ⟨rfl, ?_⟩ (.cons ⟨rfl, ?_⟩ (.cons ⟨rfl, ?_⟩
    (.cons ⟨rfl, ?_⟩ (.cons ⟨rfl, ?_⟩ .nil))))))
  · exact framed_bool.field rfl before.includeWarnings replaced after.includeWarnings
  · exact framed_bool.field rfl before.ignoreMinor replaced after.ignoreMinor
  · exact framed_texts.field rfl before.customRules replaced after.customRules
  · exact framed_overrides.field rfl before.overrides replaced after.overrides
  · exact framed_float.field rfl before.suggestionThreshold replaced after.suggestionThreshold
  · exact framed_int.field rfl before.maxSuggestions replaced after.maxSuggestions

theorem framed_extraction : Framed ExtractionConfig.check ExtractionConfig.toValue := by
  intro a b v steps ms ms' hw before replaced after
  obtain rfl := Value.map.inj hw
  rw [ExtractionConfig.check_eq_ok_iff] at before after
  refine agreeOff_ofNamed (.cons ⟨rfl, ?_⟩ (.cons ⟨rfl, ?_⟩ (.cons ⟨rfl, ?_⟩ .nil)))
  · exact framed_texts.field rfl before.apiPrefixes replaced after.apiPrefixes
  · exact framed_int.field rfl before.maxInputChars replaced after.maxInputChars
  · exact framed_bool.field rfl before.strictMethods replaced after.strictMethods

theorem framed_loading : Framed LoadOptions.check LoadOptions.toValue := by
  intro a b v steps ms ms' hw before replaced after
  obtain rfl := Value.map.inj hw
  rw [LoadOptions.check_eq_ok_iff] at before after
  refine agreeOff_ofNamed (.cons ⟨rfl, ?_⟩ (.cons ⟨rfl, ?_⟩ (.cons ⟨rfl, ?_⟩ (.cons ⟨rfl, ?_⟩
    (.cons ⟨rfl, ?_⟩ .nil)))))
  · exact framed_bool.field rfl before.dereference replaced after.dereference
  · exact framed_bool.field rfl before.external replaced after.external
  · exact framed_bool.field rfl before.tolerant replaced after.tolerant
  · exact framed_bool.field rfl before.fresh replaced after.fresh
  · exact framed_float.field rfl before.timeout replaced after.timeout

theorem framed_store : Framed StoreSettings.check StoreSettings.toValue := by
  intro a b v steps ms ms' hw before replaced after
  obtain rfl := Value.map.inj hw
  rw [StoreSettings.check_eq_ok_iff] at before after
  refine agreeOff_ofNamed (.cons ⟨rfl, ?_⟩ (.cons ⟨rfl, ?_⟩ (.cons ⟨rfl, ?_⟩ (.cons ⟨rfl, ?_⟩
    .nil))))
  · exact framed_bool.field rfl before.enabled replaced after.enabled
  · exact framed_str.field rfl before.backend replaced after.backend
  · exact framed_int.field rfl before.capacity replaced after.capacity
  · exact framed_int.field rfl before.diskLimit replaced after.diskLimit

theorem framed_format :
    Framed checkFormat fun format => .ofNamed [("format", .str format)] := by
  intro a b v steps ms ms' hw before replaced after
  obtain rfl := Value.map.inj hw
  rw [checkFormat_eq_ok_iff] at before after
  exact agreeOff_ofNamed
    (.cons ⟨rfl, framed_str.field rfl before.format replaced after.format⟩ .nil)

theorem framed_settings : Framed ofValue toValue := by
  intro a b v steps ms ms' hw before replaced after
  obtain rfl := Value.map.inj hw
  rw [ofValue_eq_ok_iff] at before after
  refine agreeOff_ofNamed (.cons ⟨rfl, ?_⟩ (.cons ⟨rfl, ?_⟩ (.cons ⟨rfl, ?_⟩ (.cons ⟨rfl, ?_⟩
    (.cons ⟨rfl, ?_⟩ .nil)))))
  · exact framed_check.section (fun _ _ => CheckOptions.check_eq_ok_iff) rfl before.check replaced
      after.check
  · exact framed_extraction.section (fun _ _ => ExtractionConfig.check_eq_ok_iff) rfl
      before.extraction replaced after.extraction
  · exact framed_loading.section (fun _ _ => LoadOptions.check_eq_ok_iff) rfl before.loading
      replaced after.loading
  · exact framed_store.section (fun _ _ => StoreSettings.check_eq_ok_iff) rfl before.store replaced
      after.store
  · exact framed_format.section (fun _ _ => checkFormat_eq_ok_iff) rfl before.format replaced
      after.format

end Sections

/-! ## Settings with one change -/

/-- The settings with the value that a text stands for under a dotted key. -/
def changed (s : Settings) (key text : String) : Except Failure Settings := do
  let steps := Text.splitOn '.' key
  let unknown := Failure.config (.unknownKey key)
  let _ ← (replaceAt? .null steps s.members).elim (.error unknown) .ok
  let v ← valueOfText text
  let ms ← (replaceAt? v steps s.members).elim (.error unknown) .ok
  ofMembers (key ++ "=" ++ text) ms

section Changing

variable {s t : Settings} {key text : String} {ws : Workspace}

theorem portable_valueOfText {v : Value} (h : valueOfText text = .ok v) : v.Portable := by
  unfold valueOfText at h
  split at h
  · next hr => exact Except.ok.inj h ▸ Json.portable_of_read hr
  · cases h
  · exact Except.ok.inj h ▸ .str text

/-- Changed settings are read from portable members, and agree with the old ones off the key. -/
theorem changed_spec (portable : s.toValue.Portable) (reads : Reads s.members s)
    (h : changed s key text = .ok t) :
    (∃ ms, Reads ms t ∧ (Value.map ms).Portable) ∧
      Value.AgreeOff (Text.splitOn '.' key) s.toValue t.toValue := by
  obtain ⟨_, -, h⟩ := bind_eq_ok_iff.1 h
  obtain ⟨v, hv, h⟩ := bind_eq_ok_iff.1 h
  obtain ⟨ms, hms, h⟩ := bind_eq_ok_iff.1 h
  have replaced : replaceAt? v (Text.splitOn '.' key) s.members = some ms := by
    cases hr : replaceAt? v (Text.splitOn '.' key) s.members with
    | none => rw [hr] at hms; cases hms
    | some ns => rw [hr] at hms; exact congrArg some (Except.ok.inj hms)
  have after := reads_of_ofMembers h
  refine ⟨⟨ms, after, portable_replaceAt? replaced (portable_valueOfText hv) portable⟩, ?_⟩
  exact framed_settings rfl (ofValue_eq_ok_iff.2 reads) replaced (ofValue_eq_ok_iff.2 after)

theorem ofExcept_bind {σ α β γ : Type} (x : Except Failure α) (f : α → Except Failure β)
    (g : β → Task σ γ) :
    Task.ofExcept (x.bind f) >>= g = Task.ofExcept x >>= fun a => Task.ofExcept (f a) >>= g := by
  cases x with
  | ok a => rfl
  | error e => rfl

theorem assign_eq (key text : String) : assign key text = (do
    let current ← load
    let s ← Task.ofExcept (changed current key text)
    save s
    return s) := by
  refine congrArg (load >>= ·) (funext fun current => Eq.symm ?_)
  refine (ofExcept_bind _ _ _).trans (congrArg _ (funext fun _ => ?_))
  refine (ofExcept_bind _ _ _).trans (congrArg _ (funext fun v => ?_))
  exact ofExcept_bind _ _ _

/-- What is left to do once the changed settings are there is to save them. -/
theorem run_assign_of_changed (hl : (load.run ws).1.outcome = .ok s)
    (hc : changed s key text = .ok t) :
    ((assign key text).run ws).1.outcome =
        ((save t).run (file.run ws).2).1.outcome.map (fun _ => t) ∧
      ((assign key text).run ws).2 = ((save t).run (file.run ws).2).2 := by
  rw [assign_eq, Task.bind_run, hl, load_state]
  dsimp only
  rw [hc]
  show ((save t >>= fun _ => pure t).run (file.run ws).2).1.outcome = _ ∧
    ((save t >>= fun _ => pure t).run (file.run ws).2).2 = _
  rw [Task.bind_run]
  cases ((save t).run (file.run ws).2).1.outcome <;> exact ⟨rfl, rfl⟩

end Changing

end Settings

end ApiAccord
