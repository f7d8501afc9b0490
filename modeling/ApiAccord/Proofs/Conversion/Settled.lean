import ApiAccord.Proofs.Conversion.Keeping

/-!
# Members that settle

A value settles in a document if its references can be followed to an end there.  Lists and mappings
settle if their parts do (`inherited_settles`), and so does what the conversion puts together from
members that settle.
-/

namespace ApiAccord.Swagger

open Reference

/-- The references in a value can be followed to an end. -/
def Settles (home : String) (conv : Members) (v : Value) : Prop := ∃ w, Means home conv v w

/-- A member that settles, and makes no reference. -/
structure SettledMember (home : String) (conv : Members) (m : Scalar × Value) : Prop where
  settles : Settles home conv m.2
  noRef : isRefKey m.1 = true → m.2.str? = none

/-- Members that settle, and make no reference. -/
def Settled (home : String) (conv ms : Members) : Prop := ∀ m ∈ ms, SettledMember home conv m

variable {home ref : String} {conv doc ms out p q r : Members} {v : Value} {items : List Value}
  {names : List Scalar}

/-! ## Values -/

theorem settles_of_plain (h : plain v = true) : Settles home conv v := ⟨v, means_self_of_plain h⟩

theorem settles_list (h : ∀ v ∈ items, Settles home conv v) : Settles home conv (.list items) := by
  obtain ⟨items', hi⟩ := exists_forall₂ h
  exact ⟨.list items', unfolds_list_iff.2 ⟨items', rfl, hi⟩⟩

theorem settles_of_leads (hl : Leads conv ref v) (h : Settles home conv v) :
    Settles home conv (.map (refMembers ref)) := by
  obtain ⟨w, hw⟩ := h
  exact ⟨w, means_of_leads rfl hl hw⟩

theorem Settled.isReference (h : Settled home conv ms) : isReference ms = false :=
  isReference_eq_false_iff.2 fun m hm => (h m hm).noRef

theorem Settled.settles (h : Settled home conv ms) : Settles home conv (.map ms) := by
  have each : ∀ m ∈ ms, ∃ m' : Scalar × Value, m.1 = m'.1 ∧ Means home conv m.2 m'.2 := by
    intro m hm
    obtain ⟨w, hw⟩ := (h m hm).settles
    exact ⟨(m.1, w), rfl, hw⟩
  obtain ⟨ms', hms⟩ := exists_forall₂ each
  exact ⟨.map ms', (unfolds_map_iff (refText?_eq_none h.isReference)).2 ⟨ms', rfl, hms⟩⟩

theorem inherited_settles (home : String) (conv : Members) :
    Inherited (Settles home conv) (SettledMember home conv) where
  plain := settles_of_plain
  list := settles_list
  map := Settled.settles
  value := SettledMember.settles
  member hv noRef := ⟨hv, noRef⟩

theorem settled_of_plain (h : plain (.map ms) = true) : Settled home conv ms := by
  obtain ⟨noRef, each⟩ := plain_map.1 h
  exact fun m hm => ⟨settles_of_plain (each m hm), isReference_eq_false_iff.1 noRef m hm⟩

/-! ## Parts of a document -/

/-- A parameter or header: if it is a mapping, its members settle. -/
abbrev TypedSettles (home : String) (conv : Members) : Value → Prop :=
  TypedKeeps (SettledMember home conv)

/-- A response: its members settle, and those of its headers. -/
abbrev ResponseSettles (home : String) (conv : Members) : Members → Prop :=
  ResponseKeeps (SettledMember home conv)

/-- An entry of a list of parameters: what it becomes settles, a reference to a shared body, a body
or a parameter. -/
abbrev EntrySettles (home : String) (conv : Members) : List Scalar → Members → Prop :=
  EntryKeeps (Settles home conv)

theorem Settled.parameter (h : Settled home conv p) (hq : parameter p = .ok q) :
    Settled home conv q :=
  (inherited_settles home conv).parameter h hq

theorem Settled.body (h : Settled home conv p) : Settled home conv (body p) :=
  (inherited_settles home conv).body h

theorem Settled.responseMembers (h : ResponseSettles home conv r)
    (hq : responseMembers r = .ok q) : Settled home conv q :=
  (inherited_settles home conv).responseMembers h hq

theorem entrySettles_of_settled (h : Settled home conv p) : EntrySettles home conv names p := by
  have noRef : bodyRef? names p = none := bodyRef?_eq_none (refText?_eq_none h.isReference)
  refine (inherited_settles home conv).entry h fun ref hr => ?_
  rw [noRef] at hr
  cases hr

/-- A document with moved references, part by part: what it holds settles as it is, or as what it is
converted into. -/
structure Resting (home : String) (conv doc : Members) : Prop where
  definitions : ∀ v, doc.get? "definitions" = some v → Settles home conv v
  parameters : ∀ ms, doc.get? "parameters" = some (.map ms) →
    ∀ m ∈ ms, TypedSettles home conv m.2
  responses : ∀ ms, doc.get? "responses" = some (.map ms) →
    ∀ m ∈ ms, ∀ u, response m.2 = .ok u → SettledMember home conv (m.1, u)
  paths : ∀ ms, doc.get? "paths" = some (.map ms) → ∀ m ∈ ms, ∀ item, m.2 = .map item →
    ∀ out, pathItem (bodyNames (sharedOf doc)) item = .ok out → Settled home conv out
  beside : ∀ m ∈ doc, isOneOf sections m.1 = false →
    plain m.2 = true ∧ (isRefKey m.1 = true → m.2.str? = none)

/-- The assembled document settles in itself, or in any other that its parts settle in. -/
theorem Resting.assemble {version : String} (h : Resting home conv doc)
    (hout : assemble version doc = .ok out) : Settled home conv out := by
  have schemes (ms : Members) (hg : doc.get? "securityDefinitions" = some (.map ms))
      (m : Scalar × Value) (hm : m ∈ ms) : TypedSettles home conv m.2 := by
    obtain ⟨plain, -⟩ := h.beside _ (Members.mem_of_get? hg) rfl
    intro p hp
    exact settled_of_plain (hp ▸ (plain_map.1 plain).2 m hm)
  refine (inherited_settles home conv).assemble ⟨h.definitions, h.parameters, h.responses, h.paths,
    schemes, fun m hm hk => ?_⟩ hout
  obtain ⟨plain, noRef⟩ := h.beside m hm hk
  exact ⟨settles_of_plain plain, noRef⟩

end ApiAccord.Swagger
