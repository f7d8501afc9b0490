import ApiAccord.Proofs.Conversion.Movable

/-!
# Conversion and resolution commute

A movable document may be converted first and its references resolved after, or the other way round
(`convert_resolve_comm`).
-/

namespace ApiAccord.Swagger

open Reference

variable {home target : String} {doc conv ms : Members} {v w : Value}

/-- What the conversion does with a document, once it knows the versions. -/
theorem convert_eq_ok_iff : convert (.map doc) target = .ok conv ↔
    Text.startsWith "2." (((doc.get? "swagger").map Value.display).getD "") = true ∧
      Text.startsWith "3." (fullVersion target) = true ∧
        assemble (fullVersion target) (moveRefsOfMembers doc) = .ok conv := by
  unfold convert
  cases old : Text.startsWith "2." (((doc.get? "swagger").map Value.display).getD "") with
  | false => simp [Value.members, Failure.liftShape, old, bind, Except.bind, throw, throwThe]
  | true =>
    cases new : Text.startsWith "3." (fullVersion target) with
    | false => simp [Value.members, Failure.liftShape, old, new, bind, Except.bind]
    | true =>
      simp [Value.members, Failure.liftShape, old, new, bind, Except.bind]
      cases assemble (fullVersion target) (moveRefsOfMembers doc) <;> simp

theorem Movable.get?_moved_beside (movable : Movable doc) {name : String} (hr : name ≠ "$ref")
    (hn : isOneOf sections (.str name) = false) :
    Members.get? name (moveRefsOfMembers doc) = doc.get? name := by
  rw [get?_moveRefsOfMembers doc hr]
  cases hg : doc.get? name with
  | none => rfl
  | some v =>
    simp only [sections, isOneOf, List.any_cons, List.any_nil, Bool.or_false,
      Bool.or_eq_false_iff] at hn
    obtain ⟨h₁, h₂, h₃, h₄⟩ := hn
    have plain : plain v = true := by
      simpa only [memberOfDocument, isOneOf_singleton, h₁, h₂, h₃, h₄, Bool.false_eq_true, if_false]
        using memberOfDocument_of_get? movable.placed hg
    rw [Option.map_some, moveRefs_of_plain plain]

/-- A document without references into others is resolved to what it means. -/
theorem resolve_eq_ok_iff_means {left : List RefError} :
    resolve (strictly false home) .empty none (.map doc) = .ok (w, left) ↔
      left = [] ∧ Means home doc (.map doc) w := by
  have apart : KeysApart (strictly false home) .empty
      (startOf (strictly false home) none (.map doc)) :=
    keysApart_of_plainLocations (fun _ h => absurd h List.not_mem_nil) (.inl ⟨rfl, rfl⟩)
  rw [resolve_eq_ok_iff rfl]
  exact ⟨fun h => ⟨h.1, h.2.1⟩, fun h => ⟨h.1, h.2, apart⟩⟩

/-- The references of a movable document may be resolved before its conversion or after it. -/
theorem convert_resolve_comm (home target : String) (doc conv : Members) (resolved : Value)
    (left : List RefError) (movable : Movable doc)
    (converts : convert (.map doc) target = .ok conv)
    (resolves : resolve (strictly false home) .empty none (.map doc) = .ok (resolved, left)) :
    ∃ conv', convert resolved target = .ok conv' ∧
      resolve (strictly false home) .empty none (.map conv) = .ok (.map conv', []) := by
  obtain ⟨old, new, assembled⟩ := convert_eq_ok_iff.1 converts
  obtain ⟨-, means⟩ := resolve_eq_ok_iff_means.1 resolves
  have supplies := supplies_of_assemble assembled
  have stands : Stands home doc (.map doc) resolved := ⟨movable.sound, means⟩
  cases stands.document supplies movable movable.placed with
  | other hm => cases hm
  | @map _ ms alike =>
    -- What is left has no references, so that moving them changes nothing.
    have still : moveRefsOfMembers ms = ms :=
      Value.map.inj (means.resolved movable.sound movable.sound).2
    have names (shared : Members)
        (hs : sectionMembers (moveRefsOfMembers doc) "parameters" = .ok shared) :
        movedBodyNames doc = bodyNames shared := by
      rw [movedBodyNames, sharedOf, hs]
      rfl
    have version : Members.get? "swagger" ms = doc.get? "swagger" :=
      (get?_eq_of_beside "swagger" alike (by decide)).symm.trans
        (movable.get?_moved_beside (by decide) (by decide))
    obtain ⟨conv', assembled', agree⟩ := assemble_follows alike names conv assembled
    refine ⟨conv', convert_eq_ok_iff.2 ⟨?_, new, still.symm ▸ assembled'⟩,
      resolve_eq_ok_iff_means.2 ⟨rfl, agree.agrees.means⟩⟩
    rw [version]
    exact old

/-! ## A document with references of every kind -/

/-- A reference with this text. -/
def refTo (ref : String) : Value := .map (refMembers ref)

/-- A document with a body for a whole path, a shared parameter, a shared response, and schemas that
refer to each other. -/
def petShop : Members :=
  [named "swagger" (.str "2.0"),
    named "paths" (.ofNamed [("/pets", .ofNamed [
      ("parameters", .list [refTo "#/parameters/pet"]),
      ("post", .ofNamed [
        ("parameters", .list [refTo "#/parameters/limit"]),
        ("responses", .ofNamed [("200", refTo "#/responses/found")])])])]),
    named "definitions" (.ofNamed [
      ("Pet", .ofNamed [("properties", .ofNamed [("owner", refTo "#/definitions/Owner")])]),
      ("Owner", .ofNamed [("type", .str "object")])]),
    named "parameters" (.ofNamed [
      ("pet", .ofNamed [("in", .str "body"), ("schema", refTo "#/definitions/Pet")]),
      ("limit", .ofNamed [("in", .str "query"), ("type", .str "integer")])]),
    named "responses" (.ofNamed [("found", .ofNamed [("schema", refTo "#/definitions/Pet")])])]

theorem movable_petShop : Movable petShop where
  sound := by decide +kernel
  placed := by decide +kernel
  unescaped := by decide +kernel
  distinct := by decide +kernel

theorem convert_resolve_comm_petShop :
    Movable petShop ∧ ∃ conv resolved conv', convert (.map petShop) "3.0" = .ok conv ∧
      resolve (strictly false "/") .empty none (.map petShop) = .ok (resolved, []) ∧
      convert resolved "3.0" = .ok conv' ∧
      resolve (strictly false "/") .empty none (.map conv) = .ok (.map conv', []) := by
  have converts : (convert (.map petShop) "3.0").isOk = true := by decide +kernel
  have resolves : (resolve (strictly false "/") .empty none (.map petShop)).isOk = true := by
    decide +kernel
  obtain ⟨conv, hc⟩ := exists_of_isOk converts
  obtain ⟨⟨resolved, left⟩, hr⟩ := exists_of_isOk resolves
  obtain ⟨rfl, -⟩ := resolve_eq_ok_iff_means.1 hr
  obtain ⟨conv', hc', hr'⟩ :=
    convert_resolve_comm "/" "3.0" petShop conv resolved [] movable_petShop hc hr
  exact ⟨movable_petShop, conv, resolved, conv', hc, hr, hc', hr'⟩

end ApiAccord.Swagger
