import ApiAccord.Proofs.Conversion.DirectReading

/-!
# Paths and operations are preserved

The conversion rebuilds every path item from those of its members that the newer family knows, and
the reader then asks a path item for one method after another.  The three lists of methods agree:
the paths of a document stay, in their order, each with the operations that it has
(`SamePlace`), and those are what is read, path by path (`placesOf`).

So an operation is read once only, unless a path is there twice: as a text, and as the bytes that
encode this text (`slashedTwice`).

`operationsOf_collect` is about the members of a path item, `paths_samePlace` the induction over the
paths, and `convert_preserves` says it of documents.
-/

namespace ApiAccord.Swagger

open OperationReading

/-! ## Operations of path items -/

/-- The operation that a member of a path item is, with its name. -/
def operation? : Scalar × Value → Option (String × Members)
  | (.str name, .map op) => if methods.contains name then some (name, op) else none
  | _ => none

/-- The operations of a path item, in the order of its members. -/
def operationsOf (item : Members) : List (String × Members) := item.filterMap operation?

/-- The names of the operations under a path, in the order of the members of its item. -/
def operationNames : Value → List String
  | .map item => (operationsOf item).map (·.1)
  | _ => []

/-- The members that a converted path item may have. -/
inductive ItemMember : Scalar × Value → Prop where
  | operation {name : String} {op : Members} : name ∈ methods → ItemMember (.str name, .map op)
  | parameters {items : List Value} : ItemMember (.str "parameters", .list items)
  | reference {v : Value} : ItemMember (.str "$ref", v)
  | extension {name : String} {v : Value} : Text.startsWith "x-" name = true →
      ItemMember (.str name, v)

/-- A path and its item, before and after the conversion. -/
structure SamePlace (m n : Scalar × Value) : Prop where
  path : n.1 = m.1
  item : ∃ item, n.2 = .map item ∧ ∀ x ∈ item, ItemMember x
  operations : operationNames n.2 = operationNames m.2

/-- The operations of a document by path and method, path by path, those of a path in the order of
methods. -/
def placesOf (paths : Members) : List (Scalar × HttpMethod) :=
  paths.flatMap fun m =>
    (HttpMethod.all.filter fun h => (operationNames m.2).contains h.name).map (m.1, ·)

/-- An operation is read from a place. -/
def ReadAt (place : Scalar × HttpMethod) (op : Operation) : Prop :=
  Field.text (.scalar place.1) = .ok op.path ∧ op.method = place.2

variable {names : List Scalar} {name : String} {shared : Option Members} {k : Scalar} {v : Value}
  {m n : Scalar × Value} {doc conv item item' out paths : Members} {target : String}
  {x : Option (Scalar × Value)} {os : List Operation}

/-! ## Members that are operations -/

theorem isOneOf_str_iff {known : List String} :
    isOneOf known (.str name) = true ↔ name ∈ known := by
  rw [isOneOf, List.any_eq_true]
  simp [Value.isText, Value.str?]

theorem exists_of_isOneOf {known : List String} (h : isOneOf known k = true) :
    ∃ name ∈ known, k = .str name := by
  obtain ⟨name, hn, hk⟩ := List.any_eq_true.1 h
  exact ⟨name, hn, eq_of_isText hk⟩

/-- A member of a path item is an operation, or has no name of one, or is no mapping. -/
theorem operation_or_other (m : Scalar × Value) :
    (∃ name ∈ methods, ∃ op, m = (.str name, .map op)) ∨
      (isOneOf methods m.1 = false ∨ m.2.isMap = false) := by
  obtain ⟨k, v⟩ := m
  cases hk : isOneOf methods k with
  | false => exact .inr (.inl rfl)
  | true =>
    obtain ⟨name, hn, rfl⟩ := exists_of_isOneOf hk
    cases v with
    | map op => exact .inl ⟨name, hn, op, rfl⟩
    | _ => exact .inr (.inr rfl)

theorem operation?_eq_some_iff {op : Members} :
    operation? m = some (name, op) ↔ name ∈ methods ∧ m = (.str name, .map op) := by
  obtain ⟨k, v⟩ := m
  unfold operation?
  split
  · next s ms heq =>
    cases heq
    by_cases hs : methods.contains s = true
    · rw [if_pos hs]
      rw [List.contains_iff_mem] at hs
      constructor
      · intro h
        cases h
        exact ⟨hs, rfl⟩
      · rintro ⟨-, h⟩
        cases h
        rfl
    · rw [if_neg hs]
      refine ⟨nofun, ?_⟩
      rintro ⟨hn, h⟩
      cases h
      exact absurd (List.contains_iff_mem.2 hn) hs
  · next h =>
    refine ⟨nofun, ?_⟩
    rintro ⟨-, heq⟩
    cases heq
    exact absurd rfl (h name op)

/-- Nothing else is an operation. -/
theorem operation?_eq_none (h : isOneOf methods m.1 = false ∨ m.2.isMap = false) :
    operation? m = none := by
  rw [Option.eq_none_iff_forall_ne_some]
  rintro ⟨name, op⟩ some
  obtain ⟨hn, rfl⟩ := operation?_eq_some_iff.1 some
  rcases h with h | h
  · rw [isOneOf_str_iff.2 hn] at h
    cases h
  · cases h

theorem mem_operationNames_iff {item : Members} :
    name ∈ operationNames (.map item) ↔ name ∈ methods ∧ ∃ op, (.str name, .map op) ∈ item := by
  simp only [operationNames, operationsOf, List.mem_map, List.mem_filterMap]
  constructor
  · rintro ⟨⟨_, op⟩, ⟨m, hm, ho⟩, rfl⟩
    obtain ⟨hn, rfl⟩ := operation?_eq_some_iff.1 ho
    exact ⟨hn, op, hm⟩
  · rintro ⟨hn, op, hm⟩
    exact ⟨(name, op), ⟨_, hm, operation?_eq_some_iff.2 ⟨hn, rfl⟩⟩, rfl⟩

/-! ## Path items -/

/-- What is taken over of a member that is no operation: a reference or an extension, as it is. -/
theorem pathMember_other_cases (h : pathMember names shared m = .ok (some n))
    (other : isOneOf methods m.1 = false ∨ m.2.isMap = false) :
    n = m ∧ (m.1 = .str "$ref" ∨ isExtension m.1 = .ok true) := by
  obtain ⟨k, v⟩ := m
  rw [pathMember_other other] at h
  split at h
  · next hk =>
    cases h
    exact ⟨rfl, .inl (isRefKey_iff.1 hk)⟩
  · obtain ⟨b, hb, h⟩ := bind_eq_ok_iff.1 h
    cases b <;> cases h
    exact ⟨rfl, .inr hb⟩

/-- Operations are converted, and nothing else becomes one. -/
theorem operation?_pathMember (h : pathMember names shared m = .ok x) :
    Option.Rel (fun a b => b.1 = a.1 ∧ operation names shared a.2 = .ok b.2)
      (operation? m) (x.bind operation?) := by
  rcases operation_or_other m with ⟨name, hn, op, rfl⟩ | other
  · rw [pathMember_operation (isOneOf_str_iff.2 hn)] at h
    obtain ⟨op', hop, h⟩ := bind_eq_ok_iff.1 h
    cases h
    rw [operation?_eq_some_iff.2 ⟨hn, rfl⟩, Option.bind_some, operation?_eq_some_iff.2 ⟨hn, rfl⟩]
    exact .some ⟨rfl, hop⟩
  · rw [operation?_eq_none other]
    cases x with
    | none => exact .none
    | some n =>
      obtain ⟨rfl, -⟩ := pathMember_other_cases h other
      rw [Option.bind_some, operation?_eq_none other]
      exact .none

/-- The operations of a path item are converted one by one. -/
theorem operationsOf_collect (h : collect (pathMember names shared) item = .ok out) :
    List.Forall₂ (fun a b => b.1 = a.1 ∧ operation names shared a.2 = .ok b.2)
      (operationsOf item) (operationsOf out) :=
  forall₂_filterMap_collect h fun _ _ => operation?_pathMember

theorem itemMember_of_collect (h : collect (pathMember names shared) item = .ok out)
    (hn : n ∈ out) : ItemMember n := by
  obtain ⟨m, -, hm⟩ := exists_of_mem_collect h hn
  rcases operation_or_other m with ⟨name, hname, op, rfl⟩ | other
  · rw [pathMember_operation (isOneOf_str_iff.2 hname)] at hm
    obtain ⟨op', -, hm⟩ := bind_eq_ok_iff.1 hm
    cases hm
    exact .operation hname
  · obtain ⟨rfl, kept⟩ := pathMember_other_cases hm other
    obtain ⟨k, v⟩ := n
    rcases kept with rfl | extension
    · exact .reference
    · cases k with
      | str s => exact .extension (Except.ok.inj extension)
      | _ => cases extension

/-- The list under `parameters` of a path item. -/
def entriesOf? (item : Members) : Option (List Value) :=
  match item.get? "parameters" with
  | some (.list items) => some items
  | _ => none

/-- A path item is converted into its parameters, if it lists any, and what is taken over of its
members. -/
theorem pathItem_eq_ok_iff : pathItem names item = .ok item' ↔
    ∃ ps shared out, splitParameters names ((entriesOf? item).getD []) = .ok (ps, shared) ∧
      collect (pathMember names shared) item = .ok out ∧
      item' = ((entriesOf? item).map fun _ =>
        named "parameters" (.list (ps.map .map))).toList ++ out := by
  unfold pathItem
  split
  · next items hg =>
    have listed : entriesOf? item = some items := by rw [entriesOf?, hg]
    rw [listed, Option.getD_some]
    constructor
    · intro h
      obtain ⟨⟨ps, shared⟩, hs, h⟩ := bind_eq_ok_iff.1 h
      obtain ⟨out, ho, h⟩ := bind_eq_ok_iff.1 h
      cases h
      exact ⟨ps, shared, out, hs, ho, rfl⟩
    · rintro ⟨ps, shared, out, hs, ho, rfl⟩
      exact bind_eq_ok_iff.2 ⟨_, hs, bind_eq_ok_iff.2 ⟨out, ho, rfl⟩⟩
  · next hg =>
    have unlisted : entriesOf? item = none := by
      unfold entriesOf?
      split
      · next items hg' => exact absurd hg' (hg items)
      · rfl
    rw [unlisted]
    constructor
    · intro h
      exact ⟨[], none, item', rfl, h, rfl⟩
    · rintro ⟨ps, shared, out, hs, ho, rfl⟩
      cases hs
      exact ho

theorem operationsOf_parameters_append (items : Option (List Value)) (ps : Value) (out : Members) :
    operationsOf ((items.map fun _ => named "parameters" ps).toList ++ out) = operationsOf out := by
  cases items with
  | none => rfl
  | some =>
    have none : operation? (named "parameters" ps) = none := operation?_eq_none (.inl rfl)
    simp [operationsOf, none]

/-- A path item keeps its operations. -/
theorem pathItem_preserves (h : pathItem names item = .ok item') :
    operationNames (.map item') = operationNames (.map item) ∧ ∀ n ∈ item', ItemMember n := by
  obtain ⟨ps, shared, out, -, ho, rfl⟩ := pathItem_eq_ok_iff.1 h
  constructor
  · have same : List.Forall₂ Eq ((operationsOf out).map (·.1)) ((operationsOf item).map (·.1)) := by
      rw [List.forall₂_map_left_iff, List.forall₂_map_right_iff]
      exact (operationsOf_collect ho).flip.imp fun _ _ hab => hab.1
    rw [operationNames, operationNames, operationsOf_parameters_append]
    exact List.forall₂_eq_eq_eq ▸ same
  · intro n hn
    rcases List.mem_append.1 hn with hn | hn
    · obtain ⟨_, -, rfl⟩ := Option.map_eq_some_iff.1 (Option.mem_toList.1 hn)
      exact .parameters
    · exact itemMember_of_collect ho hn

/-! ## Paths -/

theorem pathsOf_moveRefsOfMembers (doc : Members) :
    pathsOf (moveRefsOfMembers doc) = (pathsOf doc).map moveMember := by
  rw [pathsOf, pathsOf, get?_moveRefsOfMembers doc (by decide)]
  cases doc.get? "paths" with
  | none => rfl
  | some v =>
    cases v with
    | map paths => exact moveRefsOfMembers_eq paths
    | _ => rfl

theorem moveMember_map (k : Scalar) (ms : Members) :
    moveMember (k, .map ms) = (k, .map (ms.map moveMember)) := by
  rw [moveMember_of_str?_eq_none fun _ => rfl, moveRefs, moveRefsOfMembers_eq]

theorem operation?_moveMember (m : Scalar × Value) :
    operation? (moveMember m) = (operation? m).map fun a => (a.1, a.2.map moveMember) := by
  rcases operation_or_other m with ⟨name, hn, op, rfl⟩ | other
  · rw [moveMember_map, operation?_eq_some_iff.2 ⟨hn, rfl⟩, operation?_eq_some_iff.2 ⟨hn, rfl⟩]
    rfl
  · rw [operation?_eq_none other, operation?_eq_none (isMap_moveMember m ▸ other)]
    rfl

/-- Operations stay where they are when references are moved. -/
theorem operationNames_map_moveMember (item : Members) :
    operationNames (.map (item.map moveMember)) = operationNames (.map item) := by
  simp only [operationNames, operationsOf, List.filterMap_map, List.map_filterMap,
    Function.comp_def, operation?_moveMember, Option.map_map]

/-- The paths of a document are converted one by one. -/
theorem paths_samePlace (h : collect (path names) (paths.map moveMember) = .ok out)
    (items : ∀ m ∈ paths, m.2.isMap = true) : List.Forall₂ SamePlace paths out := by
  induction paths generalizing out with
  | nil =>
    obtain rfl := Except.ok.inj h
    exact .nil
  | cons m rest ih =>
    obtain ⟨k, v⟩ := m
    obtain ⟨x, xs, hx, hxs, rfl⟩ := collect_cons_eq_ok_iff.1 h
    have later := ih hxs fun m hm => items m (List.mem_cons_of_mem _ hm)
    have isMap := items _ List.mem_cons_self
    cases v with
    | map item =>
      rw [moveMember_map] at hx
      obtain ⟨item', hitem, hx⟩ := bind_eq_ok_iff.1 hx
      obtain rfl := Except.ok.inj hx
      obtain ⟨operations, members⟩ := pathItem_preserves hitem
      exact .cons ⟨rfl, ⟨item', rfl, members⟩,
        operations.trans (operationNames_map_moveMember item)⟩ later
    | _ => cases isMap

/-! ## Operations that are read -/

/-- A converted path item has mappings where it has operations, and nothing where it has none. -/
theorem isSome_members?_get? (members : ∀ n ∈ item, ItemMember n) (m : HttpMethod) :
    ((item.get? m.name).bind Value.members?).isSome =
      (operationNames (.map item)).contains m.name := by
  rw [Bool.eq_iff_iff, List.contains_iff_mem, mem_operationNames_iff]
  have isOperation {v : Value} (hv : (.str m.name, v) ∈ item) :
      m.name ∈ methods ∧ ∃ op, v = .map op := by
    have member := members _ hv
    generalize hk : (Scalar.str m.name, v) = n at member
    cases member with
    | operation hn =>
      cases hk
      exact ⟨hn, _, rfl⟩
    | parameters => cases m <;> simp [HttpMethod.name] at hk
    | reference => cases m <;> simp [HttpMethod.name] at hk
    | extension hx =>
      cases hk
      cases m <;> cases hx
  constructor
  · intro h
    obtain ⟨op, h⟩ := Option.isSome_iff_exists.1 h
    obtain ⟨v, hg, -⟩ := Option.bind_eq_some_iff.1 h
    have hv := Members.mem_of_get? hg
    obtain ⟨hn, op, rfl⟩ := isOperation hv
    exact ⟨hn, op, hv⟩
  · rintro ⟨-, op, hop⟩
    obtain ⟨v, hg⟩ := Members.exists_get?_of_mem hop
    obtain ⟨-, op, rfl⟩ := isOperation (Members.mem_of_get? hg)
    rw [hg]
    rfl

/-- The operations that are read from a converted path item are those that it has. -/
theorem ofPathItem_readAt {path : Scalar} {global : Value} (members : ∀ n ∈ item, ItemMember n)
    (h : ofPathItem global path item = .ok os) :
    List.Forall₂ ReadAt
      ((HttpMethod.all.filter fun m => (operationNames (.map item)).contains m.name).map (path, ·))
      os := by
  rw [List.forall₂_map_left_iff, ← List.filterMap_eq_filter]
  refine forall₂_trans (R := fun m x => x.1 = m) (filterMap_rel _ fun m => ?_)
    (forall₂_of_mapM h) ?_
  · have found : ((item.get? m.name).bind fun v => do return (m, ← v.members?)) =
        ((item.get? m.name).bind Value.members?).map (m, ·) := by
      cases item.get? m.name with
      | none => rfl
      | some v => cases v <;> rfl
    rw [found, Option.guard, ← isSome_members?_get? members]
    cases (item.get? m.name).bind Value.members? with
    | none => exact .none
    | some op => exact .some rfl
  · rintro m ⟨m', op⟩ o hm ho
    obtain ⟨_, -, -, -, text, method⟩ := operation_inv ho
    exact ⟨text, method.trans hm⟩

/-- The operations that are read from converted paths are those that the paths have. -/
theorem ofPaths_readAt {global : Value} (same : List.Forall₂ SamePlace paths out)
    (h : ofPaths global out = .ok os) : List.Forall₂ ReadAt (placesOf paths) os := by
  induction same generalizing os with
  | nil =>
    obtain rfl := Except.ok.inj h
    exact .nil
  | @cons m n rest rest' place _ ih =>
    obtain ⟨k, v⟩ := n
    obtain ⟨item, rfl, members⟩ := place.item
    obtain rfl : k = m.1 := place.path
    obtain ⟨first, hf, h⟩ := bind_eq_ok_iff.1 h
    obtain ⟨others, ho, h⟩ := bind_eq_ok_iff.1 h
    obtain rfl := Except.ok.inj h
    rw [placesOf, List.flatMap_cons, ← place.operations]
    exact List.rel_append (ofPathItem_readAt members hf) (ih ho)

/-! ## Different operations -/

/-- No text key of a mapping is there a second time, as the bytes that encode it. -/
def NoKeyTwice (ms : Members) : Prop :=
  ∀ s v w, (.str s, v) ∈ ms → (.bytes (Text.Utf8.encode s), w) ∉ ms

/-- Places of different paths, or of different methods. -/
theorem pairwise_placesOf (distinct : paths.Pairwise fun m n => m.1.same n.1 = false)
    (once : NoKeyTwice paths) :
    (placesOf paths).Pairwise fun a b =>
      a.2 ≠ b.2 ∨ ∀ s, Field.text (.scalar a.1) = .ok s → Field.text (.scalar b.1) ≠ .ok s := by
  rw [placesOf, List.pairwise_flatMap]
  constructor
  · intro m _
    have nodup : HttpMethod.all.Nodup := by decide
    rw [List.pairwise_map]
    exact (nodup.filter _).imp .inl
  · refine distinct.imp_of_mem fun {m n} hm hn apart => ?_
    intro a ha b hb
    obtain ⟨_, -, rfl⟩ := List.mem_map.1 ha
    obtain ⟨_, -, rfl⟩ := List.mem_map.1 hb
    refine .inr fun s hs hs' => ?_
    obtain ⟨k, v⟩ := m
    obtain ⟨l, w⟩ := n
    rcases Field.eq_of_text hs with rfl | rfl <;> rcases Field.eq_of_text hs' with rfl | rfl
    · simp [Scalar.same] at apart
    · exact once s v w hm hn
    · exact once s w v hn hm
    · simp [Scalar.same] at apart

/-- Operations that are read from places of different paths or methods are different. -/
theorem nodup_of_readAt (h : List.Forall₂ ReadAt (placesOf paths) os)
    (distinct : paths.Pairwise fun m n => m.1.same n.1 = false) (once : NoKeyTwice paths) :
    (os.map fun o => (o.path, o.method)).Nodup := by
  refine List.pairwise_map.2 (pairwise_of_forall₂ h (pairwise_placesOf distinct once) ?_)
  rintro a o a' o' ⟨text, method⟩ ⟨text', method'⟩ apart same
  obtain ⟨path, samePlace⟩ := Prod.mk.inj same
  rcases apart with apart | apart
  · exact apart (method.symm.trans (samePlace.trans method'))
  · exact apart _ text (path ▸ text')

/-! ## Documents -/

/-- The conversion keeps the paths of a document, in their order, and the operations under each.
These are the operations that are read from the result, path by path, and each one once if no path
is there twice. -/
theorem convert_preserves (h : convert (.map doc) target = .ok conv)
    (items : ∀ m ∈ pathsOf doc, m.2.isMap = true) :
    List.Forall₂ SamePlace (pathsOf doc) (pathsOf conv) ∧
    ∀ os, SpecReading.operations conv = .ok os →
      List.Forall₂ ReadAt (placesOf (pathsOf doc)) os ∧
      ((pathsOf doc).Pairwise (fun m n => m.1.same n.1 = false) → NoKeyTwice (pathsOf doc) →
        (os.map fun o => (o.path, o.method)).Nodup ∧
        ∀ spec : Spec, spec.operations = os → spec.checkRepeated = .ok spec) := by
  obtain ⟨-, -, assembled⟩ := convert_eq_ok_iff.1 h
  obtain ⟨names, out, hout, hp⟩ := paths_of_assemble assembled
  rw [pathsOf_moveRefsOfMembers] at hout
  have same : List.Forall₂ SamePlace (pathsOf doc) out := paths_samePlace hout items
  have converted : pathsOf conv = out := by rw [pathsOf, hp]
  refine ⟨converted ▸ same, fun os ho => ?_⟩
  obtain ⟨found, hfound, ho⟩ := bind_eq_ok_iff.1 ho
  have there : (sectionOf conv "paths").members = .ok out := by
    rw [sectionOf, hp]
    cases out <;> rfl
  rw [there] at hfound
  obtain rfl := Except.ok.inj hfound
  have read := ofPaths_readAt same ho
  refine ⟨read, fun distinct once => ?_⟩
  have nodup := nodup_of_readAt read distinct once
  refine ⟨nodup, ?_⟩
  rintro spec rfl
  exact Spec.checkRepeated_of_nodup nodup

/-- A document with an operation under a path, an extension, a reference and what is no operation
beside it, and the same operation under another path. -/
def mixedPaths : Members :=
  [named "swagger" (.str "2.0"), named "paths" (.ofNamed [
    ("/a", .ofNamed [("post", .map []), ("x-note", .map []), ("get", .map []), ("put", .null),
      ("trace", .map []), ("$ref", .str "#/x-shared")]),
    ("/b", .ofNamed [("get", .map [])])])]

theorem noKeyTwice_of_texts {ms : Members} (h : ∀ m ∈ ms, ∃ s, m.1 = .str s) : NoKeyTwice ms := by
  intro s v w _ hw
  obtain ⟨t, ht⟩ := h _ hw
  cases ht

theorem convert_preserves_mixedPaths :
    ∃ conv os, convert (.map mixedPaths) "3.0" = .ok conv ∧
      (pathsOf mixedPaths).map (operationNames ·.2) = [["post", "get"], ["get"]] ∧
      List.Forall₂ SamePlace (pathsOf mixedPaths) (pathsOf conv) ∧
      SpecReading.operations conv = .ok os ∧
      List.Forall₂ ReadAt
        [(.str "/a", .get), (.str "/a", .post), (.str "/b", .get)] os ∧
      (os.map fun o => (o.path, o.method)).Nodup := by
  have converts : (convert (.map mixedPaths) "3.0").isOk = true := by decide +kernel
  obtain ⟨conv, hc⟩ := exists_of_isOk converts
  have reads : ((convert (.map mixedPaths) "3.0").bind SpecReading.operations).isOk = true := by
    decide +kernel
  obtain ⟨os, ho⟩ := exists_of_isOk reads
  obtain ⟨conv', hc', ho⟩ := bind_eq_ok_iff.1 ho
  obtain rfl := Except.ok.inj (hc.symm.trans hc')
  obtain ⟨same, read⟩ := convert_preserves hc (by decide +kernel)
  obtain ⟨places, once⟩ := read os ho
  have distinct : (pathsOf mixedPaths).Pairwise fun m n => m.1.same n.1 = false := by
    decide +kernel
  refine ⟨conv, os, hc, by decide +kernel, same, ho, places, (once distinct ?_).1⟩
  refine noKeyTwice_of_texts fun m hm => ?_
  have paths : pathsOf mixedPaths = [_, _] := rfl
  rw [paths] at hm
  simp only [List.mem_cons, List.not_mem_nil, or_false] at hm
  rcases hm with rfl | rfl
  · exact ⟨"/a", rfl⟩
  · exact ⟨"/b", rfl⟩

/-- A path that is there as a text, and as the bytes that encode it. -/
def slashedTwice : Members :=
  [named "swagger" (.str "2.0"), named "paths" (.map [
    (.str "/x", .ofNamed [("get", .map [])]), (.bytes [47, 120], .ofNamed [("get", .map [])])])]

/-- Where a path is there twice, its operations are read twice. -/
theorem slashedTwice_read :
    (∀ m ∈ pathsOf slashedTwice, m.2.isMap = true) ∧
    (pathsOf slashedTwice).Pairwise (fun m n => m.1.same n.1 = false) ∧
    ∃ conv os, convert (.map slashedTwice) "3.0" = .ok conv ∧ SpecReading.operations conv = .ok os ∧
      os.map (fun o => (o.path, o.method)) = [("/x", .get), ("/x", .get)] ∧
      (Spec.repeated? [] os).isSome = true := by
  have read : ((convert (.map slashedTwice) "3.0").bind SpecReading.operations).toOption.map
      (fun os => (os.map (fun o => (o.path, o.method)), (Spec.repeated? [] os).isSome)) =
        some ([("/x", .get), ("/x", .get)], true) := by
    decide +kernel
  obtain ⟨os, ho, twice⟩ := Option.map_eq_some_iff.1 read
  obtain ⟨twice, repeated⟩ := Prod.mk.inj twice
  cases hx : (convert (.map slashedTwice) "3.0").bind SpecReading.operations with
  | error =>
    rw [hx] at ho
    cases ho
  | ok os' =>
    rw [hx] at ho
    obtain rfl := Option.some.inj ho
    obtain ⟨conv, hc, ho⟩ := bind_eq_ok_iff.1 hx
    exact ⟨by decide +kernel, by decide +kernel, conv, os', hc, ho, twice, repeated⟩

end ApiAccord.Swagger
