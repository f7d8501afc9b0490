import ApiAccord.Proofs.Conversion.Light

/-!
# What a Swagger document declares

`declarations` lists the operations that a Swagger document declares, each with its path item, as
the document says it and without any conversion: the parameters outside of the body are those of
the path that the operation does not override, then its own (`Declaration.parameters`), and the body
is the first one of the operation, else of the path (`Declaration.body?`).

The rest of the module says where the conversion puts these parts: `operation_spec` and
`pathItem_spec`.
-/

namespace ApiAccord.Swagger

open OperationReading (mappings)

/-! ## Declarations -/

/-- The text under a name. -/
def textOf? (ms : Members) (name : String) : Option String := (ms.get? name).bind Value.str?

/-- The parameters of a path item, bodies among them. -/
def pathParameters (item : Members) : List Members :=
  match item.get? "parameters" with
  | some (.list items) => mappings items
  | _ => []

/-- The parameters of an operation, bodies among them.  A pair is gone through as a list is. -/
def ownParameters (op : Members) : List Members :=
  match op.get? "parameters" with
  | some (.list items) => mappings items
  | some (.pair first second) => mappings [first, second]
  | _ => []

/-- The parameters outside of the body. -/
def outside (ps : List Members) : List Members := ps.filter (!inBody ·)

/-- Whether two parameters have the same name and place. -/
def sameParameter (p q : Members) : Bool :=
  textOf? p "name" == textOf? q "name" && textOf? p "in" == textOf? q "in"

/-- An operation of a document, with its path and its path item. -/
structure Declaration where
  path : Scalar
  method : HttpMethod
  item : Members
  operation : Members

namespace Declaration

/-- The parameters outside of the body: those of the path that the operation does not override, then
those of the operation. -/
def parameters (d : Declaration) : List Members :=
  (outside (pathParameters d.item)).filter
      (fun p => !(outside (ownParameters d.operation)).any (sameParameter p)) ++
    outside (ownParameters d.operation)

/-- The body: the first one of the operation, else of the path. -/
def body? (d : Declaration) : Option Members :=
  ((ownParameters d.operation).find? inBody).or ((pathParameters d.item).find? inBody)

end Declaration

/-- The operation of a method on a path item, if the family has the method. -/
def operationOf? (item : Members) (m : HttpMethod) : Option Members :=
  if methods.contains m.name then (item.get? m.name).bind Value.members? else none

/-- The operations of a path item, in the order of methods. -/
def declarationsOfItem (path : Scalar) (item : Members) : List Declaration :=
  HttpMethod.all.filterMap fun m => (operationOf? item m).map (⟨path, m, item, ·⟩)

/-- The operations of some paths. -/
def declarationsOfPaths (paths : Members) : List Declaration :=
  paths.flatMap fun
    | (path, .map item) => declarationsOfItem path item
    | _ => []

/-- The paths of a document. -/
def pathsOf (doc : Members) : Members :=
  match doc.get? "paths" with
  | some (.map paths) => paths
  | _ => []

/-- The operations that a document declares, in the order of paths. -/
def declarations (doc : Members) : List Declaration := declarationsOfPaths (pathsOf doc)

/-- A parameter with a name, in a place that the family knows, whose type is a text if there is
one. -/
structure WellDeclared (p : Members) : Prop where
  noRef : p.has "$ref" = false
  name : ∃ name, p.get? "name" = some (.str name)
  place : ∃ place ∈ ["query", "header", "path", "formData", "body"], p.get? "in" = some (.str place)
  type : ∀ v, p.get? "type" = some v → v.isNull = true ∨ ∃ type, v = .str type

variable {names : List Scalar} {name : String} {shared b : Option Members}
  {items : List Value} {ms out op op' item item' p : Members} {ps : List Members}
  {f : Scalar × Value → Except Malformed (Option (Scalar × Value))}

/-! ## Members that are collected or set -/

/-- What is collected member by member is found under the same names. -/
theorem get?_collect (name : String) (h : collect f ms = .ok out)
    (key : ∀ m n, f m = .ok (some n) → n.1 = m.1)
    (kept : ∀ v, ms.get? name = some v → f (.str name, v) ≠ .ok none) :
    Option.Rel (fun v w => f (.str name, v) = .ok (some (.str name, w)))
      (ms.get? name) (out.get? name) := by
  induction ms generalizing out with
  | nil =>
    obtain rfl := Except.ok.inj h
    exact .none
  | cons m rest ih =>
    obtain ⟨x, xs, hx, hxs, rfl⟩ := collect_cons_eq_ok_iff.1 h
    obtain ⟨k, v⟩ := m
    by_cases hk : k = .str name
    · obtain rfl := hk
      have first : Members.get? name ((.str name, v) :: rest) = some v := by
        simp [Members.get?]
      cases x with
      | none => exact absurd hx (kept v first)
      | some n =>
        obtain ⟨k, w⟩ := n
        obtain rfl : k = .str name := key _ _ hx
        simpa [Members.get?] using Option.Rel.some hx
    · rw [Members.get?_cons_of_ne hk] at kept ⊢
      cases x with
      | none => exact ih hxs kept
      | some n =>
        have hn : n.1 ≠ .str name := fun h => hk ((key _ _ hx).symm.trans h)
        exact (Members.get?_cons_of_ne hn xs).symm ▸ ih hxs kept

/-- What is not collected is not found. -/
theorem get?_collect_eq_none (h : collect f ms = .ok out)
    (key : ∀ m n, f m = .ok (some n) → n.1 = m.1)
    (dropped : ∀ v n, f (.str name, v) ≠ .ok (some n)) : out.get? name = none := by
  by_contra found
  obtain ⟨w, hw⟩ := Option.ne_none_iff_exists'.1 found
  obtain ⟨⟨k, v⟩, -, hm⟩ := exists_of_mem_collect h (Members.mem_of_get? hw)
  obtain rfl : .str name = k := key _ _ hm
  exact dropped v _ hm

/-! ## Lists of parameters -/

theorem mappings_map (ps : List Members) : mappings (ps.map .map) = ps := by
  induction ps with
  | nil => rfl
  | cons p rest ih =>
    show p :: mappings (rest.map .map) = p :: rest
    rw [ih]

theorem refText?_eq_none_of_has (h : p.has "$ref" = false) : Reference.refText? p = none := by
  rw [Members.has, Option.isSome_eq_false_iff, Option.isNone_iff_eq_none] at h
  rw [Reference.refText?, h]
  rfl

/-- A list of parameters is split into those outside of the body, converted, and its first body. -/
theorem splitParameters_spec (h : splitParameters names items = .ok (ps, b))
    (refs : ∀ p ∈ mappings items, p.has "$ref" = false) :
    List.Forall₂ (fun p q => parameter p = .ok q) (outside (mappings items)) ps ∧
      b = ((mappings items).find? inBody).map body := by
  induction items generalizing ps b with
  | nil =>
    cases h
    exact ⟨.nil, rfl⟩
  | cons v rest ih =>
    cases v with
    | map p =>
      have cons : mappings (.map p :: rest) = p :: mappings rest := rfl
      rw [cons] at refs ⊢
      have plain := refText?_eq_none_of_has (refs p List.mem_cons_self)
      rw [splitParameters_map (bodyRef?_eq_none plain)] at h
      cases hb : inBody p with
      | true =>
        rw [hb] at h
        obtain ⟨⟨ps', b'⟩, hr, h⟩ := bind_eq_ok_iff.1 h
        obtain ⟨outside, -⟩ := ih hr fun q hq => refs q (List.mem_cons_of_mem _ hq)
        cases h
        simpa [Swagger.outside, hb] using outside
      | false =>
        rw [hb] at h
        obtain ⟨q, hq, h⟩ := bind_eq_ok_iff.1 h
        obtain ⟨⟨ps', b'⟩, hr, h⟩ := bind_eq_ok_iff.1 h
        obtain ⟨outside, first⟩ := ih hr fun q hq => refs q (List.mem_cons_of_mem _ hq)
        cases h
        simpa [Swagger.outside, hb, hq] using And.intro outside first
    | _ => exact ih h refs

/-- The mappings among what an operation goes through for its parameters. -/
theorem mappings_items (hi : ((op.get? "parameters").getD (.list [])).items = .ok items) :
    mappings items = ownParameters op := by
  have scalars {α : Type} (l : List α) (f : α → Scalar) :
      mappings (l.map fun a => .scalar (f a)) = [] :=
    List.filterMap_eq_nil_iff.2 fun v hv => by
      obtain ⟨a, -, rfl⟩ := List.mem_map.1 hv
      rfl
  unfold ownParameters
  cases hg : op.get? "parameters" with
  | none =>
    rw [hg] at hi
    obtain rfl := Except.ok.inj hi
    rfl
  | some v =>
    rw [hg, Option.getD_some] at hi
    cases v with
    | list | pair =>
      obtain rfl := Except.ok.inj hi
      rfl
    | scalar s =>
      cases s with
      | str s | bytes data =>
        obtain rfl := Except.ok.inj hi
        exact scalars _ _
      | _ => cases hi
    | map | set =>
      obtain rfl := Except.ok.inj hi
      exact scalars _ _

/-! ## Operations -/

theorem operationMember_key {m n : Scalar × Value} (h : operationMember m = .ok (some n)) :
    n.1 = m.1 := by
  rcases operationMember_cases h with ⟨-, _, _, -, -, rfl⟩ | ⟨-, -, rfl⟩ <;> rfl

theorem get?_parameters_insert (hms : ms.get? "parameters" = none) (ps : List Members) :
    (Members.get? "parameters" (if ps.isEmpty then ms else
      Members.insert (.str "parameters") (.list (ps.map .map)) ms)).getD (.list []) =
        .list (ps.map .map) := by
  cases ps with
  | nil => simp [hms]
  | cons => simp [Members.get?_insert]

theorem get?_insert_parameters (hn : "parameters" ≠ name) (ms : Members) (ps : List Members) :
    Members.get? name (if ps.isEmpty then ms else
      Members.insert (.str "parameters") (.list (ps.map .map)) ms) = ms.get? name := by
  split
  · rfl
  · rw [Members.get?_insert, if_neg hn]

/-- Of the members of an operation, the parameters are put elsewhere, and what may be there in the
place of a body stays. -/
theorem get?_collect_operationMember (h : collect operationMember op = .ok out) :
    out.get? "parameters" = none ∧ out.get? "requestBody" = op.get? "requestBody" := by
  have stays (v : Value) : operationMember (.str "requestBody", v) =
    .ok (some (.str "requestBody", v)) := rfl
  constructor
  · refine get?_collect_eq_none h (fun _ _ => operationMember_key) fun v n => ?_
    show (Except.ok none : Except Malformed (Option (Scalar × Value))) ≠ .ok (some n)
    exact nofun
  · refine (eq_of_rel (get?_collect _ h (fun _ _ => operationMember_key) fun v _ => ?_) ?_).symm
    · rw [stays]
      exact nofun
    · intro v w hw
      rw [stays] at hw
      cases hw
      rfl

/-- A converted operation: its parameters, and its body, that of the path, or what it has in the
place of a body. -/
theorem operation_spec (h : operation names shared op = .ok op')
    (refs : ∀ p ∈ ownParameters op, p.has "$ref" = false) :
    ∃ ps, List.Forall₂ (fun p q => parameter p = .ok q) (outside (ownParameters op)) ps ∧
      (op'.get? "parameters").getD (.list []) = .list (ps.map .map) ∧
      op'.get? "requestBody" =
        ((((ownParameters op).find? inBody).map body).or shared).elim (op.get? "requestBody")
          fun b => some (.map b) := by
  unfold operation at h
  obtain ⟨items, hi, h⟩ := bind_eq_ok_iff.1 h
  obtain ⟨⟨ps, own⟩, hs, h⟩ := bind_eq_ok_iff.1 h
  obtain ⟨members, hm, h⟩ := bind_eq_ok_iff.1 h
  obtain rfl := Except.ok.inj h
  have listed := mappings_items hi
  obtain ⟨outside, rfl⟩ := splitParameters_spec hs (listed ▸ refs)
  obtain ⟨noParameters, body⟩ := get?_collect_operationMember hm
  rw [listed] at outside ⊢
  refine ⟨ps, outside, ?_⟩
  generalize (((ownParameters op).find? inBody).map Swagger.body).or shared = x
  cases x with
  | none =>
    exact ⟨get?_parameters_insert noParameters ps,
      (get?_insert_parameters (by decide) _ ps).trans body⟩
  | some b =>
    rw [Members.get?_insert, Members.get?_insert, if_neg (by decide), if_pos rfl]
    exact ⟨get?_parameters_insert noParameters ps, rfl⟩

/-! ## Path items -/

theorem pathMember_key {m n : Scalar × Value} (h : pathMember names shared m = .ok (some n)) :
    n.1 = m.1 := by
  rcases pathMember_cases h with ⟨-, _, _, -, -, rfl⟩ | ⟨-, -, rfl⟩ <;> rfl

/-- Operations are converted with the body of their path; a method that the family does not have
gets none. -/
theorem operationOf?_collect (h : collect (pathMember names shared) item = .ok out)
    (operations : ∀ m ∈ item, isOneOf methods m.1 = true → m.2.isMap = true) (m : HttpMethod) :
    Option.Rel (fun op op' => operation names shared op = .ok op') (operationOf? item m)
      ((out.get? m.name).bind Value.members?) := by
  by_cases hm : isOneOf methods (.str m.name) = true
  · have converted : ∀ v, item.get? m.name = some v → ∃ op, v = .map op ∧
        pathMember names shared (.str m.name, v) = do
          return some (.str m.name, .map (← operation names shared op)) := by
      intro v hv
      have isMap := operations _ (Members.mem_of_get? hv) hm
      cases v with
      | map op => exact ⟨op, rfl, pathMember_operation hm shared op⟩
      | _ => cases isMap
    have found := get?_collect m.name h (fun _ _ => pathMember_key) fun v hv => by
      obtain ⟨op, -, eq⟩ := converted v hv
      rw [eq]
      cases operation names shared op <;> exact nofun
    rw [operationOf?, if_pos (by cases m <;> first | rfl | cases hm)]
    generalize hx : item.get? m.name = x, out.get? m.name = y at found
    cases found with
    | none => exact .none
    | @some v w hw =>
      obtain ⟨op, rfl, eq⟩ := converted v hx
      rw [eq] at hw
      obtain ⟨op', hop, hw⟩ := bind_eq_ok_iff.1 hw
      obtain rfl : Value.map op' = w := congrArg Prod.snd (Option.some.inj (Except.ok.inj hw))
      exact .some hop
  · obtain rfl : m = .trace := by cases m <;> first | rfl | exact absurd rfl hm
    have none : out.get? HttpMethod.trace.name = none :=
      get?_collect_eq_none h (fun _ _ => pathMember_key) fun v n => by
        show (Except.ok none : Except Malformed (Option (Scalar × Value))) ≠ .ok (some n)
        exact nofun
    rw [none]
    exact .none

/-- A converted path item: its parameters, and its operations. -/
theorem pathItem_spec (h : pathItem names item = .ok item')
    (refs : ∀ p ∈ pathParameters item, p.has "$ref" = false)
    (operations : ∀ m ∈ item, isOneOf methods m.1 = true → m.2.isMap = true) :
    ∃ ps, List.Forall₂ (fun p q => parameter p = .ok q) (outside (pathParameters item)) ps ∧
      (item'.get? "parameters").getD (.list []) = .list (ps.map .map) ∧
      ∀ m, Option.Rel
        (fun op op' =>
          operation names (((pathParameters item).find? inBody).map body) op = .ok op')
        (operationOf? item m) ((item'.get? m.name).bind Value.members?) := by
  unfold pathItem at h
  split at h
  · next items hg =>
    have listed : pathParameters item = mappings items := by rw [pathParameters, hg]
    obtain ⟨⟨ps, shared⟩, hs, h⟩ := bind_eq_ok_iff.1 h
    obtain ⟨members, hm, h⟩ := bind_eq_ok_iff.1 h
    obtain rfl := Except.ok.inj h
    obtain ⟨outside, rfl⟩ := splitParameters_spec hs (listed ▸ refs)
    rw [listed]
    refine ⟨ps, outside, rfl, fun m => ?_⟩
    rw [get?_named_cons, if_neg (by cases m <;> decide)]
    exact operationOf?_collect hm operations m
  · next hg =>
    have none : pathParameters item = [] := by
      unfold pathParameters
      split
      · next items hg' => exact absurd hg' (hg items)
      · rfl
    have noParameters : item'.get? "parameters" = Option.none :=
      get?_collect_eq_none h (fun _ _ => pathMember_key) fun v n => by
        show (Except.ok Option.none : Except Malformed (Option (Scalar × Value))) ≠ .ok (some n)
        simp
    rw [none, noParameters]
    exact ⟨[], .nil, rfl, operationOf?_collect h operations⟩

end ApiAccord.Swagger
