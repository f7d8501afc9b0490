import ApiAccord.Proofs.Conversion.Paths

/-!
# Lists of parameters are split without loss

The entries of a list of parameters are told into bodies and others.  The others are kept, in their
order: references as they are, and parameters with all that they say (`KeptAs`).  Of the
bodies the first one counts (`GivesBody`), that of the operation before that of its path.

A reference is taken for one to a shared body by its text.  `PlainlyNamed` says that this is right,
as it is where no name of a shared body needs escapes (`plainlyNamed_of_unescaped`).

`splitParameters_eq_ok_iff` is the induction over a list, `operation_splits` says it of an
operation, and `pathItem_splits` of the operations of a path item.
-/

namespace ApiAccord.Swagger

open OperationReading (mappings)

/-! ## Bodies -/

/-- The segment by which an entry refers to a shared body: the name that it writes is one of
theirs. -/
def sharedSegment? (names : List Scalar) (p : Members) : Option String :=
  ((textOf? p "$ref").bind (Text.stripHead? parameterRef)).filter fun segment =>
    !segment.toList.contains '/' && names.any (Scalar.same (.str (Pointer.unescape segment)))

/-- Whether an entry is a body, in place or by reference. -/
def isBodyEntry (names : List Scalar) (p : Members) : Bool :=
  inBody p || (sharedSegment? names p).isSome

/-- The text of a reference is the name of a shared body just if the reference leads to one. -/
def PlainlyNamed (names : List Scalar) (p : Members) : Prop :=
  ∀ segment, textOf? p "$ref" = some (parameterRef ++ segment) →
    names.any (Scalar.same (.str segment)) = (sharedSegment? names p).isSome

/-- What an entry says under a name.  Null says nothing. -/
def said? (p : Members) (name : String) : Option Value := (p.get? name).filter fun v => !v.isNull

/-- A body is what an entry in the body describes. -/
structure DescribesBody (p b : Members) : Prop where
  description : b.get? "description" = said? p "description"
  required : b.get? "required" = some (.bool (saysRequired p))
  content : b.get? "content" = some (.ofNamed [("application/json",
    .ofNamed [("schema", (p.get? "schema").getD (.map []))])])
  keys : ∀ m ∈ b, isOneOf ["description", "required", "content"] m.1 = true

/-- The body that an entry gives: the shared one that it refers to, or the one that it describes. -/
inductive GivesBody (names : List Scalar) (p : Members) : Members → Prop where
  | shared {segment : String} : sharedSegment? names p = some segment →
      GivesBody names p (refMembers (bodyRef ++ segment))
  | own {b : Members} : sharedSegment? names p = none → DescribesBody p b → GivesBody names p b

/-! ## Parameters -/

/-- Whether a key begins as the keys of extensions do. -/
def isExtensionKey : Scalar → Bool
  | .str s => Text.startsWith "x-" s
  | _ => false

/-- Whether a key is a text. -/
def isTextKey : Scalar → Bool
  | .str _ => true
  | _ => false

/-- The members of an entry that say its type. -/
def declaredTypes (p : Members) : Members :=
  typeFields.filterMap fun name => (said? p name).map (named name)

/-- A converted parameter says what the entry says, with the type in a schema, and nothing else. -/
structure DescribesParameter (p q : Members) : Prop where
  kept : ∀ name ∈ ["name", "in", "description"], q.get? name = said? p name
  required : q.get? "required" = some (.bool (saysRequired p || textOf? p "in" == some "path"))
  schema : declaredTypes p ≠ [] → q.get? "schema" = some (.map (declaredTypes p))
  noSchema : declaredTypes p = [] → q.get? "schema" = none
  extensions : q.filter (fun m => isExtensionKey m.1) =
    p.filter fun m => isExtensionKey m.1 && !m.2.isNull
  keys : ∀ m ∈ q, isOneOf ["name", "in", "description", "required", "schema"] m.1 = true ∨
    isExtensionKey m.1 = true

/-- What is kept of an entry that is no body. -/
inductive KeptAs (p : Members) : Members → Prop where
  | reference : p.has "$ref" = true → KeptAs p p
  | parameter {q : Members} : p.has "$ref" = false → DescribesParameter p q → KeptAs p q

/-- An entry that can be converted: a reference, or a mapping from texts. -/
def Convertible (p : Members) : Prop := p.has "$ref" = true ∨ ∀ m ∈ p, isTextKey m.1 = true

/-! ## Operations and path items -/

/-- The parameters of a list are kept, and no body is among them. -/
structure KeepsParameters (names : List Scalar) (entries ps : List Members) : Prop where
  kept : List.Forall₂ KeptAs (entries.filter (!isBodyEntry names ·)) ps
  noBody : ∀ q ∈ ps, isBodyEntry names q = false

/-- An operation, before and after its parameters are split.  `shared` are the parameters of its
path. -/
structure OperationSplit (names : List Scalar) (shared : List Members) (op op' : Members) :
    Prop where
  parameters : ∃ ps, KeepsParameters names (ownParameters op) ps ∧
    op'.get? "parameters" = if ps.isEmpty then none else some (.list (ps.map .map))
  body : ∀ p, ((ownParameters op).find? (isBodyEntry names)).or
      (shared.find? (isBodyEntry names)) = some p →
    ∃ b, GivesBody names p b ∧ op'.get? "requestBody" = some (.map b)
  noBody : ((ownParameters op).find? (isBodyEntry names)).or
      (shared.find? (isBodyEntry names)) = none →
    op'.get? "requestBody" = op.get? "requestBody"

/-- A path item, before and after its parameters and those of its operations are split. -/
structure ItemSplit (names : List Scalar) (item item' : Members) : Prop where
  parameters : ∃ ps, KeepsParameters names (pathParameters item) ps ∧
    item'.get? "parameters" = (entriesOf? item).map fun _ => .list (ps.map .map)
  operations : List.Forall₂
    (fun a b => b.1 = a.1 ∧ OperationSplit names (pathParameters item) a.2 b.2)
    (operationsOf item) (operationsOf item')

/-- An operation whose parameters can be gone through and converted, and its other members, too. -/
structure ConvertibleOperation (names : List Scalar) (op : Members) : Prop where
  listed : ∃ items, ((op.get? "parameters").getD (.list [])).items = .ok items
  entries : ∀ p ∈ ownParameters op, isBodyEntry names p = false → Convertible p
  members : ∀ m ∈ op, ∃ n, operationMember m = .ok n

/-- A path item whose keys are texts, and whose parameters and operations can be converted. -/
structure ConvertibleItem (names : List Scalar) (item : Members) : Prop where
  keys : ∀ m ∈ item, isTextKey m.1 = true
  entries : ∀ p ∈ pathParameters item, isBodyEntry names p = false → Convertible p
  operations : ∀ a ∈ operationsOf item, ConvertibleOperation names a.2

variable {names : List Scalar} {name : String} {shared b : Option Members} {k : Scalar}
  {m : Scalar × Value} {p q es out op op' item item' : Members} {ps : List Members}
  {items : List Value}

/-! ## Members that are kept -/

theorem isText_getOrNull (p : Members) (name text : String) :
    (getOrNull p name).isText text = (textOf? p name == some text) := by
  rw [getOrNull, textOf?, Value.isText]
  cases p.get? name <;> rfl

theorem typeSchema_eq (p : Members) : typeSchema p = declaredTypes p := by
  unfold typeSchema declaredTypes
  generalize typeFields = fields
  induction fields with
  | nil => rfl
  | cons name rest ih =>
    rw [List.map_cons, List.filterMap_cons, ← ih, said?, filter_get?_eq_getOrNull]
    cases null : (getOrNull p name).isNull <;> simp [present, named, null]

theorem isExtension_eq_ok_iff {x : Bool} :
    isExtension k = .ok x ↔ isTextKey k = true ∧ x = isExtensionKey k := by
  cases k <;> simp only [isExtension, isTextKey, isExtensionKey, Except.ok.injEq, true_and, eq_comm,
    reduceCtorEq, Bool.false_eq_true, false_and]

/-- The extensions of a mapping are found if its keys are texts. -/
theorem extensions_eq_ok_iff : extensions p = .ok es ↔
    (∀ m ∈ p, isTextKey m.1 = true) ∧ es = p.filter fun m => isExtensionKey m.1 := by
  rw [extensions]
  induction p generalizing es with
  | nil =>
    rw [collect, Except.ok.injEq]
    constructor
    · rintro rfl
      exact ⟨fun _ hm => absurd hm List.not_mem_nil, rfl⟩
    · rintro ⟨-, rfl⟩
      rfl
  | cons m rest ih =>
    rw [collect_cons_eq_ok_iff, List.forall_mem_cons, List.filter_cons]
    constructor
    · rintro ⟨x, xs, hx, hxs, rfl⟩
      obtain ⟨y, hy, hx⟩ := bind_eq_ok_iff.1 hx
      obtain ⟨text, rfl⟩ := isExtension_eq_ok_iff.1 hy
      obtain ⟨texts, rfl⟩ := ih.1 hxs
      cases hx
      refine ⟨⟨text, texts⟩, ?_⟩
      split <;> rfl
    · rintro ⟨⟨text, texts⟩, rfl⟩
      refine ⟨_, _, bind_eq_ok_iff.2 ⟨_, isExtension_eq_ok_iff.2 ⟨text, rfl⟩, rfl⟩,
        ih.2 ⟨texts, rfl⟩, ?_⟩
      split <;> rfl

theorem isExtensionKey_of_isOneOf {known : List String}
    (none : ∀ name ∈ known, Text.startsWith "x-" name = false) (h : isOneOf known k = true) :
    isExtensionKey k = false := by
  obtain ⟨name, hn, rfl⟩ := exists_of_isOneOf h
  exact none name hn

/-- The members of a converted parameter: what it says about itself, and its extensions. -/
theorem parameter_members (href : p.has "$ref" = false) (h : parameter p = .ok q) :
    ∃ own, (∀ m ∈ own, isOneOf ["name", "in", "description", "required", "schema"] m.1 = true) ∧
      q = own ++ present (p.filter fun m => isExtensionKey m.1) := by
  rw [parameter, href] at h
  obtain ⟨es, hes, h⟩ := bind_eq_ok_iff.1 h
  obtain ⟨-, rfl⟩ := extensions_eq_ok_iff.1 hes
  obtain rfl := Except.ok.inj h
  rw [present_append]
  refine ⟨_, fun m hm => ?_, rfl⟩
  rcases List.mem_append.1 (List.mem_of_mem_filter hm) with hm | hm
  · simp only [List.mem_cons, List.not_mem_nil, or_false] at hm
    rcases hm with rfl | rfl | rfl | rfl <;> rfl
  · unfold unlessEmpty at hm
    split at hm
    · cases hm
    · obtain rfl := List.mem_singleton.1 hm
      rfl

/-- What a converted parameter holds is what `get?_parameter` finds, and its extensions. -/
theorem described_of_parameter (href : p.has "$ref" = false) (h : parameter p = .ok q) :
    DescribesParameter p q := by
  have member {name : String} (hn : Text.startsWith "x-" name = false) := get?_parameter href h hn
  obtain ⟨own, known, rfl⟩ := parameter_members href h
  have noExtension : own.filter (fun m => isExtensionKey m.1) = [] :=
    List.filter_eq_nil_iff.2 fun m hm => by
      simp [isExtensionKey_of_isOneOf (by decide) (known m hm)]
  constructor
  · intro name hn
    simp only [List.mem_cons, List.not_mem_nil, or_false] at hn
    rcases hn with rfl | rfl | rfl <;> exact member (by decide)
  · rw [← isText_getOrNull]
    exact member (by decide)
  · intro some
    rw [← typeSchema_eq] at some ⊢
    exact (member (by decide)).trans (get?_unlessEmpty some)
  · intro none
    refine (member (by decide)).trans ?_
    rw [typeSchema_eq, none]
    rfl
  · rw [List.filter_append, noExtension, List.nil_append, present, List.filter_filter,
      List.filter_filter]
    refine List.filter_congr fun m _ => ?_
    cases isExtensionKey m.1 <;> simp
  · intro m hm
    rcases List.mem_append.1 hm with hm | hm
    · exact .inl (known m hm)
    · exact .inr (List.mem_filter.1 (List.mem_of_mem_filter hm)).2

theorem keptAs_of_parameter (h : parameter p = .ok q) : KeptAs p q := by
  cases href : p.has "$ref" with
  | true =>
    rw [parameter, href] at h
    obtain rfl : p = q := Except.ok.inj h
    exact .reference href
  | false => exact .parameter href (described_of_parameter href h)

theorem convertible_iff : Convertible p ↔ ∃ q, parameter p = .ok q := by
  rw [Convertible, parameter]
  cases p.has "$ref" with
  | true => exact iff_of_true (.inl rfl) ⟨p, rfl⟩
  | false =>
    simp only [Bool.false_eq_true, false_or, if_false]
    constructor
    · intro keys
      exact ⟨_, bind_eq_ok_iff.2 ⟨_, extensions_eq_ok_iff.2 ⟨keys, rfl⟩, rfl⟩⟩
    · rintro ⟨q, h⟩
      obtain ⟨es, hes, -⟩ := bind_eq_ok_iff.1 h
      exact (extensions_eq_ok_iff.1 hes).1

/-! ## Bodies -/

theorem describesBody_body (p : Members) : DescribesBody p (body p) where
  description := by
    have rest : Members.get? "description" (present [named "required" (.bool (saysRequired p)),
      Swagger.content ((p.get? "schema").getD (.map []))]) = none := rfl
    simp only [body, get?_present_cons, said?, filter_get?_eq_getOrNull, rest, true_and]
  required := by simp [body, get?_present_cons, Value.isNull]
  content := by simp [body, Swagger.content, get?_present_cons, Value.isNull, Value.ofNamed]
  keys := by
    intro m hm
    have listed := List.mem_of_mem_filter hm
    simp only [List.mem_cons, List.not_mem_nil, or_false] at listed
    rcases listed with rfl | rfl | rfl <;> rfl

/-- The body that an entry is converted into. -/
def bodyOf (names : List Scalar) (p : Members) : Members :=
  match sharedSegment? names p with
  | some segment => refMembers (bodyRef ++ segment)
  | none => body p

theorem givesBody_bodyOf (names : List Scalar) (p : Members) :
    GivesBody names p (bodyOf names p) := by
  rw [bodyOf]
  split
  · next hs => exact .shared hs
  · next hs => exact .own hs (describesBody_body p)

/-- Where references are named plainly, those to shared bodies are recognized. -/
theorem bodyRef?_eq (plain : PlainlyNamed names p) :
    bodyRef? names p = (sharedSegment? names p).map (bodyRef ++ ·) := by
  have read : bodyRef? names p = ((textOf? p "$ref").bind (Text.stripHead? parameterRef)).bind
      fun segment =>
        if names.any (Scalar.same (.str segment)) then some (bodyRef ++ segment) else none :=
    (Option.bind_assoc ..).symm
  cases hx : (textOf? p "$ref").bind (Text.stripHead? parameterRef) with
  | none =>
    rw [read, sharedSegment?, hx]
    rfl
  | some segment =>
    obtain ⟨text, ht, hs⟩ := Option.bind_eq_some_iff.1 hx
    obtain rfl := Text.stripHead?_eq_some_iff.1 hs
    have known := plain segment ht
    rw [sharedSegment?, hx] at known
    rw [read, sharedSegment?, hx, Option.bind_some, known]
    simp only [Option.filter]
    split <;> rfl

/-- Where no name of a shared body needs escapes, references are named plainly. -/
theorem plainlyNamed_of_unescaped (unescaped : ∀ k ∈ names, isUnescaped k = true) (p : Members) :
    PlainlyNamed names p := by
  intro segment ht
  have head : (textOf? p "$ref").bind (Text.stripHead? parameterRef) = some segment := by
    rw [ht]
    exact Text.stripHead?_eq_some_iff.2 rfl
  rw [sharedSegment?, head, Option.isSome_filter, Option.any_some, Bool.eq_iff_iff,
    Bool.and_eq_true_iff, List.any_eq_true, List.any_eq_true]
  constructor
  · rintro ⟨k, hk, hs⟩
    have same := same_unescape (unescaped k hk) segment
    obtain rfl := Scalar.same_str_iff.1 hs
    obtain ⟨slash, -⟩ := isUnescaped_str_iff.1 (unescaped _ hk)
    exact ⟨by simpa using slash, .str segment, hk, same.trans hs⟩
  · rintro ⟨-, k, hk, hs⟩
    exact ⟨k, hk, (same_unescape (unescaped k hk) segment).symm.trans hs⟩

/-! ## Lists -/

/-- One entry of a list adds a parameter, or is the first body. -/
theorem splitParameters_cons (plain : PlainlyNamed names p) (rest : List Value) :
    splitParameters names (.map p :: rest) =
      if isBodyEntry names p then do
        let r ← splitParameters names rest
        return (r.1, some (bodyOf names p))
      else do
        let q ← parameter p
        let r ← splitParameters names rest
        return (q :: r.1, r.2) := by
  have recognized := bodyRef?_eq plain
  cases hs : sharedSegment? names p with
  | some segment =>
    rw [hs] at recognized
    rw [splitParameters_ref recognized, isBodyEntry, bodyOf, hs, Option.isSome_some, Bool.or_true]
    rfl
  | none =>
    rw [hs] at recognized
    rw [splitParameters_map recognized, isBodyEntry, bodyOf, hs, Option.isSome_none, Bool.or_false]

/-- A list of parameters is split into the parameters that are no bodies, converted, and the first
body. -/
theorem splitParameters_eq_ok_iff (plain : ∀ p ∈ mappings items, PlainlyNamed names p) :
    splitParameters names items = .ok (ps, b) ↔
      List.Forall₂ (fun p q => parameter p = .ok q)
        ((mappings items).filter (!isBodyEntry names ·)) ps ∧
      b = ((mappings items).find? (isBodyEntry names)).map (bodyOf names) := by
  induction items generalizing ps b with
  | nil =>
    rw [splitParameters, Except.ok.injEq, Prod.mk.injEq]
    simp [mappings, eq_comm]
  | cons v rest ih =>
    cases v with
    | map p =>
      have cons : mappings (.map p :: rest) = p :: mappings rest := rfl
      rw [cons] at plain ⊢
      have later : ∀ q ∈ mappings rest, PlainlyNamed names q :=
        fun q hq => plain q (List.mem_cons_of_mem _ hq)
      rw [splitParameters_cons (plain p List.mem_cons_self), List.filter_cons, List.find?_cons]
      cases isBodyEntry names p with
      | true =>
        -- Later bodies are dropped.
        constructor
        · intro h
          obtain ⟨⟨ps', b'⟩, hr, h⟩ := bind_eq_ok_iff.1 h
          cases h
          exact ⟨((ih later).1 hr).1, rfl⟩
        · rintro ⟨kept, rfl⟩
          exact bind_eq_ok_iff.2 ⟨_, (ih later).2 ⟨kept, rfl⟩, rfl⟩
      | false =>
        constructor
        · intro h
          obtain ⟨q, hq, h⟩ := bind_eq_ok_iff.1 h
          obtain ⟨⟨ps', b'⟩, hr, h⟩ := bind_eq_ok_iff.1 h
          cases h
          exact ⟨.cons hq ((ih later).1 hr).1, ((ih later).1 hr).2⟩
        · rintro ⟨kept, rfl⟩
          cases kept with
          | cons hq kept =>
            exact bind_eq_ok_iff.2 ⟨_, hq, bind_eq_ok_iff.2 ⟨_, (ih later).2 ⟨kept, rfl⟩, rfl⟩⟩
    | _ => exact ih plain

/-- A list of parameters can be split if the parameters that are no bodies can be converted. -/
theorem exists_splitParameters_iff (plain : ∀ p ∈ mappings items, PlainlyNamed names p) :
    (∃ r, splitParameters names items = .ok r) ↔
      ∀ p ∈ mappings items, isBodyEntry names p = false → Convertible p := by
  constructor
  · rintro ⟨⟨ps, b⟩, h⟩ p hp other
    have kept := ((splitParameters_eq_ok_iff plain).1 h).1
    obtain ⟨q, -, hq⟩ := exists_of_forall₂_of_mem_left kept
      (List.mem_filter.2 ⟨hp, by rw [other]; rfl⟩)
    exact convertible_iff.2 ⟨q, hq⟩
  · intro convertible
    obtain ⟨ps, kept⟩ : ∃ ps, List.Forall₂ (fun p q => parameter p = .ok q)
        ((mappings items).filter (!isBodyEntry names ·)) ps := by
      refine exists_forall₂ fun p hp => ?_
      obtain ⟨hp, other⟩ := List.mem_filter.1 hp
      exact convertible_iff.1 (convertible p hp (by simpa using other))
    exact ⟨(ps, _), (splitParameters_eq_ok_iff plain).2 ⟨kept, rfl⟩⟩

/-- What is kept of an entry that is no body is none, either. -/
theorem isBodyEntry_of_keptAs (h : KeptAs p q) (other : isBodyEntry names p = false) :
    isBodyEntry names q = false := by
  cases h with
  | reference => exact other
  | parameter _ described =>
    have noRef : q.get? "$ref" = none := by
      by_contra some
      obtain ⟨v, hv⟩ := Option.ne_none_iff_exists'.1 some
      rcases described.keys _ (Members.mem_of_get? hv) with h | h <;> cases h
    have place : q.get? "in" = said? p "in" := described.kept "in" (by simp)
    obtain ⟨outside, -⟩ := Bool.or_eq_false_iff.1 other
    have outside' : inBody q = false := by
      rw [inBody, isText_getOrNull, textOf?] at outside ⊢
      rw [place, said?]
      cases hp : p.get? "in" with
      | none => rfl
      | some v =>
        rw [hp] at outside
        cases hn : v.isNull with
        | true => simp [Option.filter, hn]
        | false => simpa [Option.filter, hn] using outside
    rw [isBodyEntry, outside', sharedSegment?, textOf?, noRef]
    rfl

theorem keepsParameters_of_split (plain : ∀ p ∈ mappings items, PlainlyNamed names p)
    (h : splitParameters names items = .ok (ps, b)) :
    KeepsParameters names (mappings items) ps := by
  have kept := ((splitParameters_eq_ok_iff plain).1 h).1
  refine ⟨kept.imp fun _ _ => keptAs_of_parameter, fun q hq => ?_⟩
  obtain ⟨p, hp, hpq⟩ := exists_of_forall₂_of_mem_left kept.flip hq
  exact isBodyEntry_of_keptAs (keptAs_of_parameter hpq) (by simpa using (List.mem_filter.1 hp).2)

/-! ## Operations -/

/-- An operation is converted into its parameters, its body or that of its path, and what is taken
over of its members. -/
theorem operation_eq_ok_iff : operation names shared op = .ok op' ↔
    ∃ items ps own out, ((op.get? "parameters").getD (.list [])).items = .ok items ∧
      splitParameters names items = .ok (ps, own) ∧ collect operationMember op = .ok out ∧
      op' = (own.or shared).elim id (fun b => Members.insert (.str "requestBody") (.map b))
        (if ps.isEmpty then out
          else Members.insert (.str "parameters") (.list (ps.map .map)) out) := by
  unfold operation
  constructor
  · intro h
    obtain ⟨items, hi, h⟩ := bind_eq_ok_iff.1 h
    obtain ⟨⟨ps, own⟩, hs, h⟩ := bind_eq_ok_iff.1 h
    obtain ⟨out, ho, h⟩ := bind_eq_ok_iff.1 h
    refine ⟨items, ps, own, out, hi, hs, ho, ?_⟩
    obtain rfl := Except.ok.inj h
    cases own.or shared <;> rfl
  · rintro ⟨items, ps, own, out, hi, hs, ho, rfl⟩
    refine bind_eq_ok_iff.2 ⟨items, hi, bind_eq_ok_iff.2 ⟨_, hs, bind_eq_ok_iff.2 ⟨out, ho, ?_⟩⟩⟩
    cases own.or shared <;> rfl

/-- An operation can be converted just if its parameters and its other members can. -/
theorem exists_operation_iff (plain : ∀ p ∈ ownParameters op, PlainlyNamed names p) :
    (∃ op', operation names shared op = .ok op') ↔ ConvertibleOperation names op := by
  constructor
  · rintro ⟨op', h⟩
    obtain ⟨items, ps, own, out, hi, hs, ho, -⟩ := operation_eq_ok_iff.1 h
    rw [← mappings_items hi] at plain
    refine ⟨⟨items, hi⟩, ?_, exists_collect_iff.1 ⟨out, ho⟩⟩
    rw [← mappings_items hi]
    exact (exists_splitParameters_iff plain).1 ⟨_, hs⟩
  · rintro ⟨⟨items, hi⟩, entries, members⟩
    rw [← mappings_items hi] at plain entries
    obtain ⟨⟨ps, own⟩, hs⟩ := (exists_splitParameters_iff plain).2 entries
    obtain ⟨out, ho⟩ := exists_collect_iff.2 members
    exact ⟨_, operation_eq_ok_iff.2 ⟨items, ps, own, out, hi, hs, ho, rfl⟩⟩

/-- The parameters of an operation are split from its body, else that of its path. -/
theorem operation_splits {entries : List Members}
    (plain : ∀ p ∈ ownParameters op, PlainlyNamed names p)
    (h : operation names ((entries.find? (isBodyEntry names)).map (bodyOf names)) op = .ok op') :
    OperationSplit names entries op op' := by
  obtain ⟨items, ps, own, out, hi, hs, ho, rfl⟩ := operation_eq_ok_iff.1 h
  have listed := mappings_items hi
  rw [← listed] at plain
  have keeps := keepsParameters_of_split plain hs
  obtain ⟨-, rfl⟩ := (splitParameters_eq_ok_iff plain).1 hs
  obtain ⟨noParameters, body⟩ := get?_collect_operationMember ho
  have parameters : Members.get? "parameters" (if ps.isEmpty then out else
      Members.insert (.str "parameters") (.list (ps.map .map)) out) =
        if ps.isEmpty then none else some (.list (ps.map .map)) := by
    split
    · exact noParameters
    · exact Members.get?_insert_self ..
  rw [← Option.map_or]
  constructor <;> rw [← listed]
  · refine ⟨ps, keeps, ?_⟩
    cases ((mappings items).find? (isBodyEntry names)).or (entries.find? (isBodyEntry names)) with
    | none => exact parameters
    | some p =>
      rw [Option.map_some, Option.elim_some, Members.get?_insert, if_neg (by decide)]
      exact parameters
  · intro p first
    refine ⟨bodyOf names p, givesBody_bodyOf names p, ?_⟩
    rw [first]
    exact Members.get?_insert_self ..
  · intro none
    rw [none]
    exact (get?_insert_parameters (by decide) out ps).trans body

/-! ## Path items -/

theorem mappings_entriesOf? (item : Members) :
    mappings ((entriesOf? item).getD []) = pathParameters item := by
  rw [entriesOf?, pathParameters]
  cases item.get? "parameters" with
  | none => rfl
  | some v => cases v <;> rfl

/-- A member of a path item can be taken over if its key is a text, and if it can be converted in
case it is an operation. -/
theorem exists_pathMember_iff : (∃ x, pathMember names shared m = .ok x) ↔
    isTextKey m.1 = true ∧ ∀ a, operation? m = some a →
      ∃ op', operation names shared a.2 = .ok op' := by
  rcases operation_or_other m with ⟨name, hn, op, rfl⟩ | other
  · rw [pathMember_operation (isOneOf_str_iff.2 hn), operation?_eq_some_iff.2 ⟨hn, rfl⟩]
    constructor
    · rintro ⟨x, hx⟩
      obtain ⟨op', hop, -⟩ := bind_eq_ok_iff.1 hx
      exact ⟨rfl, fun a ha => Option.some.inj ha ▸ ⟨op', hop⟩⟩
    · rintro ⟨-, converts⟩
      obtain ⟨op', hop⟩ := converts _ rfl
      exact ⟨_, bind_eq_ok_iff.2 ⟨op', hop, rfl⟩⟩
  · obtain ⟨k, v⟩ := m
    rw [pathMember_other other, operation?_eq_none other]
    constructor
    · rintro ⟨x, hx⟩
      refine ⟨?_, nofun⟩
      split at hx
      · next hk =>
        obtain rfl := isRefKey_iff.1 hk
        rfl
      · obtain ⟨y, hy, -⟩ := bind_eq_ok_iff.1 hx
        exact (isExtension_eq_ok_iff.1 hy).1
    · rintro ⟨text, -⟩
      split
      · exact ⟨_, rfl⟩
      · exact ⟨_, bind_eq_ok_iff.2 ⟨_, isExtension_eq_ok_iff.2 ⟨text, rfl⟩, rfl⟩⟩

theorem exists_collect_pathMember_iff
    (plain : ∀ a ∈ operationsOf item, ∀ p ∈ ownParameters a.2, PlainlyNamed names p) :
    (∃ out, collect (pathMember names shared) item = .ok out) ↔
      (∀ m ∈ item, isTextKey m.1 = true) ∧
        ∀ a ∈ operationsOf item, ConvertibleOperation names a.2 := by
  rw [exists_collect_iff]
  constructor
  · intro members
    refine ⟨fun m hm => (exists_pathMember_iff.1 (members m hm)).1, fun a ha => ?_⟩
    obtain ⟨m, hm, hop⟩ := List.mem_filterMap.1 ha
    exact (exists_operation_iff (plain a ha)).1 ((exists_pathMember_iff.1 (members m hm)).2 a hop)
  · rintro ⟨keys, operations⟩ m hm
    refine exists_pathMember_iff.2 ⟨keys m hm, fun a hop => ?_⟩
    have ha : a ∈ operationsOf item := List.mem_filterMap.2 ⟨m, hm, hop⟩
    exact (exists_operation_iff (plain a ha)).2 (operations a ha)

/-- A path item can be converted just if its parameters and its operations can, and its keys are
texts. -/
theorem exists_pathItem_iff (plain : ∀ p ∈ pathParameters item, PlainlyNamed names p)
    (plainOwn : ∀ a ∈ operationsOf item, ∀ p ∈ ownParameters a.2, PlainlyNamed names p) :
    (∃ item', pathItem names item = .ok item') ↔ ConvertibleItem names item := by
  rw [← mappings_entriesOf?] at plain
  constructor
  · rintro ⟨item', h⟩
    obtain ⟨ps, shared, out, hs, ho, -⟩ := pathItem_eq_ok_iff.1 h
    obtain ⟨keys, operations⟩ := (exists_collect_pathMember_iff plainOwn).1 ⟨out, ho⟩
    have entries := (exists_splitParameters_iff plain).1 ⟨_, hs⟩
    exact ⟨keys, mappings_entriesOf? item ▸ entries, operations⟩
  · rintro ⟨keys, entries, operations⟩
    rw [← mappings_entriesOf?] at entries
    obtain ⟨⟨ps, shared⟩, hs⟩ := (exists_splitParameters_iff plain).2 entries
    obtain ⟨out, ho⟩ := (exists_collect_pathMember_iff plainOwn).2 ⟨keys, operations⟩
    exact ⟨_, pathItem_eq_ok_iff.2 ⟨ps, shared, out, hs, ho, rfl⟩⟩

theorem itemSplit_of_pathItem (plain : ∀ p ∈ pathParameters item, PlainlyNamed names p)
    (plainOwn : ∀ a ∈ operationsOf item, ∀ p ∈ ownParameters a.2, PlainlyNamed names p)
    (h : pathItem names item = .ok item') : ItemSplit names item item' := by
  rw [← mappings_entriesOf?] at plain
  obtain ⟨ps, shared, out, hs, ho, rfl⟩ := pathItem_eq_ok_iff.1 h
  have keeps := keepsParameters_of_split plain hs
  obtain ⟨-, rfl⟩ := (splitParameters_eq_ok_iff plain).1 hs
  rw [mappings_entriesOf?] at keeps ho
  have noParameters : Members.get? "parameters" out = none :=
    get?_collect_eq_none ho (fun _ _ => pathMember_key) fun v n => by
      show (Except.ok none : Except Malformed (Option (Scalar × Value))) ≠ .ok (some n)
      exact nofun
  constructor
  · refine ⟨ps, keeps, ?_⟩
    rw [get?_append, noParameters, Option.or_none]
    cases entriesOf? item <;> rfl
  · rw [operationsOf_parameters_append]
    refine forall₂_imp_of_mem_left (operationsOf_collect ho) fun a ha b hab => ⟨hab.1, ?_⟩
    exact operation_splits (plainOwn a ha) hab.2

/-- The parameters of a path item and of its operations are split without loss, if the path item can
be converted, which its keys, entries and operations say. -/
theorem pathItem_splits (names : List Scalar) (item : Members)
    (plain : ∀ p ∈ pathParameters item, PlainlyNamed names p)
    (plainOwn : ∀ a ∈ operationsOf item, ∀ p ∈ ownParameters a.2, PlainlyNamed names p) :
    ((∃ item', pathItem names item = .ok item') ↔ ConvertibleItem names item) ∧
      ∀ item', pathItem names item = .ok item' → ItemSplit names item item' :=
  ⟨exists_pathItem_iff plain plainOwn, fun _ => itemSplit_of_pathItem plain plainOwn⟩

/-- A path item with a shared body for its path, and an operation with two bodies of its own. -/
def twoBodies : Members :=
  [named "parameters" (.list [.map (typed "id" "path" "string"), refTo (parameterRef ++ "pet")]),
    named "get" (.ofNamed [("parameters", .list [refTo (parameterRef ++ "limit"), .str "limit",
      .map (typed "name" "query" "string")])]),
    named "post" (.ofNamed [("parameters",
      .list [.map (typed "note" "body" "object"), refTo (parameterRef ++ "pet")])])]

theorem pathItem_splits_twoBodies :
    ConvertibleItem [.str "pet"] twoBodies ∧ ∃ item', pathItem [.str "pet"] twoBodies = .ok item' ∧
      ItemSplit [.str "pet"] twoBodies item' := by
  have unescaped : ∀ k ∈ [Scalar.str "pet"], isUnescaped k = true := by
    intro k hk
    obtain rfl := List.mem_singleton.1 hk
    decide
  obtain ⟨converts, splits⟩ := pathItem_splits [.str "pet"] twoBodies
    (fun p _ => plainlyNamed_of_unescaped unescaped p)
    (fun _ _ p _ => plainlyNamed_of_unescaped unescaped p)
  have ok : (pathItem [.str "pet"] twoBodies).isOk = true := by decide +kernel
  obtain ⟨item', h⟩ := exists_of_isOk ok
  exact ⟨converts.1 ⟨item', h⟩, item', h, splits item' h⟩

/-- What stands in the place of a body of the newer family stays, though no entry is a body. -/
theorem strayItem_body_kept :
    pathItem [] strayItem = .ok strayItem ∧ pathParameters strayItem = [] ∧
      (operationsOf strayItem).map (fun a => (a.1, ownParameters a.2)) = [("get", [])] ∧
      (operationsOf strayItem).map (fun a => a.2.get? "requestBody") =
        [some (.ofNamed [("content", .map [])])] :=
  ⟨rfl, rfl, rfl, rfl⟩

end ApiAccord.Swagger
