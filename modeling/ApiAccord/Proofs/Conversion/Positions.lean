import ApiAccord.Document.Swagger
import ApiAccord.Proofs.Document.Pointer
import ApiAccord.Proofs.Value

/-!
# Where references stand in a Swagger document

A conversion moves the shared parts of a document, and the references with them.  This can only go
well for references that stand where the newer family has references, too, and lead to what is moved
as a whole: into the definitions from a schema, to a shared parameter from a list of parameters, and
to a shared response from the responses of an operation.  `documentPart` tells such documents by
their shape, one function for each kind of part; `Movable` says it together with what holds of each
reference by itself.
-/

namespace ApiAccord.Swagger

open Reference (refText?)

/-! ## References in values -/

/-- Whether a mapping has a member `$ref` that is a text. -/
def isReference (ms : Members) : Bool := ms.any fun m => isRefKey m.1 && m.2.str?.isSome

mutual

/-- Whether `p` holds of all references in a value. -/
def allRefs (p : Members → Bool) : Value → Bool
  | .map ms => (!isReference ms || p ms) && allRefsOfMembers p ms
  | .list items => allRefsOfItems p items
  | .pair a b => allRefs p a && allRefs p b
  | .scalar _ | .set _ => true

def allRefsOfItems (p : Members → Bool) : List Value → Bool
  | [] => true
  | v :: rest => allRefs p v && allRefsOfItems p rest

def allRefsOfMembers (p : Members → Bool) : List (Scalar × Value) → Bool
  | [] => true
  | (_, v) :: rest => allRefs p v && allRefsOfMembers p rest

end

/-- Whether a value has no references. -/
def plain (v : Value) : Bool := allRefs (fun _ => false) v

/-- Whether all references in a value lead into the definitions. -/
def schematic (v : Value) : Bool :=
  allRefs (fun ms => (refText? ms).any (Text.startsWith "#/definitions/")) v

/-! ## Parts -/

/-- Whether a key is one of the names. -/
def isOneOf (names : List String) (k : Scalar) : Bool := names.any (Value.scalar k).isText

/-- Whether a value is a mapping, no reference, each of whose members is of the kind that its key
asks for.  What is no mapping must have no references. -/
def membersOf (kind : Scalar → Value → Bool) : Value → Bool
  | .map ms => !isReference ms && ms.all fun m => kind m.1 m.2
  | v => plain v

/-- The members of a parameter or header that have a schema, or are put into one. -/
def schemaFields : List String := "schema" :: typeFields

def memberOfTyped (k : Scalar) (v : Value) : Bool :=
  if isOneOf schemaFields k then schematic v else plain v

/-- A parameter or header. -/
def typedPart : Value → Bool := membersOf memberOfTyped

def memberOfResponse (k : Scalar) (v : Value) : Bool :=
  if isOneOf ["schema"] k then schematic v
  else if isOneOf ["headers"] k then membersOf (fun _ => typedPart) v
  else plain v

def responsePart : Value → Bool := membersOf memberOfResponse

/-- A reference to a shared part: `head`, and the name of the part. -/
def sharedRef (head : String) : Value → Bool
  | .map ms =>
    ((refText? ms).bind (Text.stripHead? head)).any fun name => !name.toList.contains '/'
  | _ => false

/-- The parameters of an operation or a path item. -/
def parameterList : Value → Bool
  | .list items => items.all fun v => sharedRef "#/parameters/" v || typedPart v
  | v => plain v

def memberOfOperation (k : Scalar) (v : Value) : Bool :=
  if isOneOf ["parameters"] k then parameterList v
  else if isOneOf ["responses"] k then
    membersOf (fun _ v => sharedRef "#/responses/" v || responsePart v) v
  else plain v

def operationPart : Value → Bool := membersOf memberOfOperation

def memberOfPath (k : Scalar) (v : Value) : Bool :=
  if isOneOf ["parameters"] k then parameterList v
  else if isOneOf methods k then operationPart v
  else plain v

def pathPart : Value → Bool := membersOf memberOfPath

def memberOfDocument (k : Scalar) (v : Value) : Bool :=
  if isOneOf ["definitions"] k then membersOf (fun _ => schematic) v
  else if isOneOf ["parameters"] k then membersOf (fun _ => typedPart) v
  else if isOneOf ["responses"] k then membersOf (fun _ => responsePart) v
  else if isOneOf ["paths"] k then membersOf (fun _ => pathPart) v
  else plain v

/-- A document, all of whose references stand where they can follow what they lead to. -/
def documentPart : Value → Bool := membersOf memberOfDocument

/-! ## Movable documents -/

/-- Whether a reference in a document leads to a mapping of it. -/
def leadsToMapping (doc : Members) (ref : String) : Bool :=
  match Text.stripHead? "#" ref with
  | some pointer =>
    match Pointer.resolve ref pointer (.map doc) with
    | .ok v => v.isMap
    | .error _ => false
  | none => false

/-- A reference without other members. -/
def loneRef (ms : Members) : Bool := ms.length == 1 && (refText? ms).isSome

/-- A reference without other members that leads to a mapping. -/
def soundRef (doc ms : Members) : Bool :=
  ms.length == 1 && (refText? ms).any (leadsToMapping doc)

/-- The shared parameters of a document. -/
def sharedOf (doc : Members) : Members := (sectionMembers doc "parameters").toOption.getD []

/-- Whether a key can be written in a pointer as it is. -/
def isUnescaped : Scalar → Bool
  | .str name => !name.toList.contains '/' && !name.toList.contains '~'
  | _ => true

/-- The references in a document stand alone and lead to mappings, and they stand where they can
follow what they lead to; the names of shared parameters are different, and need no escapes. -/
structure Movable (doc : Members) : Prop where
  sound : allRefs (soundRef doc) (.map doc) = true
  placed : documentPart (.map doc) = true
  unescaped : (sharedOf doc).all (fun m => isUnescaped m.1) = true
  distinct : (sharedOf doc).Pairwise fun m n => m.1.same n.1 = false

/-! ## References in parts of values -/

section Parts

variable {p q : Members → Bool} {ms : Members} {items : List Value} {v w : Value}
  {kind : Scalar → Value → Bool} {ref segment : String} {segments : List String}

theorem isRefKey_iff {k : Scalar} : isRefKey k = true ↔ k = .str "$ref" := by
  rw [isRefKey, Value.isText, beq_iff_eq]
  cases k <;> simp [Value.str?]

theorem isUnescaped_str_iff {name : String} :
    isUnescaped (.str name) = true ↔ '/' ∉ name.toList ∧ '~' ∉ name.toList := by
  simp [isUnescaped]

theorem unescape_eq_of_isUnescaped (h : isUnescaped (.str (Pointer.unescape segment)) = true) :
    Pointer.unescape segment = segment := by
  obtain ⟨slash, tilde⟩ := isUnescaped_str_iff.1 h
  exact Pointer.unescape_eq_self_of_unescaped slash tilde

/-- A segment writes a name without escapes only where it is this name itself. -/
theorem same_unescape {k : Scalar} (h : isUnescaped k = true) (segment : String) :
    Scalar.same (.str (Pointer.unescape segment)) k = Scalar.same (.str segment) k := by
  rw [Bool.eq_iff_iff, Scalar.same_str_iff, Scalar.same_str_iff]
  constructor
  · rintro rfl
    rw [unescape_eq_of_isUnescaped h]
  · rintro rfl
    rw [Pointer.unescape_eq_self (isUnescaped_str_iff.1 h).2]

theorem allRefs_items : allRefsOfItems p items = true ↔ ∀ v ∈ items, allRefs p v = true := by
  induction items with
  | nil => simp [allRefsOfItems]
  | cons v rest ih => simp [allRefsOfItems, ih]

theorem allRefs_members : allRefsOfMembers p ms = true ↔ ∀ m ∈ ms, allRefs p m.2 = true := by
  induction ms with
  | nil => simp [allRefsOfMembers]
  | cons m rest ih => simp [allRefsOfMembers, ih]

theorem allRefs_list : allRefs p (.list items) = true ↔ ∀ v ∈ items, allRefs p v = true := by
  rw [allRefs, allRefs_items]

theorem allRefs_map : allRefs p (.map ms) = true ↔
    (isReference ms = true → p ms = true) ∧ ∀ m ∈ ms, allRefs p m.2 = true := by
  rw [allRefs, Bool.and_eq_true, allRefs_members]
  cases isReference ms <;> simp

theorem allRefs_mono (h : ∀ ms, p ms = true → q ms = true) (hv : allRefs p v = true) :
    allRefs q v = true := by
  induction v using Value.inductionOn with
  | scalar | set => rfl
  | list items ih => exact allRefs_list.2 fun v hm => ih v hm (allRefs_list.1 hv v hm)
  | pair a b iha ihb =>
    obtain ⟨ha, hb⟩ := Bool.and_eq_true_iff.1 hv
    exact Bool.and_eq_true_iff.2 ⟨iha ha, ihb hb⟩
  | map ms ih =>
    obtain ⟨hr, hm⟩ := allRefs_map.1 hv
    exact allRefs_map.2 ⟨fun href => h ms (hr href), fun m hmem => ih m hmem (hm m hmem)⟩

theorem allRefs_of_plain (h : plain v = true) : allRefs p v = true :=
  allRefs_mono (fun _ h => Bool.noConfusion h) h

theorem isReference_eq_false_iff :
    isReference ms = false ↔ ∀ m ∈ ms, isRefKey m.1 = true → m.2.str? = none := by
  simp [isReference]

theorem refText?_eq_none (h : isReference ms = false) : refText? ms = none := by
  rw [refText?]
  cases hg : ms.get? "$ref" with
  | none => rfl
  | some v => exact isReference_eq_false_iff.1 h _ (Members.mem_of_get? hg) rfl

/-- A value all of whose members are of a kind has no other references than these. -/
theorem allRefs_of_membersOf (h : ∀ k v, kind k v = true → allRefs p v = true)
    (hv : membersOf kind v = true) : allRefs p v = true := by
  cases v with
  | map ms =>
    rw [membersOf, Bool.and_eq_true, Bool.not_eq_true', List.all_eq_true] at hv
    refine allRefs_map.2 ⟨fun href => ?_, fun m hm => h m.1 m.2 (hv.2 m hm)⟩
    rw [hv.1] at href
    cases href
  | _ => exact allRefs_of_plain hv

theorem memberOfDocument_of_get? {doc : Members} {name : String}
    (placed : documentPart (.map doc) = true) (hg : doc.get? name = some v) :
    memberOfDocument (.str name) v = true :=
  List.all_eq_true.1 (Bool.and_eq_true_iff.1 placed).2 _ (Members.mem_of_get? hg)

/-! ## References on a way down -/

theorem allRefs_of_down (h : allRefs p v = true) (hd : Pointer.Down segment v w) :
    allRefs p w = true := by
  cases hd with
  | member hg => exact (allRefs_map.1 h).2 _ (Members.mem_of_get? hg)
  | item hi =>
    obtain ⟨i, -, hi⟩ := Option.bind_eq_some_iff.1 hi
    exact allRefs_list.1 h _ (Pointer.mem_of_itemAt? hi)

theorem allRefs_of_walk (h : allRefs p v = true) (hw : Pointer.walk ref segments v = .ok w) :
    allRefs p w = true := by
  induction segments generalizing v with
  | nil => exact Except.ok.inj hw ▸ h
  | cons segment rest ih =>
    obtain ⟨u, hu, hw⟩ := Pointer.walk_cons_eq_ok_iff.1 hw
    exact ih (allRefs_of_down h hu) hw

/-! ## Lone references -/

/-- A reference that is nothing else is a mapping of one member. -/
theorem eq_of_loneRef (h : loneRef ms = true) : ∃ ref, ms = [(.str "$ref", .str ref)] := by
  obtain ⟨hl, hr⟩ := Bool.and_eq_true_iff.1 h
  obtain ⟨ref, hr⟩ := Option.isSome_iff_exists.1 hr
  obtain ⟨v, hg, hv⟩ := Option.bind_eq_some_iff.1 hr
  obtain ⟨m, rfl⟩ := List.length_eq_one_iff.1 (beq_iff_eq.1 hl)
  obtain rfl := List.mem_singleton.1 (Members.mem_of_get? hg)
  refine ⟨ref, ?_⟩
  cases v with
  | scalar s => cases s <;> simp_all [Value.str?]
  | _ => simp [Value.str?] at hv

theorem loneRef_of_soundRef {doc : Members} (h : soundRef doc ms = true) : loneRef ms = true := by
  obtain ⟨hl, hr⟩ := Bool.and_eq_true_iff.1 h
  obtain ⟨ref, hr, -⟩ := (Option.any_eq_true _ _).1 hr
  exact Bool.and_eq_true_iff.2 ⟨hl, Option.isSome_iff_exists.2 ⟨ref, hr⟩⟩

theorem eq_of_soundRef {doc : Members} (h : soundRef doc ms = true) :
    ∃ ref, ms = [(.str "$ref", .str ref)] ∧ leadsToMapping doc ref = true := by
  obtain ⟨ref, rfl⟩ := eq_of_loneRef (loneRef_of_soundRef h)
  exact ⟨ref, rfl, (Bool.and_eq_true_iff.1 h).2⟩

end Parts

end ApiAccord.Swagger
