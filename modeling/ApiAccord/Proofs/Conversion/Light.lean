import ApiAccord.Proofs.Conversion.Components
import ApiAccord.Proofs.Reading

/-!
# Parameters and responses that are read as if they were converted

The conversion rolls the type of a parameter into a schema, and the schema of a response into
its content.  What is beside these is read in the same way before and after the conversion: a
parameter that says no type (`lightParameter_of_untyped`), and a response with a description and
without a schema (`lightResponse_of_described`).
-/

namespace ApiAccord.Swagger

open OperationReading

/-- A mapping without references and what it is converted into, which are read alike. -/
structure Becomes (conversion : Members → Except Malformed Members)
    (alike : Members → Members → Prop) (obj q : Members) : Prop where
  plain : plain (.map obj) = true
  converted : conversion obj = .ok q
  alike : alike obj q

/-- A parameter outside of the body that is read as if it were converted. -/
structure LightParameter (p : Members) : Prop where
  outside : inBody p = false
  becomes : ∃ q, Becomes parameter ParameterAlike p q

/-- A response that is read as if it were converted. -/
def LightResponse (r : Members) : Prop := ∃ q, Becomes responseMembers ResponseAlike r q

variable {name other : String} {v : Value} {m : Scalar × Value} {p q r es hs ms : Members}

theorem LightParameter.plain (h : LightParameter p) : plain (.map p) = true :=
  h.becomes.elim fun _ hq => hq.plain

theorem LightResponse.plain (h : LightResponse p) : Swagger.plain (.map p) = true :=
  h.elim fun _ hq => hq.plain

/-! ## What the conversion leaves -/

theorem get?_named_cons (other : String) (v : Value) (ms : Members) :
    Members.get? name (named other v :: ms) = if other = name then some v else ms.get? name := by
  simp [named, Members.get?]

theorem get?_present_cons (other : String) (v : Value) (ms : Members) :
    (present (named other v :: ms)).get? name =
      if other = name ∧ v.isNull = false then some v else (present ms).get? name := by
  cases hv : v.isNull with
  | true => simp [present, named, hv]
  | false =>
    have kept : present (named other v :: ms) = named other v :: present ms := by
      simp [present, named, hv]
    simp [kept, get?_named_cons]

theorem isExtension_of_mem (h : extensions p = .ok es) (hm : m ∈ es) :
    isExtension m.1 = .ok true := by
  obtain ⟨n, -, hn⟩ := exists_of_mem_collect h hm
  obtain ⟨x, hx, hn⟩ := bind_eq_ok_iff.1 hn
  cases x <;> cases hn
  exact hx

/-- The names of extensions are no others. -/
theorem get?_eq_none_of_extensions (h : extensions p = .ok es) (hs : ms ⊆ es)
    (hn : Text.startsWith "x-" name = false) : ms.get? name = none := by
  by_contra some
  obtain ⟨v, hv⟩ := Option.ne_none_iff_exists'.1 some
  have extension : isExtension (.str name) = .ok true :=
    isExtension_of_mem h (hs (Members.mem_of_get? hv))
  rw [isExtension, hn] at extension
  cases extension

/-! ## Parameters -/

theorem filter_get?_eq_getOrNull (p : Members) (name : String) :
    (p.get? name).filter (fun v => !v.isNull) =
      if (getOrNull p name).isNull = false then some (getOrNull p name) else none := by
  rw [getOrNull]
  cases p.get? name with
  | none => rfl
  | some v => cases hv : v.isNull <;> simp [Option.filter, hv]

theorem present_append (ms ns : Members) : present (ms ++ ns) = present ms ++ present ns :=
  List.filter_append ..

theorem present_unlessEmpty (name : String) (ms : Members) :
    present (unlessEmpty name ms) = unlessEmpty name ms := by
  unfold unlessEmpty
  split <;> rfl

/-- A parameter keeps its name, place and description unless they are null, and says whether it is
required; its type goes into a schema. -/
theorem get?_parameter (href : p.has "$ref" = false) (h : parameter p = .ok q)
    (hn : Text.startsWith "x-" name = false) :
    q.get? name =
      if name = "required" then some (.bool (saysRequired p || (getOrNull p "in").isText "path"))
      else if name ∈ ["name", "in", "description"] then (p.get? name).filter fun v => !v.isNull
      else Members.get? name (unlessEmpty "schema" (typeSchema p)) := by
  rw [parameter, href] at h
  obtain ⟨es, hes, h⟩ := bind_eq_ok_iff.1 h
  obtain rfl := Except.ok.inj h
  have rest : (present es).get? name = none :=
    get?_eq_none_of_extensions hes (List.filter_subset_self _) hn
  have schema {other : String} (ho : "schema" ≠ other) :
      Members.get? other (unlessEmpty "schema" (typeSchema p)) = none := get?_unlessEmpty_of_ne ho
  rw [present_append, present_append, present_unlessEmpty, get?_append, rest, Option.or_none,
    get?_append]
  simp only [get?_present_cons, filter_get?_eq_getOrNull]
  by_cases hs : "schema" = name
  · subst hs
    simp [present, Members.get?]
  · rw [schema hs]
    simp only [present, List.filter_nil, Members.get?]
    clear h
    grind [Value.isNull]

theorem filter_get?_of_ne_null (h : p.get? name ≠ some .null) :
    (p.get? name).filter (fun v => !v.isNull) = p.get? name := by
  cases hg : p.get? name with
  | none => rfl
  | some v =>
    have said : ¬v.isNull = true := fun hn => h (Value.isNull_iff.1 hn ▸ hg)
    simp [Option.filter, said]

/-- Null stands for a field that may be left out. -/
theorem field_eq_of_filter {α : Type} {check : Value → Checked α}
    (h : q.get? name = (p.get? name).filter fun v => !v.isNull) :
    Record.field q [name] none (Field.orNull check) =
      Record.field p [name] none (Field.orNull check) := by
  simp only [Record.field, Record.find?, h]
  cases p.get? name with
  | none => rfl
  | some v =>
    cases hv : v.isNull with
    | false => simp [Option.filter, hv]
    | true =>
      obtain rfl := Value.isNull_iff.1 hv
      rfl

theorem saysRequired_eq (p : Members) :
    saysRequired p = ((p.get? "required").map Value.truthy).getD false := by
  rw [saysRequired, getOrNull]
  cases p.get? "required" <;> rfl

/-- A parameter in the path is required, whatever it says. -/
theorem required_eq {place : ParameterPlace}
    (h : (((p.get? "in").getD (.str "query")).str?.bind ParameterPlace.ofName?) = some place) :
    ((saysRequired p || (getOrNull p "in").isText "path") || place == .path) =
      (((p.get? "required").map Value.truthy).getD false || place == .path) := by
  cases inPath : (getOrNull p "in").isText "path" with
  | false => rw [saysRequired_eq, Bool.or_false]
  | true =>
    have said : (getOrNull p "in").str? = some "path" := beq_iff_eq.1 inPath
    have text : ((p.get? "in").getD (.str "query")).str? = some "path" := by
      rw [getOrNull] at said
      cases hg : p.get? "in" with
      | none => rw [hg] at said; cases said
      | some v => rwa [hg] at said
    rw [text] at h
    obtain rfl : ParameterPlace.path = place := Option.some.inj h
    simp

theorem parameterAlike_of_untyped (href : p.has "$ref" = false) (untyped : typeSchema p = [])
    (noSchema : getOrNull p "schema" = .null) (hname : p.get? "name" ≠ some .null)
    (hin : p.get? "in" ≠ some .null) (h : parameter p = .ok q) : ParameterAlike p q := by
  have member {name : String} (hn : Text.startsWith "x-" name = false) :=
    get?_parameter href h hn
  have name : q.get? "name" = p.get? "name" :=
    (member (by decide)).trans (filter_get?_of_ne_null hname)
  have place : q.get? "in" = p.get? "in" :=
    (member (by decide)).trans (filter_get?_of_ne_null hin)
  have required : q.get? "required" = some (.bool (saysRequired p || _)) := member (by decide)
  have schema : q.get? "schema" = none := (member (by decide)).trans (by rw [untyped]; rfl)
  have ref : q.get? "$ref" = none := (member (by decide)).trans (by rw [untyped]; rfl)
  have description : Record.field q ["description"] none (Field.orNull Field.text) = _ :=
    field_eq_of_filter (member (by decide))
  constructor
  · rw [parameterKey, parameterKey, keyPart, keyPart, keyPart, keyPart, name, place]
  · have noRef : q.has "$ref" = false := congrArg Option.isSome ref
    have null : (p.get? "schema").getD .null = .null := noSchema
    simp only [parameter?, href, noRef, name, place, required, schema, description, null,
      Bool.false_eq_true, if_false]
    refine bind_congr fun _ => ?_
    cases hs : ((p.get? "in").getD (.str "query")).str? with
    | none => rfl
    | some text =>
      simp only [Option.bind_eq_bind, Option.bind_some]
      cases hp : ParameterPlace.ofName? text with
      | none => rfl
      | some place =>
        have read : ((p.get? "in").getD (.str "query")).str?.bind ParameterPlace.ofName? =
            some place := by
          rw [hs]
          exact hp
        simp only [Option.bind_some, ← required_eq read]
        rfl

/-- A parameter outside of the body that says no type, as its own member or in a schema. -/
theorem lightParameter_of_untyped (hp : plain (.map p) = true) (outside : inBody p = false)
    (untyped : typeSchema p = []) (noSchema : getOrNull p "schema" = .null)
    (hname : p.get? "name" ≠ some .null) (hin : p.get? "in" ≠ some .null)
    (h : parameter p = .ok q) : LightParameter p := by
  refine ⟨outside, q, hp, h, ?_⟩
  cases href : p.has "$ref" with
  | false => exact parameterAlike_of_untyped href untyped noSchema hname hin h
  | true =>
    rw [parameter, href] at h
    obtain rfl : p = q := Except.ok.inj h
    exact .refl p

/-! ## Responses -/

theorem get?_headers {v : Option Value} (h : headers v = .ok hs) (hn : "headers" ≠ name) :
    hs.get? name = none := by
  cases v with
  | none =>
    obtain rfl := Except.ok.inj h
    rfl
  | some v =>
    obtain ⟨_, -, h⟩ := bind_eq_ok_iff.1 h
    obtain ⟨_, -, h⟩ := bind_eq_ok_iff.1 h
    obtain rfl := Except.ok.inj h
    exact (get?_named_cons _ _ _).trans (if_neg hn)

/-- A response without a schema gets no content and keeps its description. -/
theorem get?_responseMembers (href : r.has "$ref" = false) (noSchema : r.get? "schema" = none)
    (h : responseMembers r = .ok q) (hn : Text.startsWith "x-" name = false)
    (hh : "headers" ≠ name) :
    q.get? name =
      if name = "description" then some ((r.get? "description").getD (.str "")) else none := by
  rw [responseMembers, href, noSchema] at h
  obtain ⟨hs, hhs, h⟩ := bind_eq_ok_iff.1 h
  obtain ⟨es, hes, h⟩ := bind_eq_ok_iff.1 h
  obtain rfl := Except.ok.inj h
  have rest : (hs ++ es).get? name = none := by
    rw [get?_append, get?_headers hhs hh, get?_eq_none_of_extensions hes (fun _ hm => hm) hn]
    rfl
  simp only [Option.map_none, Option.toList_none, List.cons_append, List.nil_append,
    get?_named_cons, rest, eq_comm]

/-- A response with a description and without a schema. -/
theorem lightResponse_of_described (hp : plain (.map r) = true)
    (described : r.has "description" = true) (noSchema : r.get? "schema" = none)
    (noContent : section? r "content" = none) (h : responseMembers r = .ok q) :
    LightResponse r := by
  refine ⟨q, hp, h, fun status => ?_⟩
  cases href : r.has "$ref" with
  | true =>
    rw [responseMembers, href] at h
    obtain rfl : r = q := Except.ok.inj h
    rfl
  | false =>
    have description : q.get? "description" = r.get? "description" := by
      obtain ⟨v, hv⟩ := Option.isSome_iff_exists.1 described
      rw [get?_responseMembers href noSchema h (by decide) (by decide), hv]
      rfl
    have content : q.get? "content" = none :=
      get?_responseMembers href noSchema h (by decide) (by decide)
    have empty : Value.ifTruthy (r.get? "content") = none := noContent
    have sections : sectionOf q "content" = sectionOf r "content" := by
      rw [sectionOf, sectionOf, content, empty]
      rfl
    simp only [responses, sections, Record.field, Record.find?, description]

end ApiAccord.Swagger
