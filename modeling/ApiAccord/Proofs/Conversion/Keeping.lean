import ApiAccord.Proofs.Conversion.Components
import ApiAccord.Proofs.Conversion.Documents

/-!
# What a conversion keeps

A conversion puts the members of a document into new places.  So a property of values that lists and
mappings have if their parts have it (`Inherited`) is had by what the conversion puts together from
parts that have it: one theorem for each of its functions.  Where it takes a mapping for a reference
to follow, for a parameter or for a body (`EntryKeeps`), what comes out of it is asked to have the
property.
-/

namespace ApiAccord.Swagger

/-- A property `P` of values which lists have if their items have it, and mappings if `M` holds of
their members.  Where there is no reference, nothing has to be known of a member but its value. -/
structure Inherited (P : Value → Prop) (M : Scalar × Value → Prop) : Prop where
  plain : ∀ {v}, Swagger.plain v = true → P v
  list : ∀ {items}, (∀ v ∈ items, P v) → P (.list items)
  map : ∀ {ms : Members}, (∀ m ∈ ms, M m) → P (.map ms)
  value : ∀ {m}, M m → P m.2
  member : ∀ {k v}, P v → (isRefKey k = true → v.str? = none) → M (k, v)

/-- All members of a mapping are as asked. -/
def Keeps (M : Scalar × Value → Prop) (ms : Members) : Prop := ∀ m ∈ ms, M m

variable {P : Value → Prop} {M : Scalar × Value → Prop} {name : String}
  {ms ns out p q r doc : Members} {v w u : Value} {items : List Value} {names : List Scalar}
  {m : Scalar × Value}

/-! ## Members -/

namespace Keeps

theorem nil : Keeps M [] := fun _ hm => absurd hm List.not_mem_nil

theorem append (h : Keeps M ms) (h' : Keeps M ns) : Keeps M (ms ++ ns) :=
  List.forall_mem_append.2 ⟨h, h'⟩

theorem filter (h : Keeps M ms) (f : Scalar × Value → Bool) : Keeps M (ms.filter f) :=
  fun m hm => h m (List.mem_of_mem_filter hm)

theorem present (h : Keeps M ms) : Keeps M (present ms) := h.filter _

theorem of_collect {α : Type} {l : List α} {f : α → Except Malformed (Option (Scalar × Value))}
    (h : collect f l = .ok out) (hf : ∀ a ∈ l, ∀ n, f a = .ok (some n) → M n) : Keeps M out := by
  intro n hn
  obtain ⟨a, ha, h⟩ := exists_of_mem_collect h hn
  exact hf a ha n h

theorem of_mapValues {f : Value → Except Malformed Value} (h : mapValues f ms = .ok out)
    (hf : ∀ m ∈ ms, ∀ u, f m.2 = .ok u → M (m.1, u)) : Keeps M out := by
  intro n hn
  obtain ⟨m, hm, hk, hv⟩ := exists_of_forall₂_of_mem_left (mapValues_rel h).flip hn
  have kept := hf m hm n.2 hv
  rwa [hk] at kept

theorem extensions (h : Keeps M ms) (he : extensions ms = .ok out) : Keeps M out := by
  refine .of_collect he fun m hm n hn => ?_
  obtain ⟨b, -, hn⟩ := bind_eq_ok_iff.1 hn
  cases b <;> cases hn
  exact h m hm

end Keeps

namespace Inherited

variable (inh : Inherited P M)

include inh

/-- A mapping under any key. -/
theorem mapMember (h : Keeps M ms) (k : Scalar) : M (k, .map ms) :=
  inh.member (inh.map h) fun _ => rfl

theorem cons_named (hn : name ≠ "$ref") (hv : P v) (h : Keeps M ms) :
    Keeps M (named name v :: ms) :=
  List.forall_mem_cons.2
    ⟨inh.member hv fun hk => absurd (Scalar.str.inj (isRefKey_iff.1 hk)) hn, h⟩

theorem unlessEmpty (hn : name ≠ "$ref") (h : Keeps M ms) : Keeps M (unlessEmpty name ms) := by
  rw [Swagger.unlessEmpty]
  split
  · exact .nil
  · exact inh.cons_named hn (inh.map h) .nil

theorem insert {k : Scalar} (hv : P v) (notText : v.str? = none) (h : Keeps M ms) :
    Keeps M (Members.insert k v ms) := by
  induction ms with
  | nil => exact List.forall_mem_singleton.2 (inh.member hv fun _ => notText)
  | cons m rest ih =>
    obtain ⟨hm, hrest⟩ := List.forall_mem_cons.1 h
    rw [Members.insert]
    split
    · exact List.forall_mem_cons.2 ⟨inh.member hv fun _ => notText, hrest⟩
    · exact List.forall_mem_cons.2 ⟨hm, ih hrest⟩

theorem get? (h : Keeps M ms) (hg : ms.get? name = some v) : P v :=
  inh.value (h _ (Members.mem_of_get? hg))

theorem getD (h : Keeps M ms) (name : String) (hw : P w) : P ((ms.get? name).getD w) := by
  cases hg : ms.get? name with
  | none => exact hw
  | some v => exact inh.get? h hg

theorem getOrNull (h : Keeps M ms) (name : String) : P (getOrNull ms name) :=
  inh.getD h name (inh.plain rfl)

/-- The member under a name, put under another one. -/
theorem toList (h : Keeps M ms) (name : String) {f : Value → Scalar × Value}
    (hf : ∀ v, P v → Keeps M [f v]) : Keeps M ((ms.get? name).map f).toList := by
  cases hg : ms.get? name with
  | none => exact .nil
  | some v => exact hf v (inh.get? h hg)

end Inherited

/-! ## Parameters and bodies -/

/-- A parameter or header: if it is a mapping, its members are as asked. -/
def TypedKeeps (M : Scalar × Value → Prop) (v : Value) : Prop := ∀ p, v = .map p → Keeps M p

namespace Inherited

variable (inh : Inherited P M)

include inh

theorem typeSchema (h : Keeps M p) : Keeps M (typeSchema p) := by
  refine Keeps.present fun m hm => ?_
  obtain ⟨name, hn, rfl⟩ := List.mem_map.1 hm
  have noRef : "$ref" ∉ typeFields := by decide
  exact inh.member (inh.getOrNull h name) fun hk =>
    absurd (Scalar.str.inj (isRefKey_iff.1 hk) ▸ hn) noRef

theorem parameter (h : Keeps M p) (hq : parameter p = .ok q) : Keeps M q := by
  unfold Swagger.parameter at hq
  split at hq
  · cases hq
    exact h
  · obtain ⟨es, hes, hq⟩ := bind_eq_ok_iff.1 hq
    cases hq
    have own : Keeps M [named "name" (Swagger.getOrNull p "name"),
        named "in" (Swagger.getOrNull p "in"),
        named "description" (Swagger.getOrNull p "description"),
        named "required" (.bool (saysRequired p || (Swagger.getOrNull p "in").isText "path"))] :=
      inh.cons_named (by decide) (inh.getOrNull h "name")
        (inh.cons_named (by decide) (inh.getOrNull h "in")
          (inh.cons_named (by decide) (inh.getOrNull h "description")
            (inh.cons_named (by decide) (inh.plain rfl) .nil)))
    have schema := inh.unlessEmpty (by decide : "schema" ≠ "$ref") (inh.typeSchema h)
    exact ((own.append schema).append (h.extensions hes)).present

theorem content (h : P v) : Keeps M [content v] := by
  have schema : Keeps M [named "schema" v] := inh.cons_named (by decide) h .nil
  have json : Keeps M [named "application/json" (.map [named "schema" v])] :=
    inh.cons_named (by decide) (inh.map schema) .nil
  exact inh.cons_named (by decide) (inh.map json) .nil

theorem body (h : Keeps M p) : Keeps M (body p) := by
  have empty : P (.map []) := inh.plain rfl
  have own : Keeps M [named "description" (Swagger.getOrNull p "description"),
      named "required" (.bool (saysRequired p)),
      Swagger.content ((p.get? "schema").getD (.map []))] :=
    inh.cons_named (by decide) (inh.getOrNull h "description")
      (inh.cons_named (by decide) (inh.plain rfl) (inh.content (inh.getD h "schema" empty)))
  exact own.present

end Inherited

/-! ## Responses -/

/-- A response: its members are as asked, and those of its headers. -/
structure ResponseKeeps (M : Scalar × Value → Prop) (r : Members) : Prop where
  members : Keeps M r
  headers : ∀ hs, r.get? "headers" = some (.map hs) → ∀ m ∈ hs, TypedKeeps M m.2

namespace Inherited

variable (inh : Inherited P M)

include inh

theorem header (h : TypedKeeps M v) (hu : header v = .ok u) : ∃ ms, u = .map ms ∧ Keeps M ms := by
  obtain ⟨p, hp, hu⟩ := bind_eq_ok_iff.1 hu
  obtain rfl := eq_map_of_members hp
  cases hu
  have description : Keeps M [named "description" (Swagger.getOrNull p "description")] :=
    inh.cons_named (by decide) (inh.getOrNull (h p rfl) "description") .nil
  exact ⟨_, rfl,
    description.present.append (inh.unlessEmpty (by decide) (inh.typeSchema (h p rfl)))⟩

theorem responseMembers (h : ResponseKeeps M r) (hq : responseMembers r = .ok q) : Keeps M q := by
  unfold Swagger.responseMembers at hq
  split at hq
  · cases hq
    exact h.members
  · obtain ⟨hs, hhs, hq⟩ := bind_eq_ok_iff.1 hq
    obtain ⟨es, hes, hq⟩ := bind_eq_ok_iff.1 hq
    cases hq
    have headers : Keeps M hs := by
      unfold Swagger.headers at hhs
      split at hhs
      · next v hg =>
        obtain ⟨ms, hms, hhs⟩ := bind_eq_ok_iff.1 hhs
        obtain ⟨out, hout, hhs⟩ := bind_eq_ok_iff.1 hhs
        cases hhs
        refine inh.cons_named (by decide) (inh.map (Keeps.of_mapValues hout ?_)) .nil
        intro m hm u hu
        obtain ⟨us, rfl, kept⟩ := inh.header (h.headers ms (eq_map_of_members hms ▸ hg) m hm) hu
        exact inh.mapMember kept m.1
      · cases hhs
        exact .nil
    have description : P ((r.get? "description").getD (.str "")) :=
      inh.getD h.members "description" (inh.plain rfl)
    have schema := inh.toList h.members "schema" fun _ => inh.content
    exact ((inh.cons_named (by decide) description schema).append headers).append
      (h.members.extensions hes)

end Inherited

/-! ## Lists of parameters -/

/-- An entry of a list of parameters: what it becomes has the property, a reference to a shared
body, a body or a parameter. -/
structure EntryKeeps (P : Value → Prop) (names : List Scalar) (p : Members) : Prop where
  bodyRef : ∀ ref, bodyRef? names p = some ref → P (.map (refMembers ref))
  body : bodyRef? names p = none → inBody p = true → P (.map (body p))
  parameter : ∀ q, bodyRef? names p = none → inBody p = false → parameter p = .ok q → P (.map q)

theorem Inherited.entry (inh : Inherited P M) (h : Keeps M p)
    (hr : ∀ ref, bodyRef? names p = some ref → P (.map (refMembers ref))) :
    EntryKeeps P names p :=
  ⟨hr, fun _ _ => inh.map (inh.body h), fun _ _ _ hq => inh.map (inh.parameter h hq)⟩

/-- A list of parameters is split into parameters and a body that have the property. -/
theorem keeps_splitParameters {r : List Members × Option Members}
    (h : ∀ p, .map p ∈ items → EntryKeeps P names p) (hr : splitParameters names items = .ok r) :
    (∀ p ∈ r.1, P (.map p)) ∧ ∀ b ∈ r.2, P (.map b) := by
  induction items generalizing r with
  | nil =>
    cases hr
    exact ⟨nofun, nofun⟩
  | cons v rest ih =>
    have tail {r'} := ih (r := r') fun p hp => h p (List.mem_cons_of_mem _ hp)
    cases v with
    | map p =>
      have entry := h p List.mem_cons_self
      cases hb : bodyRef? names p with
      | some ref =>
        rw [splitParameters_ref hb] at hr
        obtain ⟨r', hr', hr⟩ := bind_eq_ok_iff.1 hr
        cases hr
        exact ⟨(tail hr').1, fun b hmem => Option.some.inj hmem ▸ entry.bodyRef ref hb⟩
      | none =>
        rw [splitParameters_map hb] at hr
        split at hr
        · next inside =>
          obtain ⟨r', hr', hr⟩ := bind_eq_ok_iff.1 hr
          cases hr
          exact ⟨(tail hr').1, fun b hmem => Option.some.inj hmem ▸ entry.body hb inside⟩
        · next outside =>
          obtain ⟨q, hq, hr⟩ := bind_eq_ok_iff.1 hr
          obtain ⟨r', hr', hr⟩ := bind_eq_ok_iff.1 hr
          cases hr
          have first := entry.parameter q hb (Bool.eq_false_iff.2 outside) hq
          exact ⟨List.forall_mem_cons.2 ⟨first, (tail hr').1⟩, (tail hr').2⟩
    | _ => exact tail hr

/-! ## Operations and path items -/

namespace Inherited

variable (inh : Inherited P M)

include inh

theorem maps {l : List Members} (h : ∀ p ∈ l, P (.map p)) : P (.list (l.map .map)) := by
  refine inh.list fun v hv => ?_
  obtain ⟨p, hp, rfl⟩ := List.mem_map.1 hv
  exact h p hp

theorem operation {shared : Option Members}
    (entries : ∀ items, ((ms.get? "parameters").getD (.list [])).items = .ok items →
      ∀ p, .map p ∈ items → EntryKeeps P names p)
    (members : ∀ m ∈ ms, ∀ n, operationMember m = .ok (some n) → M n)
    (hs : ∀ b ∈ shared, P (.map b)) (h : operation names shared ms = .ok out) : Keeps M out := by
  unfold Swagger.operation at h
  obtain ⟨items, hi, h⟩ := bind_eq_ok_iff.1 h
  obtain ⟨⟨ps, own⟩, hr, h⟩ := bind_eq_ok_iff.1 h
  obtain ⟨rest, hrest, h⟩ := bind_eq_ok_iff.1 h
  obtain ⟨hps, hown⟩ := keeps_splitParameters (entries items hi) hr
  have kept := Keeps.of_collect hrest members
  have listed : Keeps M (if ps.isEmpty then rest else
      Members.insert (.str "parameters") (.list (ps.map .map)) rest) := by
    split
    · exact kept
    · exact inh.insert (inh.maps hps) rfl kept
  have body : ∀ b ∈ own.or shared, P (.map b) := by
    cases own with
    | none => exact hs
    | some b => exact hown
  obtain rfl := Except.ok.inj h
  split
  · next b hb => exact inh.insert (body b hb) rfl listed
  · exact listed

theorem pathItem
    (entries : ∀ items, ms.get? "parameters" = some (.list items) →
      ∀ p, .map p ∈ items → EntryKeeps P names p)
    (members : ∀ m ∈ ms, ∀ shared : Option Members, (∀ b ∈ shared, P (.map b)) →
      ∀ n, pathMember names shared m = .ok (some n) → M n)
    (h : pathItem names ms = .ok out) : Keeps M out := by
  unfold Swagger.pathItem at h
  split at h
  · next items hg =>
    obtain ⟨⟨ps, shared⟩, hr, h⟩ := bind_eq_ok_iff.1 h
    obtain ⟨kept, hk, h⟩ := bind_eq_ok_iff.1 h
    obtain ⟨hps, hshared⟩ := keeps_splitParameters (entries items hg) hr
    obtain rfl := Except.ok.inj h
    exact inh.cons_named (by decide) (inh.maps hps)
      (.of_collect hk fun m hm => members m hm shared hshared)
  · exact .of_collect h fun m hm => members m hm none nofun

end Inherited

/-! ## Documents -/

theorem get?_of_section? (h : section? ms name = some v) : ms.get? name = some v := by
  rw [section?] at h
  cases hg : ms.get? name with
  | none =>
    rw [hg] at h
    cases h
  | some w =>
    rw [hg, Value.ifTruthy] at h
    split at h
    · exact h
    · cases h

theorem get?_of_sectionMembers (h : sectionMembers ms name = .ok out) (hm : m ∈ out) :
    ms.get? name = some (.map out) := by
  unfold sectionMembers at h
  split at h
  · next v hv => exact eq_map_of_members h ▸ get?_of_section? hv
  · cases h
    cases hm

/-- A document with moved references, part by part: what it holds has the property as it is, or as
what it is converted into. -/
structure DocumentKeeps (P : Value → Prop) (M : Scalar × Value → Prop) (doc : Members) : Prop where
  definitions : ∀ v, doc.get? "definitions" = some v → P v
  parameters : ∀ ms, doc.get? "parameters" = some (.map ms) → ∀ m ∈ ms, TypedKeeps M m.2
  responses : ∀ ms, doc.get? "responses" = some (.map ms) →
    ∀ m ∈ ms, ∀ u, response m.2 = .ok u → M (m.1, u)
  paths : ∀ ms, doc.get? "paths" = some (.map ms) → ∀ m ∈ ms, ∀ item, m.2 = .map item →
    ∀ out, pathItem (bodyNames (sharedOf doc)) item = .ok out → Keeps M out
  schemes : ∀ ms, doc.get? "securityDefinitions" = some (.map ms) → ∀ m ∈ ms, TypedKeeps M m.2
  beside : ∀ m ∈ doc, isOneOf sections m.1 = false → M m

namespace Inherited

variable (inh : Inherited P M)

include inh

theorem sharedSection {old new : String} {f : Value → Except Malformed Value} (hn : new ≠ "$ref")
    (h : sharedSection doc old new f = .ok out) (hf : ∀ ms, doc.get? old = some (.map ms) →
      ∀ m ∈ ms, ∀ u, f m.2 = .ok u → M (m.1, u)) : Keeps M out := by
  unfold Swagger.sharedSection at h
  split at h
  · next v hv =>
    obtain ⟨ms, hms, h⟩ := bind_eq_ok_iff.1 h
    obtain ⟨us, hout, h⟩ := bind_eq_ok_iff.1 h
    cases h
    have found := eq_map_of_members hms ▸ get?_of_section? hv
    exact inh.cons_named hn (inh.map (Keeps.of_mapValues hout (hf ms found))) .nil
  · cases h
    exact .nil

theorem sharedParameters {wanted : Members → Bool} {f : Members → Except Malformed Members}
    (h : sharedParameters wanted f ms = .ok out) (typed : ∀ m ∈ ms, TypedKeeps M m.2)
    (hf : ∀ p q, Keeps M p → f p = .ok q → Keeps M q) : Keeps M out := by
  refine .of_collect h fun m hm n hn => ?_
  obtain ⟨p, hp, hn⟩ := bind_eq_ok_iff.1 hn
  split at hn
  · obtain ⟨q, hq, hn⟩ := bind_eq_ok_iff.1 hn
    cases hn
    exact inh.mapMember (hf p q (typed m hm p (eq_map_of_members hp)) hq) m.1
  · cases hn

theorem schemeMembers (h : Keeps M ms) (hout : schemeMembers ms = .ok out) : Keeps M out := by
  unfold Swagger.schemeMembers at hout
  dsimp only at hout
  split at hout
  · cases hout
    exact inh.cons_named (by decide) (inh.plain rfl)
      (inh.cons_named (by decide) (inh.plain rfl) .nil)
  · split at hout
    · obtain ⟨flow, -, hout⟩ := bind_eq_ok_iff.1 hout
      cases hout
      have scopes : Keeps M [named "scopes" ((ms.get? "scopes").getD (.map []))] :=
        inh.cons_named (by decide) (inh.getD h "scopes" (inh.plain rfl)) .nil
      have under (name : String) (hn : name ≠ "$ref") :
          Keeps M ((ms.get? name).map (named name)).toList :=
        inh.toList h name fun _ hv => inh.cons_named hn hv .nil
      have details := (scopes.append (under "authorizationUrl" (by decide))).append
        (under "tokenUrl" (by decide))
      have flows : Keeps M [(flow, .map _)] :=
        List.forall_mem_singleton.2 (inh.mapMember details flow)
      exact inh.cons_named (by decide) (inh.plain rfl)
        (inh.cons_named (by decide) (inh.map flows) .nil)
    · cases hout
      exact h.filter _

theorem securityScheme (h : TypedKeeps M v) (hu : securityScheme v = .ok u) :
    ∃ ms, u = .map ms ∧ Keeps M ms := by
  obtain ⟨scheme, hs, hu⟩ := bind_eq_ok_iff.1 hu
  obtain ⟨members, hm, hu⟩ := bind_eq_ok_iff.1 hu
  cases hu
  have own : Keeps M scheme := h scheme (eq_map_of_members hs)
  have description : Keeps M [named "description" (Swagger.getOrNull scheme "description")] :=
    inh.cons_named (by decide) (inh.getOrNull own "description") .nil
  exact ⟨_, rfl, (inh.schemeMembers own hm).append description.present⟩

theorem components (h : DocumentKeeps P M doc) (hout : components doc = .ok out) :
    Keeps M out := by
  unfold Swagger.components at hout
  obtain ⟨shared, hs, hout⟩ := bind_eq_ok_iff.1 hout
  obtain ⟨ps, hps, hout⟩ := bind_eq_ok_iff.1 hout
  obtain ⟨bs, hbs, hout⟩ := bind_eq_ok_iff.1 hout
  obtain ⟨rs, hrs, hout⟩ := bind_eq_ok_iff.1 hout
  obtain ⟨ss, hss, hout⟩ := bind_eq_ok_iff.1 hout
  cases hout
  have typed : ∀ m ∈ shared, TypedKeeps M m.2 := fun m hm =>
    h.parameters shared (get?_of_sectionMembers hs hm) m hm
  have schemas : Keeps M ((section? doc "definitions").map (named "schemas")).toList := by
    cases hd : section? doc "definitions" with
    | none => exact .nil
    | some v => exact inh.cons_named (by decide) (h.definitions v (get?_of_section? hd)) .nil
  have parameters := inh.sharedParameters hps typed fun _ _ hp hq => inh.parameter hp hq
  have bodies := inh.sharedParameters hbs typed fun _ _ hp hq => Except.ok.inj hq ▸ inh.body hp
  have responses := inh.sharedSection (by decide) hrs h.responses
  have schemes : Keeps M ss := by
    refine inh.sharedSection (by decide) hss fun ms hg m hm u hu => ?_
    obtain ⟨us, rfl, kept⟩ := inh.securityScheme (h.schemes ms hg m hm) hu
    exact inh.mapMember kept m.1
  exact (((schemas.append (inh.unlessEmpty (by decide) parameters)).append
    (inh.unlessEmpty (by decide) bodies)).append responses).append schemes

theorem servers {served : List Value} (h : servers doc = .ok served) : ∀ v ∈ served, P v := by
  unfold Swagger.servers at h
  split at h
  · cases h
    exact nofun
  · obtain ⟨schemes, -, h⟩ := bind_eq_ok_iff.1 h
    intro v hv
    obtain ⟨s, -, hs⟩ := exists_of_forall₂_of_mem_left (forall₂_of_mapM h).flip hv
    exact inh.plain (plain_server hs)

/-- The assembled document has the property if its parts have it. -/
theorem assemble {version : String} (h : DocumentKeeps P M doc)
    (hout : assemble version doc = .ok out) : Keeps M out := by
  unfold Swagger.assemble at hout
  obtain ⟨served, hserved, hout⟩ := bind_eq_ok_iff.1 hout
  obtain ⟨shared, hshared, hout⟩ := bind_eq_ok_iff.1 hout
  obtain ⟨paths, hpaths, hout⟩ := bind_eq_ok_iff.1 hout
  obtain ⟨items, hitems, hout⟩ := bind_eq_ok_iff.1 hout
  obtain ⟨comps, hcomps, hout⟩ := bind_eq_ok_iff.1 hout
  cases hout
  have names : bodyNames (sharedOf doc) = bodyNames shared := by
    rw [sharedOf, hshared]
    rfl
  have converted : Keeps M items := by
    refine .of_collect hitems fun m hm n hn => ?_
    unfold path at hn
    split at hn
    · next item hv =>
      obtain ⟨out, hout, hn⟩ := bind_eq_ok_iff.1 hn
      cases hn
      have found := get?_of_sectionMembers hpaths hm
      exact inh.mapMember (h.paths paths found m hm item hv out (names ▸ hout)) m.1
    · cases hn
  have info : P ((doc.get? "info").getD (.map [])) := by
    cases hg : doc.get? "info" with
    | none => exact inh.plain rfl
    | some v => exact inh.value (h.beside _ (Members.mem_of_get? hg) rfl)
  have head : Keeps M
      [named "openapi" (.str version), named "info" ((doc.get? "info").getD (.map []))] :=
    inh.cons_named (by decide) (inh.plain rfl) (inh.cons_named (by decide) info .nil)
  have servers : Keeps M (if served.isEmpty then [] else [named "servers" (.list served)]) := by
    split
    · exact .nil
    · exact inh.cons_named (by decide) (inh.list (inh.servers hserved)) .nil
  have paths : Keeps M [named "paths" (.map items)] :=
    inh.cons_named (by decide) (inh.map converted) .nil
  have components := inh.unlessEmpty (by decide : "components" ≠ "$ref") (inh.components h hcomps)
  refine (((head.append servers).append paths).append components).append fun m hm => ?_
  obtain ⟨hm, hk⟩ := List.mem_filter.1 hm
  exact h.beside m hm (isOneOf_of_kept (by decide) hk)

end Inherited

end ApiAccord.Swagger
