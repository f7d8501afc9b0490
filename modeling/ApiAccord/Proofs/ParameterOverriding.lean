import ApiAccord.Proofs.Conversion.DirectReading

/-!
# Parameters of a path and of its operation

An operation has the parameters that its own entries declare, after those of its path that it does
not replace.  An entry is replaced by one with the same key, which is made of the `name` and `in`
members as they stand in the document (`operation_reads`).  What is read from an entry is named
otherwise: a name may be any scalar, which is written out, and without `in` the place is the query
(`declared?`).

`Overrides` is overriding by what is read: no parameter of the path has the name and place of one of
the operation, and none other is lost.  It holds just if the two ways of naming agree on the entries
at hand (`overrides_iff`).
-/

namespace ApiAccord.OperationReading

variable {p q : Members} {ps shared own : List Members} {r : Parameter} {rs : List Parameter}

/-! ## Entries -/

/-- The entries of the list of parameters of a path item or an operation. -/
def entries (ms : Members) : List Members :=
  mappings ((((ms.get? "parameters").getD (.list [])).items.toOption).getD [])

/-- What identifies a parameter that was read. -/
def identity (r : Parameter) : String × ParameterPlace := (r.name, r.place)

/-- The name and the place of the parameter that an entry declares: it has a name, is in a known
place, and is no reference. -/
def declared? (p : Members) : Option (String × ParameterPlace) := do
  if p.has "$ref" then none
  let name ← p.get? "name"
  let place ← ParameterPlace.ofName? (← ((p.get? "in").getD (.str "query")).str?)
  return (name.display, place)

def declares (p : Members) : Bool := (declared? p).isSome

/-- The parameter that an entry is read as. -/
def Yields (p : Members) (r : Parameter) : Prop := parameter? p = some (.ok r)

/-- Whether the keys of two entries are the same. -/
def sameKey (p q : Members) : Bool :=
  match parameterKey p, parameterKey q with
  | .ok k, .ok l => k.same l
  | _, _ => false

/-- An entry is read just if it declares a parameter, and as one with that name and place. -/
theorem parameter?_rel_declared? (p : Members) :
    Option.Rel (fun c key => ∀ r, c = .ok r → identity r = key) (parameter? p) (declared? p) := by
  unfold parameter? declared?
  simp only [Option.bind_eq_bind]
  split
  · exact .none
  · cases p.get? "name" with
    | none => exact .none
    | some name =>
      simp only [Option.bind_some]
      cases ((p.get? "in").getD (.str "query")).str? with
      | none => exact .none
      | some text =>
        simp only [Option.bind_some]
        cases ParameterPlace.ofName? text with
        | none => exact .none
        | some place =>
          refine Option.Rel.some fun r hr => ?_
          simp only [seq_eq_ok_iff, map_check_eq_ok_iff] at hr
          obtain ⟨_, _, ⟨_, -, rfl⟩, -, rfl⟩ := hr
          rfl

theorem declared?_of_yields (h : Yields p r) : declared? p = some (identity r) := by
  have related := parameter?_rel_declared? p
  rw [Yields] at h
  rw [h] at related
  generalize declared? p = x at related ⊢
  cases related with
  | some hr => rw [hr r rfl]

theorem isSome_parameter? (p : Members) : (parameter? p).isSome = declares p :=
  isSome_eq_of_rel (parameter?_rel_declared? p)

/-! ## Reading -/

theorem forall₂_filterMap {α β : Type} (f : α → Option β) (l : List α) :
    List.Forall₂ (fun a b => f a = some b) (l.filter fun a => (f a).isSome) (l.filterMap f) := by
  induction l with
  | nil => exact .nil
  | cons a rest ih =>
    cases ha : f a with
    | none => simpa [ha] using ih
    | some b => simpa [ha] using ih

/-- The entries that declare parameters are read one by one. -/
theorem yields_of_parameters (h : parameters ps = .ok rs) :
    List.Forall₂ Yields (ps.filter declares) rs := by
  have each := forall₂_filterMap parameter? ps
  simp only [isSome_parameter?] at each
  refine forall₂_trans each (forall₂_of_mapM h) fun p c r hp hr => ?_
  rw [Yields, hp, liftRecord_eq_ok_iff.1 hr]

theorem any_sameKey {k : ParameterKey} {keys : List ParameterKey} (hp : parameterKey p = .ok k)
    (h : List.Forall₂ (fun q l => parameterKey q = .ok l) own keys) :
    keys.any k.same = own.any (sameKey p) := by
  induction h with
  | nil => rfl
  | cons hq _ ih => rw [List.any_cons, List.any_cons, ih, sameKey, hp, hq]

/-- The entries of a path that are left are those whose key no entry of the operation has. -/
theorem kept_eq {keys sharedKeys : List ParameterKey}
    (ho : List.Forall₂ (fun q l => parameterKey q = .ok l) own keys)
    (hs : List.Forall₂ (fun q l => parameterKey q = .ok l) shared sharedKeys) :
    ((shared.zip sharedKeys).filter fun p => !keys.any (ParameterKey.same p.2)).map (·.1) =
      shared.filter fun p => !own.any (sameKey p) := by
  induction hs with
  | nil => rfl
  | cons hp _ ih =>
    rw [List.zip_cons_cons, List.filter_cons, List.filter_cons, any_sameKey hp ho]
    split
    · exact congrArg (_ :: ·) ih
    · exact ih

theorem mergeParameters_eq {v w : Value} {merged : List Members}
    (h : mergeParameters v w = .ok merged) : ∃ vs ws, v.items = .ok vs ∧ w.items = .ok ws ∧
      merged = (mappings vs).filter (fun p => !(mappings ws).any (sameKey p)) ++ mappings ws := by
  obtain ⟨ws, hws, h⟩ := bind_eq_ok_iff.1 h
  obtain ⟨keys, hkeys, h⟩ := bind_eq_ok_iff.1 h
  obtain ⟨vs, hvs, h⟩ := bind_eq_ok_iff.1 h
  obtain ⟨sharedKeys, hshared, h⟩ := bind_eq_ok_iff.1 h
  obtain rfl := Except.ok.inj h
  have kept := kept_eq (forall₂_of_mapM hkeys) (forall₂_of_mapM hshared)
  exact ⟨vs, ws, hvs, hws, congrArg (· ++ _) kept⟩

/-- The parameters are read from the entries of a path that are not replaced, and then from those of
the operation, in their orders. -/
def ReadExcept (replaced : Members → Bool) (shared own : List Members) (rs : List Parameter) :
    Prop :=
  ∃ fromPath fromOwn, rs = fromPath ++ fromOwn ∧
    List.Forall₂ Yields ((shared.filter declares).filter fun p => !replaced p) fromPath ∧
    List.Forall₂ Yields (own.filter declares) fromOwn

/-- An entry of a path is replaced by one with the same key. -/
theorem operation_reads {path : Scalar} {security : Value} {method : HttpMethod}
    {item op : Members} {o : Operation}
    (h : operation path ((item.get? "parameters").getD (.list [])) security method op = .ok o) :
    ReadExcept (fun p => (entries op).any (sameKey p)) (entries item) (entries op)
      o.parameters := by
  obtain ⟨merged, hm, hread, -⟩ := Swagger.operation_inv h
  obtain ⟨vs, ws, hvs, hws, rfl⟩ := mergeParameters_eq hm
  have shared : entries item = mappings vs := by rw [entries, hvs]; rfl
  have own : entries op = mappings ws := by rw [entries, hws]; rfl
  have each := (yields_of_parameters hread).flip
  rw [List.filter_append, List.filter_comm, ← shared, ← own] at each
  exact ⟨_, _, (List.take_append_drop _ _).symm, (List.forall₂_take_append _ _ _ each).flip,
    (List.forall₂_drop_append _ _ _ each).flip⟩

/-! ## Selections with the same keys -/

section Selections

variable {α κ : Type} [DecidableEq κ] {key : α → κ} {f g : α → Bool} {l : List α}

theorem count_map_filter (k : κ) : ((l.filter f).map key).count k =
    ((l.filter fun a => key a == k).filter f).length := by
  rw [List.count_eq_countP, List.countP_map, List.countP_eq_length_filter, List.filter_comm]
  rfl

/-- Two selections from a list, one of which goes by the key, have the same keys only if they are
the same. -/
theorem eq_of_map_filter (same : (l.filter f).map key = (l.filter g).map key)
    (byKey : ∀ a b, key a = key b → g a = g b) {a : α} (ha : a ∈ l) : f a = g a := by
  cases hg : g a with
  | false =>
    -- Nothing with this key is left, so that this is not left either.
    by_contra kept
    have left : key a ∈ (l.filter f).map key :=
      List.mem_map_of_mem (List.mem_filter.2 ⟨ha, by simpa using kept⟩)
    rw [same] at left
    obtain ⟨b, hb, e⟩ := List.mem_map.1 left
    have selected := List.of_mem_filter hb
    rw [byKey b a e, hg] at selected
    cases selected
  | true =>
    -- All with this key are left, and so as many are.
    have counts := congrArg (List.count (key a)) same
    have kept : ∀ b ∈ l.filter (fun b => key b == key a), g b = true := by
      intro b hb
      have e : key b = key a := by simpa using List.of_mem_filter hb
      rw [byKey b a e, hg]
    rw [count_map_filter, count_map_filter, List.filter_eq_self.2 kept,
      List.length_filter_eq_length_iff] at counts
    exact counts a (List.mem_filter.2 ⟨ha, beq_self_eq_true _⟩)

end Selections

/-! ## Overriding -/

/-- The parameters of an operation override those of its path: each of its entries that declares one
is read, and those of the path whose name and place none of these has. -/
def Overrides (shared own : List Members) (rs : List Parameter) : Prop :=
  ∃ fromPath fromOwn, rs = fromPath ++ fromOwn ∧
    (∀ r ∈ fromPath, ∀ s ∈ fromOwn, identity r ≠ identity s) ∧
    List.Forall₂ Yields (own.filter declares) fromOwn ∧
    List.Forall₂ Yields ((shared.filter declares).filter fun p =>
      !fromOwn.any fun s => declared? p == some (identity s)) fromPath

/-- Whether one of some entries declares the name and place that another declares. -/
def hasNamesake (own : List Members) (p : Members) : Bool :=
  own.any fun q => declared? q == declared? p

/-- For each entry of a path that declares a parameter, one of the operation has the same key just
if one is read with the same name and place. -/
def KeysAgree (shared own : List Members) : Prop :=
  ∀ p ∈ shared, declares p = true → own.any (sameKey p) = hasNamesake own p

theorem any_identity {fromOwn : List Parameter}
    (h : List.Forall₂ Yields (own.filter declares) fromOwn) (hp : declares p = true) :
    (fromOwn.any fun s => declared? p == some (identity s)) = hasNamesake own p := by
  rw [Bool.eq_iff_iff, hasNamesake, List.any_eq_true, List.any_eq_true]
  constructor
  · rintro ⟨s, hs, same⟩
    obtain ⟨q, hq, yields⟩ := exists_of_forall₂_of_mem_left h.flip hs
    exact ⟨q, List.mem_of_mem_filter hq, by rw [declared?_of_yields yields, BEq.comm]; exact same⟩
  · rintro ⟨q, hq, same⟩
    have hq' : declares q = true := by rwa [declares, beq_iff_eq.1 same]
    obtain ⟨s, hs, yields⟩ := exists_of_forall₂_of_mem_left h (List.mem_filter.2 ⟨hq, hq'⟩)
    exact ⟨s, hs, by rw [← declared?_of_yields yields, BEq.comm]; exact same⟩

/-- Overriding is replacing the entries that have a namesake. -/
theorem overrides_iff_readExcept :
    Overrides shared own rs ↔ ReadExcept (hasNamesake own) shared own rs := by
  have replaced {fromOwn : List Parameter}
      (h : List.Forall₂ Yields (own.filter declares) fromOwn) :
      ((shared.filter declares).filter fun p =>
        !fromOwn.any fun s => declared? p == some (identity s)) =
      (shared.filter declares).filter fun p => !hasNamesake own p :=
    List.filter_congr fun p hp => by rw [any_identity h (List.of_mem_filter hp)]
  constructor
  · rintro ⟨fromPath, fromOwn, rfl, -, ho, hp⟩
    exact ⟨fromPath, fromOwn, rfl, replaced ho ▸ hp, ho⟩
  · rintro ⟨fromPath, fromOwn, rfl, hp, ho⟩
    refine ⟨fromPath, fromOwn, rfl, fun r hr s hs same => ?_, ho, replaced ho ▸ hp⟩
    obtain ⟨p, hp, yields⟩ := exists_of_forall₂_of_mem_left hp.flip hr
    obtain ⟨q, hq, yields'⟩ := exists_of_forall₂_of_mem_left ho.flip hs
    have alone : hasNamesake own p = false := by simpa using List.of_mem_filter hp
    have found : hasNamesake own p = true := List.any_eq_true.2
      ⟨q, List.mem_of_mem_filter hq, by
        rw [declared?_of_yields yields, declared?_of_yields yields', same, beq_self_eq_true]⟩
    rw [alone] at found
    cases found

theorem declared?_map (h : List.Forall₂ Yields ps rs) :
    ps.map declared? = rs.map fun r => some (identity r) := by
  induction h with
  | nil => rfl
  | cons hp _ ih => rw [List.map_cons, List.map_cons, declared?_of_yields hp, ih]

/-- The two ways of replacing entries read the same only if they replace the same entries. -/
theorem keysAgree_of_readExcept (h : ReadExcept (fun p => own.any (sameKey p)) shared own rs)
    (h' : ReadExcept (hasNamesake own) shared own rs) : KeysAgree shared own := by
  obtain ⟨fromPath, fromOwn, hrs, hp, ho⟩ := h
  obtain ⟨fromPath', fromOwn', hrs', hp', ho'⟩ := h'
  obtain ⟨rfl, -⟩ := List.append_inj' (hrs.symm.trans hrs') (ho.length_eq.symm.trans ho'.length_eq)
  have names := (declared?_map hp).trans (declared?_map hp').symm
  have byName (p q : Members) (same : declared? p = declared? q) :
      (!hasNamesake own p) = !hasNamesake own q := by
    rw [hasNamesake, same, ← hasNamesake]
  intro p hm declared
  exact Bool.not_inj (eq_of_map_filter names byName (List.mem_filter.2 ⟨hm, declared⟩))

/-- Overriding by key is overriding by what is read just if the two ways of naming agree. -/
theorem overrides_iff (h : ReadExcept (fun p => own.any (sameKey p)) shared own rs) :
    Overrides shared own rs ↔ KeysAgree shared own := by
  rw [overrides_iff_readExcept]
  refine ⟨keysAgree_of_readExcept h, fun agree => ?_⟩
  obtain ⟨fromPath, fromOwn, hrs, hp, ho⟩ := h
  refine ⟨fromPath, fromOwn, hrs, ?_, ho⟩
  rwa [List.filter_congr fun p hm => by
    rw [← agree p (List.mem_of_mem_filter hm) (List.of_mem_filter hm)]]

/-! ## Entries that say their name and place -/

/-- The entry says its name and its place, both in texts. -/
def SaysTexts (p : Members) : Prop :=
  ∃ name place, p.get? "name" = some (.str name) ∧ p.get? "in" = some (.str place)

theorem name_of_ofName? {text : String} {place : ParameterPlace}
    (h : ParameterPlace.ofName? text = some place) : place.name = text := by
  simpa using List.find?_some h

theorem declared?_of_texts {name place : String} (hn : p.get? "name" = some (.str name))
    (hi : p.get? "in" = some (.str place)) (noRef : p.has "$ref" = false) :
    declared? p = (ParameterPlace.ofName? place).map fun x => (name, x) := by
  simp only [declared?, noRef, hn, hi, Option.getD_some, Value.str?, Bool.false_eq_true, if_false,
    Option.bind_eq_bind, Option.bind_some]
  cases ParameterPlace.ofName? place <;> rfl

theorem noRef_of_declares (h : declares p = true) : p.has "$ref" = false := by
  cases ref : p.has "$ref" with
  | false => rfl
  | true =>
    rw [declares, declared?, if_pos ref] at h
    cases h

/-- The keys of entries name what is read from them if both are texts. -/
theorem keysAgree_of_texts (hs : ∀ p ∈ shared, SaysTexts p)
    (ho : ∀ q ∈ own, SaysTexts q ∧ q.has "$ref" = false) : KeysAgree shared own := by
  intro p hp declared
  obtain ⟨name, place, hn, hi⟩ := hs p hp
  have named := declared?_of_texts hn hi (noRef_of_declares declared)
  rw [declares, named, Option.isSome_map] at declared
  obtain ⟨known, hk⟩ := Option.isSome_iff_exists.1 declared
  rw [hasNamesake, Bool.eq_iff_iff, List.any_eq_true, List.any_eq_true]
  refine exists_congr fun q => and_congr_right fun hq => ?_
  obtain ⟨⟨name', place', hn', hi'⟩, noRef'⟩ := ho q hq
  have same : sameKey p q = (name == name' && place == place') := by
    simp [sameKey, parameterKey, keyPart, hn, hi, hn', hi', ParameterKey.same, Scalar.same, bind,
      Except.bind, pure, Except.pure]
  rw [same, declared?_of_texts hn' hi' noRef', named, hk, Option.map_some, Bool.and_eq_true,
    beq_iff_eq, beq_iff_eq, beq_iff_eq]
  constructor
  · rintro ⟨rfl, rfl⟩
    rw [hk]
    rfl
  · intro h
    obtain ⟨found, hf, e⟩ := Option.map_eq_some_iff.1 h
    obtain ⟨rfl, rfl⟩ := Prod.mk.inj e
    exact ⟨rfl, (name_of_ofName? hk).symm.trans (name_of_ofName? hf)⟩

/-- An operation with its path's parameters: an entry of the path is replaced by one of the
operation with the same key; so the operation's parameters override those of its path just if keys
and what is read agree on which entries have a namesake, and they do when all entries say their name
and place in texts and none of the operation is a reference. -/
theorem operation_overrides_iff {path : Scalar} {security : Value} {method : HttpMethod}
    {item op : Members} {o : Operation}
    (h : operation path ((item.get? "parameters").getD (.list [])) security method op = .ok o) :
    ReadExcept (fun p => (entries op).any (sameKey p)) (entries item) (entries op) o.parameters ∧
      (Overrides (entries item) (entries op) o.parameters ↔
        KeysAgree (entries item) (entries op)) ∧
      ((∀ p ∈ entries item, SaysTexts p) →
        (∀ q ∈ entries op, SaysTexts q ∧ q.has "$ref" = false) →
        Overrides (entries item) (entries op) o.parameters) := by
  have read := operation_reads h
  have iff := overrides_iff read
  exact ⟨read, iff, fun hs ho => iff.2 (keysAgree_of_texts hs ho)⟩

/-- A path item with a parameter in its path and one in a header. -/
def tracedItem : Members :=
  [(.str "parameters", .list [
    .ofNamed [("name", .str "id"), ("in", .str "path"), ("description", .str "path-level")],
    .ofNamed [("name", .str "trace"), ("in", .str "header")]])]

/-- An operation with its own parameter in the path. -/
def describedOperation : Members :=
  [(.str "parameters", .list [
    .ofNamed [("name", .str "id"), ("in", .str "path"), ("description", .str "op-level")]])]

theorem operation_overrides_iff_traced : ∃ o,
    operation (.str "/a") ((tracedItem.get? "parameters").getD (.list [])) .null .get
      describedOperation = .ok o ∧
    o.parameters.map identity = [("trace", .header), ("id", .path)] ∧
    Overrides (entries tracedItem) (entries describedOperation) o.parameters :=
  have read : operation (.str "/a") ((tracedItem.get? "parameters").getD (.list [])) .null .get
      describedOperation = .ok {
        path := "/a", method := .get, operationId := none, summary := none, tags := [],
        parameters := [⟨"trace", .header, false, none, none, none⟩,
          ⟨"id", .path, true, some "op-level", none, none⟩],
        requestBody := none, responses := [], security := none, deprecated := false } := rfl
  ⟨_, read, rfl, (operation_overrides_iff read).2.2
    (fun p hp => by
      obtain rfl | rfl := List.mem_pair.1 (show p ∈ [_, _] from hp)
      · exact ⟨"id", "path", rfl, rfl⟩
      · exact ⟨"trace", "header", rfl, rfl⟩)
    (fun q hq => by
      obtain rfl := List.mem_singleton.1 (show q ∈ [_] from hq)
      exact ⟨⟨"id", "path", rfl, rfl⟩, rfl⟩)⟩

/-- A path item whose parameter does not say its place, which is the query then. -/
def unsaidItem : Members :=
  [(.str "parameters", .list [.ofNamed [("name", .str "id"),
    ("schema", .ofNamed [("type", .str "integer")])]])]

/-- An operation with a parameter of the same name that says so. -/
def saidOperation : Members :=
  [(.str "parameters", .list [.ofNamed [("name", .str "id"), ("in", .str "query"),
    ("schema", .ofNamed [("type", .str "string")])]])]

/-- Both parameters are read, with the same name and place. -/
theorem not_overrides_of_unsaid_place : ∃ o,
    operation (.str "/pets") ((unsaidItem.get? "parameters").getD (.list [])) .null .get
      saidOperation = .ok o ∧
    o.parameters.map identity = [("id", .query), ("id", .query)] ∧
    ¬ Overrides (entries unsaidItem) (entries saidOperation) o.parameters := by
  have read : operation (.str "/pets") ((unsaidItem.get? "parameters").getD (.list [])) .null .get
      saidOperation = .ok {
        path := "/pets", method := .get, operationId := none, summary := none, tags := [],
        parameters :=
          [⟨"id", .query, false, none, some "integer", some [(.str "type", .str "integer")]⟩,
            ⟨"id", .query, false, none, some "string", some [(.str "type", .str "string")]⟩],
        requestBody := none, responses := [], security := none, deprecated := false } := rfl
  refine ⟨_, read, rfl, fun overrides => ?_⟩
  have agree := (overrides_iff (operation_reads read)).1 overrides _ (List.mem_singleton_self _) rfl
  exact absurd agree (by decide)

end ApiAccord.OperationReading
