import ApiAccord.Proofs.Conversion.Splitting
import ApiAccord.Proofs.Store.Transparency

/-!
# Specifications split over several files

A file can refer to mappings in other files.  When each of these references is replaced by the
mapping that it leads to, the same operations are read from the file, if no other reference has its
way through one of them (`Workspace.PutInPlace`).  A Swagger document is converted before references
are followed, so that what is in other files is not: there it has to be parameters and responses
that are read as if they were converted (`Workspace.LightInPlace`).
-/

namespace ApiAccord

open Reference

/-- The operations of a specification, if there is one. -/
def operationsOf (outcome : Except Failure Spec) : Option (List Operation) :=
  outcome.toOption.map (·.operations)

theorem operationsOf_eq {x y : Except Failure Spec} (h : Together SameOperations x y) :
    operationsOf x = operationsOf y := by
  obtain ⟨e, e', rfl, rfl⟩ | ⟨s, s', rfl, rfl, hs⟩ := h.failed_or_ok
  · rfl
  · exact congrArg some hs

/-! ## What mappings references lead to -/

namespace Workspace

variable {ws ws' : Workspace} {o : ResolveOptions} {base : Option String}
  {doc doc' modern modern' : Value}

/-- The reference `ref`, in a document at `base`, leads to a mapping in another document. -/
def LeadsTo (ws : Workspace) (o : ResolveOptions) : Leading := fun base ref obj =>
  ∃ l pointer d, split o base ref = .ok ⟨some l, pointer⟩ ∧ ws.document l = .ok d ∧
    Pointer.resolve ref pointer d = .ok (.map obj)

theorem sound_leadsTo (ws : Workspace) (o : ResolveOptions) (base : Option String) (doc : Value) :
    Sound o (ws.LeadsTo o) (ws.shelf o base doc) (startOf o base doc) := by
  rintro here ref obj hr ⟨l, pointer, d, ht, hd, hv⟩
  have load : (ws.shelf o base doc).load l = ws.document l := load_shelf ⟨here, ref, _, hr, ht, rfl⟩
  refine ⟨⟨d, some l⟩, pointer, _, ht, rfl, ?_, hv⟩
  simp only [placeOf, load, hd]

theorem outward_leadsTo (ws : Workspace) (o : ResolveOptions) (base : Option String) :
    Swagger.Outward (ws.LeadsTo o base) := by
  rintro ref obj ⟨l, pointer, d, ht, -, -⟩
  unfold split at ht
  split at ht
  · cases ht
  · assumption

/-- What two workspaces have where references lead. -/
theorem shelved_of_documents {R : String → Value → Value → Prop}
    (h : ∀ l, ReachesLocation o (ws.shelf o base doc) (startOf o base doc) l →
      Together (R l) (ws.document l) (ws'.document l)) :
    Shelved o R (ws.shelf o base doc) (ws'.shelf o base doc') (startOf o base doc)
      (startOf o base doc') := by
  intro l hl hl'
  rw [load_shelf hl, load_shelf hl']
  exact h l hl

/-! ## Mappings in the place of references -/

/-- `doc'`, in one workspace, is what comes of `doc`, in another one, when references into other
documents are replaced by the mappings that they lead to, in `doc` itself and wherever references
lead.  No other reference has its way through one of them. -/
structure PutInPlace (ws ws' : Workspace) (o : ResolveOptions) (base : Option String)
    (doc doc' : Value) : Prop where
  inlines : Inlines (ws.LeadsTo o (plainBase o base)) doc doc'
  others : ∀ l, ReachesLocation o (ws.shelf o base doc) (startOf o base doc) l →
    Together (Inlines (ws.LeadsTo o (some l))) (ws.document l) (ws'.document l)
  direct : DirectWays o (ws.shelf o base doc) (startOf o base doc)
  apart : KeysApart o (ws.shelf o base doc) (startOf o base doc)

theorem PutInPlace.resolve_iff (strict : o.tolerant = false)
    (h : PutInPlace ws ws' o base doc doc') {r : Resolved} :
    Reference.resolve o (ws.shelf o base doc) base doc = .ok r ↔
      Reference.resolve o (ws'.shelf o base doc') base doc' = .ok r :=
  resolve_inlines_iff strict h.apart h.direct (shelved_of_documents h.others)
    (sound_leadsTo ws o base doc) h.inlines

/-- `doc'` is what comes of `doc` when entries of lists of parameters and of responses that are
references into other documents are replaced by the mappings that they lead to.  These are read as
if they were converted, and no reference in the converted document leads into its paths. -/
structure LightInPlace (ws ws' : Workspace) (o : ResolveOptions) (base : Option String)
    (doc doc' : Value) : Prop where
  entries : Resembles (Swagger.BeforeParameter (ws.LeadsTo o (plainBase o base)))
    (Swagger.BeforeResponse (ws.LeadsTo o (plainBase o base))) doc doc'
  others : ∀ modern, Spec.modernize .swagger doc = .ok modern →
    ∀ l, ReachesLocation o (ws.shelf o base modern) (startOf o base modern) l →
      ws.document l = ws'.document l ∨
        plainBase o base = some l ∧ ws.document l = .ok doc ∧ ws'.document l = .ok doc'
  ways : ∀ modern, Spec.modernize .swagger doc = .ok modern →
    WaysLeaveOut o (ws.shelf o base modern) (startOf o base modern) "paths"

theorem sameBeside_of_resembles {P Q : Value → Value → Prop} (h : Resembles P Q doc doc') :
    SameBeside "paths" doc doc' := by
  cases h with
  | same => exact .same _
  | map h => exact .map fun other => get?_eq_of_likeDocument h

theorem LightInPlace.resolved (strict : o.tolerant = false)
    (h : LightInPlace ws ws' o base doc doc') (hm : Spec.modernize .swagger doc = .ok modern)
    (converted : Resembles (Swagger.AfterParameter (ws.LeadsTo o (plainBase o base)))
      (Swagger.AfterResponse (ws.LeadsTo o (plainBase o base))) modern modern') :
    Together (fun r r' => OperationReading.ReadAlike r.1 r'.1)
      (Reference.resolve o (ws.shelf o base modern) base modern)
      (Reference.resolve o (ws'.shelf o base modern') base modern') := by
  have docs : Shelved o (fun l d d' => d = d' ∨
      some l = plainBase o base ∧ SameBeside "paths" d d') (ws.shelf o base modern)
      (ws'.shelf o base modern') (startOf o base modern) (startOf o base modern') := by
    refine shelved_of_documents fun l hl => ?_
    rcases h.others modern hm l hl with same | ⟨hb, hd, hd'⟩
    · exact same ▸ .refl (fun _ => .inl rfl) _
    · rw [hd, hd']
      exact .pure (.inr ⟨hb.symm, sameBeside_of_resembles h.entries⟩)
  have step := inStep_sameBeside (h.ways modern hm) docs
  have start : SamePlaceBeside "paths" (plainBase o base) (startOf o base modern)
      (startOf o base modern') :=
    ⟨rfl, .inr ⟨rfl, sameBeside_of_resembles converted⟩⟩
  have enough := Nat.le_max_left (bound (ws.shelf o base modern) modern)
    (bound (ws'.shelf o base modern') modern')
  have enough' := Nat.le_max_right (bound (ws.shelf o base modern) modern)
    (bound (ws'.shelf o base modern') modern')
  rw [← resolveValue_eq_resolve enough, ← resolveValue_eq_resolve enough']
  exact lift_resembles strict step start enough (sound_leadsTo ws o base modern)
    Swagger.plainBoth_parameter Swagger.plainBoth_response ⟨.root, .root⟩ converted

/-- Mappings stand in the place of references, as it is right for a document of this family. -/
inductive InPlace (ws ws' : Workspace) (o : ResolveOptions) (base : Option String)
    (doc doc' : Value) : SpecFormat → Prop where
  | openapi : PutInPlace ws ws' o base doc doc' → InPlace ws ws' o base doc doc' .openapi
  | swagger : LightInPlace ws ws' o base doc doc' → InPlace ws ws' o base doc doc' .swagger

end Workspace

/-! ## Loading -/

namespace Library

variable {ws ws' : Workspace} {o : LoadOptions} {base : Option String} {doc doc' : Value}
  {format : SpecFormat} {version version' : String}

/-- The failure that a stop of the resolution is. -/
def failureOf : Stop → Failure
  | .ref e => .ref e
  | .malformed m => .malformed m

/-- What is read from a document in the newer family. -/
def specOfModern (ws : Workspace) (o : LoadOptions) (base : Option String) (format : SpecFormat)
    (version : String) (modern : Value) : Except Failure Spec :=
  ((Reference.resolve (resolveOptions ws o) (ws.shelf (resolveOptions ws o) base modern) base
    modern).mapError failureOf).bind fun r => Spec.ofDocument format version modern r.1 base

theorem specOf_outcome (hd : o.dereference = true)
    (hf : Document.detectFormat doc = .ok (format, version)) :
    (specOf ws o base doc).outcome =
      (Spec.modernize format doc).bind (specOfModern ws o base format version) := by
  rw [specOf, Spec.ofAnyDocument, Noted.outcome_ofExcept_bind, hf]
  refine (Noted.outcome_ofExcept_bind _ _).trans (congrArg _ (funext fun modern => ?_))
  unfold resolveNoting specOfModern resolveOptions
  rw [if_pos hd]
  dsimp only
  rcases Reference.resolve _ _ base modern with (e | m) | ⟨w, left⟩ <;> rfl

theorem specOfModern_together {modern modern' : Value}
    (h : Together (fun r r' => OperationReading.ReadAlike r.1 r'.1)
      (Reference.resolve (resolveOptions ws o) (ws.shelf (resolveOptions ws o) base modern) base
        modern)
      (Reference.resolve (resolveOptions ws' o) (ws'.shelf (resolveOptions ws' o) base modern') base
        modern')) :
    Together SameOperations (specOfModern ws o base format version modern)
      (specOfModern ws' o base format version' modern') := by
  refine .bind h.mapError fun r r' hr => Spec.ofDocument_together hr _ _ _ _ _ _ _

theorem operationsOf_specOf_eq (here : ws'.here = ws.here) (hd : o.dereference = true)
    (strict : o.tolerant = false) (hf : Document.detectFormat doc = .ok (format, version))
    (hf' : Document.detectFormat doc' = .ok (format, version'))
    (put : Workspace.InPlace ws ws' (resolveOptions ws o) base doc doc' format) :
    operationsOf (specOf ws o base doc).outcome =
      operationsOf (specOf ws' o base doc').outcome := by
  have options : resolveOptions ws' o = resolveOptions ws o := by
    rw [resolveOptions, resolveOptions, here]
  rw [specOf_outcome hd hf, specOf_outcome hd hf']
  refine operationsOf_eq ?_
  cases put with
  | openapi put =>
    refine specOfModern_together ?_
    rw [options]
    exact .of_iff (fun r => put.resolve_iff strict) fun r => .same r.1
  | swagger put =>
    have converted := Swagger.convert_together (Workspace.outward_leadsTo ws _ _) "3.0" put.entries
    have modern := (converted.map fun _ _ hc => Similar.map hc).of_ok
      fun modern modern' hm _ hr => And.intro (hm : Spec.modernize .swagger doc = .ok modern) hr
    refine .bind modern fun modern modern' hm => specOfModern_together ?_
    rw [options]
    exact put.resolved strict hm.1 hm.2

end Library

/-! ## Loading a file -/

namespace Session

open Library (fileKey fileOutcome)

variable {ws ws' : Workspace} {location : String} {path : Path} {doc doc' : Value}
  {format : SpecFormat}

/-- The file at a location holds a document of a family. -/
structure Holds (ws : Workspace) (location : String) (path : Path) (doc : Value)
    (format : SpecFormat) : Prop where
  named : pathOf? ws location = some path
  noHyphen : path.text ≠ "-"
  document : ws.document path.text = .ok doc
  family : ∃ version, Document.detectFormat doc = .ok (format, version)

/-- Loading a file gives the same operations as loading one with mappings in the place of references
to them. -/
theorem operations_of_inPlace (here : ws'.here = ws.here) (h : Holds ws location path doc format)
    (h' : Holds ws' location path doc' format)
    (put : Workspace.InPlace ws ws' (Library.resolveOptions ws .default) (some (fileKey ws path))
      doc doc' format) :
    operationsOf (plainOutcome ws .default (.location location)) =
      operationsOf (plainOutcome ws' .default (.location location)) := by
  obtain ⟨version, hf⟩ := h.family
  obtain ⟨version', hf'⟩ := h'.family
  have key : fileKey ws' path = fileKey ws path := by
    rw [fileKey, fileKey, Workspace.resolve, Workspace.resolve, here]
  rw [plainOutcome_file h.named h.noHyphen, plainOutcome_file h'.named h'.noHyphen, fileOutcome,
    fileOutcome, h.document, h'.document, key]
  exact Library.operationsOf_specOf_eq here rfl rfl hf hf' put

/-! ## A parameter in another file -/

/-- A document with one operation, which has one parameter. -/
def petsText (family version entry : String) : String :=
  "\x7b\"" ++ family ++ "\": \"" ++ version ++ "\", \"paths\": \x7b\"/pets\": \x7b\"get\": " ++
    "\x7b\"parameters\": [" ++ entry ++ "], \"responses\": \x7b\x7d\x7d\x7d\x7d\x7d"

def pets (family version : String) (entry : Value) : Value :=
  .ofNamed [(family, .str version), ("paths", .ofNamed [("/pets", .ofNamed [("get",
    .ofNamed [("parameters", .list [entry]), ("responses", .map [])])])])]

/-- The parameter, and what is said of its type. -/
def limitText (type : String) : String :=
  "\x7b\"name\": \"limit\", \"in\": \"query\"" ++ type ++ "\x7d"

def limit : Members := [Swagger.named "name" (.str "limit"), Swagger.named "in" (.str "query")]

def referenceText : String := "\x7b\"$ref\": \"common.json#/limit\"\x7d"

def reference : Value := .map (Swagger.refMembers "common.json#/limit")

/-- A directory with a document, and another one that holds the parameter. -/
def folder (main type : String) : Workspace where
  files :=
    ⟨[(["w", "main.json"], contentOf main 1),
      (["w", "common.json"], contentOf ("\x7b\"limit\": " ++ limitText type ++ "\x7d") 2)], []⟩
  here := ⟨"/", ["w"]⟩
  home := ⟨"/", ["w"]⟩
  pages := []
  environment := []
  system := "Linux"
  input := ""
  clock := 3
  stores := []

def common : Value := .map [Swagger.named "limit" (.map limit)]

theorem document_eq_of_sameTexts {doc : Value}
    (h : (ws.document location).toOption.any (·.sameTexts doc) = true) :
    ws.document location = .ok doc := by
  cases hd : ws.document location with
  | error e => rw [hd] at h; cases h
  | ok d => rw [hd] at h; rw [Value.eq_of_sameTexts h]

theorem document_common (main : String) :
    (folder main "").document "/w/common.json" = .ok common := by
  have same : (folder main "").document "/w/common.json" =
      (folder "" "").document "/w/common.json" := by
    unfold Workspace.document Workspace.fileDocument
    rfl
  have parsed : ((folder "" "").document "/w/common.json").toOption.any
      (·.sameTexts common) = true := by decide +kernel
  rw [same, document_eq_of_sameTexts parsed]

/-- References are resolved as by default, in the directory. -/
def inFolder : ResolveOptions := ⟨true, false, "/w"⟩

/-- The document in the directory, and the shelf beside it. -/
abbrev atMain (root : Value) : Place := startOf inFolder (some "/w/main.json") root

abbrev besideMain (main : String) (root : Value) : Shelf :=
  (folder main "").shelf inFolder (some "/w/main.json") root

variable {main main' family version : String} {root : Value} {here there : Place}
  {ref pointer l : String} {v : Value}

theorem plainBase_main : plainBase inFolder (some "/w/main.json") = some "/w/main.json" := by
  decide +kernel

theorem split_limit : split inFolder (plainBase inFolder (some "/w/main.json"))
    "common.json#/limit" = .ok ⟨some "/w/common.json", "/limit"⟩ := by
  decide +kernel

theorem resolve_limit :
    Pointer.resolve "common.json#/limit" "/limit" common = .ok (.map limit) := by
  rfl

theorem leadsTo_limit (main : String) :
    (folder main "").LeadsTo inFolder (plainBase inFolder (some "/w/main.json"))
      "common.json#/limit" limit :=
  ⟨_, _, common, split_limit, document_common main, resolve_limit⟩

/-- The only reference of the document at hand leads to the parameter. -/
theorem pointsInto_common (only : refTexts root = ["common.json#/limit"])
    (hr : Reaches inFolder (besideMain main root) (atMain root) (atMain root) ref)
    (h : PointsInto inFolder (besideMain main root) (atMain root) ref there pointer) :
    ref = "common.json#/limit" ∧ there = ⟨common, some "/w/common.json"⟩ ∧ pointer = "/limit" := by
  have known : ref ∈ refTexts root := by
    obtain ⟨visits, ms, way, text⟩ := hr
    exact way.met.2 ref (mem_refTexts_of_refText? text)
  rw [only, List.mem_singleton] at known
  subst known
  obtain ⟨t, ht, rfl, hp⟩ := h
  obtain rfl := Except.ok.inj (ht.symm.trans split_limit)
  have load := Workspace.load_shelf ⟨_, _, _, hr, ht, rfl⟩
  simp only [placeOf, load, document_common] at hp
  exact ⟨rfl, (Except.ok.inj hp).symm, rfl⟩

theorem leadsNoFurther_main (only : refTexts root = ["common.json#/limit"]) :
    LeadsNoFurther inFolder (besideMain main root) (atMain root) := by
  rintro ref there pointer v hr ⟨t, ht, hp, place, hv⟩
  obtain ⟨rfl, rfl, rfl⟩ := pointsInto_common only hr ⟨t, ht, hp, place⟩
  obtain rfl := Except.ok.inj (resolve_limit.symm.trans hv)
  rfl

theorem document_eq_of_reaches (only : refTexts root = ["common.json#/limit"])
    (hl : ReachesLocation inFolder (besideMain main root) (atMain root) l) :
    (folder main "").document l = (folder main' "").document l := by
  obtain ⟨here, ref, t, hr, ht, hl⟩ := hl
  obtain ⟨rfl, known⟩ := (leadsNoFurther_main only).reaches hr
  obtain rfl : ref = "common.json#/limit" := List.mem_singleton.1 (only ▸ known)
  obtain rfl := Except.ok.inj (ht.symm.trans split_limit)
  obtain rfl := Option.some.inj hl
  rw [document_common, document_common]

/-- The parameter in the place of a reference to it. -/
theorem inlines_pets : Inlines ((folder main "").LeadsTo inFolder
    (plainBase inFolder (some "/w/main.json"))) (pets family version reference)
    (pets family version (.map limit)) := by
  have entry : Inlines _ reference (.map limit) := .ref rfl (leadsTo_limit main) rfl
  have one {leads : String → Members → Prop} {k : Scalar} {v w : Value} {rest : Members}
      (h : Inlines leads v w) : Inlines leads (.map ((k, v) :: rest)) (.map ((k, w) :: rest)) :=
    MembersInline.inlines (.cons ⟨rfl, h⟩ (Members.Rel.refl (R := fun _ => Inlines leads)
      (fun _ => .refl) rest))
  have list : Inlines _ (.list [reference]) (.list [.map limit]) :=
    inlines_list_iff.2 ⟨_, rfl, .cons entry .nil⟩
  exact MembersInline.inlines (.cons ⟨rfl, .refl _⟩ (.cons ⟨rfl, one (one (one list))⟩ .nil))

theorem putInPlace_pets : Workspace.PutInPlace (folder main "") (folder main' "") inFolder
    (some "/w/main.json") (pets "openapi" "3.0" reference) (pets "openapi" "3.0" (.map limit)) := by
  have only : refTexts (pets "openapi" "3.0" reference) = ["common.json#/limit"] := rfl
  refine ⟨inlines_pets, fun l hl => ?_, fun here ref there pointer hr hp => ?_,
    (leadsNoFurther_main only).keysApart⟩
  · rw [document_eq_of_reaches only hl]
    exact .refl .refl _
  · obtain ⟨rfl, -⟩ := (leadsNoFurther_main only).reaches hr
    obtain ⟨rfl, rfl, rfl⟩ := pointsInto_common only hr hp
    have segments : Pointer.segments? "/limit" = some ["limit"] := by decide +kernel
    intro parts hparts
    obtain rfl := Option.some.inj (segments.symm.trans hparts)
    exact ⟨fun ms h => Value.map.inj h ▸ rfl, fun _ _ => trivial⟩

theorem lightParameter_limit : Swagger.LightParameter limit := by
  have said {name : String} {s : String} (h : limit.get? name = some (.str s)) :
      limit.get? name ≠ some .null := by
    rw [h]
    exact fun h => nomatch h
  exact Swagger.lightParameter_of_untyped rfl rfl rfl rfl (said rfl) (said rfl) rfl

theorem resembles_pets {P Q : Value → Value → Prop} {v w : Value} (h : P v w) :
    Resembles P Q (pets family version v) (pets family version w) := by
  have operation : Similar (LikeOperation P Q)
      (.ofNamed [("parameters", .list [v]), ("responses", .map [])])
      (.ofNamed [("parameters", .list [w]), ("responses", .map [])]) :=
    .map (.cons ⟨rfl, .list (.cons h .nil)⟩ (.cons ⟨rfl, .same _⟩ .nil))
  have one {R : Scalar → Value → Value → Prop} {v w : Value} (name : String)
      (h : R (.str name) v w) : Similar R (.ofNamed [(name, v)]) (.ofNamed [(name, w)]) :=
    .map (.cons ⟨rfl, h⟩ .nil)
  have item : Similar (LikeItem P Q) _ _ := one "get" operation
  have paths : Similar (fun _ => Similar (LikeItem P Q)) _ _ := one "/pets" item
  exact .map (.cons ⟨rfl, likeDocument_same _ _⟩ (.cons ⟨rfl, paths⟩ .nil))

theorem lightInPlace_pets : Workspace.LightInPlace (folder main "") (folder main' "") inFolder
    (some "/w/main.json") (pets "swagger" "2.0" reference) (pets "swagger" "2.0" (.map limit)) := by
  have only : ∀ modern, Spec.modernize .swagger (pets "swagger" "2.0" reference) = .ok modern →
      refTexts modern = ["common.json#/limit"] := by
    intro modern hm
    have texts : (Spec.modernize .swagger (pets "swagger" "2.0" reference)).toOption.map refTexts =
        some ["common.json#/limit"] := by decide +kernel
    rw [hm] at texts
    exact Option.some.inj texts
  refine ⟨resembles_pets (.put (leadsTo_limit main) ⟨rfl, lightParameter_limit⟩),
    fun modern hm l hl => .inl (document_eq_of_reaches (only modern hm) hl),
    fun modern hm here ref there pointer hr hp hb => ?_⟩
  obtain ⟨rfl, -⟩ := (leadsNoFurther_main (only modern hm)).reaches hr
  obtain ⟨-, rfl, -⟩ := pointsInto_common (only modern hm) hr hp
  -- The reference leads into another document.
  have same : some "/w/common.json" = plainBase inFolder (some "/w/main.json") := hb
  rw [plainBase_main] at same
  exact absurd same (by decide)

theorem holds_folder {doc : Value} {format : SpecFormat}
    (parsed : ((folder main "").document "main.json").toOption.any (·.sameTexts doc) = true)
    (hf : ∃ version, Document.detectFormat doc = .ok (format, version)) :
    Holds (folder main "") "main.json" ⟨"", ["main.json"]⟩ doc format := by
  have path : pathOf? (folder "" "") "main.json" = some ⟨"", ["main.json"]⟩ := by decide +kernel
  refine ⟨path, by decide +kernel, ?_, hf⟩
  have text : (Path.mk "" ["main.json"]).text = "main.json" := by decide +kernel
  rw [text, document_eq_of_sameTexts parsed]

/-- A parameter without a type, in an OpenAPI and in a Swagger document. -/
theorem operations_of_inPlace_limit :
    operationsOf (plainOutcome (folder (petsText "openapi" "3.0" referenceText) "") .default
        (.location "main.json")) =
      operationsOf (plainOutcome (folder (petsText "openapi" "3.0" (limitText "")) "") .default
        (.location "main.json")) ∧
    operationsOf (plainOutcome (folder (petsText "swagger" "2.0" referenceText) "") .default
        (.location "main.json")) =
      operationsOf (plainOutcome (folder (petsText "swagger" "2.0" (limitText "")) "") .default
        (.location "main.json")) := by
  have key (main : String) : fileKey (folder main "") ⟨"", ["main.json"]⟩ = "/w/main.json" := by
    have closed : fileKey (folder "" "") ⟨"", ["main.json"]⟩ = "/w/main.json" := by decide +kernel
    exact closed
  constructor
  · have split : Holds (folder (petsText "openapi" "3.0" referenceText) "") "main.json" _
        (pets "openapi" "3.0" reference) .openapi := holds_folder (by decide +kernel) ⟨"3.0", rfl⟩
    have joined : Holds (folder (petsText "openapi" "3.0" (limitText "")) "") "main.json" _
        (pets "openapi" "3.0" (.map limit)) .openapi :=
      holds_folder (by decide +kernel) ⟨"3.0", rfl⟩
    refine operations_of_inPlace rfl split joined (.openapi ?_)
    rw [key]
    exact putInPlace_pets
  · have split : Holds (folder (petsText "swagger" "2.0" referenceText) "") "main.json" _
        (pets "swagger" "2.0" reference) .swagger := holds_folder (by decide +kernel) ⟨"2.0", rfl⟩
    have joined : Holds (folder (petsText "swagger" "2.0" (limitText "")) "") "main.json" _
        (pets "swagger" "2.0" (.map limit)) .swagger :=
      holds_folder (by decide +kernel) ⟨"2.0", rfl⟩
    refine operations_of_inPlace rfl split joined (.swagger ?_)
    rw [key]
    exact lightInPlace_pets

/-- The types of the parameters of all operations. -/
def typesOf (outcome : Except Failure Spec) : Option (List (Option String)) :=
  (operationsOf outcome).map fun operations =>
    operations.flatMap fun op => op.parameters.map (·.type)

/-- In a Swagger document, a parameter in another file loses its type. -/
theorem type_lost_in_other_file :
    typesOf (plainOutcome (folder (petsText "swagger" "2.0" referenceText)
      ", \"type\": \"integer\"") .default (.location "main.json")) = some [none] ∧
    typesOf (plainOutcome (folder (petsText "swagger" "2.0" (limitText ", \"type\": \"integer\""))
      ", \"type\": \"integer\"") .default (.location "main.json")) = some [some "integer"] :=
  ⟨by decide +kernel, by decide +kernel⟩

end Session

end ApiAccord
