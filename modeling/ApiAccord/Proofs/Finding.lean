import ApiAccord.Proofs.Store.SameFile

/-!
# Documents that are not found

Reading a file fails because it is not found exactly if no file is at its path
(`misses_fileDocument_iff`).  What is done with a document once it was read can fail for many
reasons, but not for this one: the documents that references lead to are missed in another way
(`misses_specOf`).
-/

namespace ApiAccord

/-- Nothing is at the location of a document. -/
def Failure.notFound : Failure → Bool
  | .load (.fileNotFound _) | .load (.addressNotFound _) => true
  | _ => false

/-- The outcome is that nothing is at the location of a document. -/
def misses {α : Type} : Except Failure α → Bool
  | .ok _ => false
  | .error f => f.notFound

section Outcomes

variable {α β : Type} {x : Except Failure α} {f : α → Except Failure β}

@[simp] theorem misses_ok (a : α) : misses (.ok a : Except Failure α) = false := rfl

@[simp] theorem misses_pure (a : α) : misses (pure a : Except Failure α) = false := rfl

theorem misses_bind_iff : misses (x >>= f) = true ↔
    misses x = true ∨ ∃ a, x = .ok a ∧ misses (f a) = true := by
  cases x with
  | ok a => simp [bind, Except.bind]
  | error e => simp [bind, Except.bind, misses]

theorem misses_bind (hx : misses x = false) (hf : ∀ a, misses (f a) = false) :
    misses (x >>= f) = false := by
  rw [← Bool.not_eq_true, misses_bind_iff]
  simp [hx, hf]

theorem misses_mapM {l : List α} (h : ∀ a, misses (f a) = false) : misses (l.mapM f) = false := by
  induction l with
  | nil => rfl
  | cons a rest ih =>
    rw [List.mapM_cons]
    exact misses_bind (h a) fun b => misses_bind ih fun bs => rfl

@[simp] theorem misses_liftShape (x : Except Malformed α) :
    misses (Failure.liftShape x) = false := by
  cases x <;> rfl

@[simp] theorem misses_liftRecord (record : String) (c : Checked α) :
    misses (Failure.liftRecord record c) = false := by
  cases c <;> rfl

end Outcomes

/-! ## Reading -/

namespace Document

theorem misses_ofValue (v : Value) : misses ((ofValue v).mapError Failure.ofLoad) = false := by
  unfold ofValue
  split <;> rfl

theorem misses_ofYaml (json : Option String) (text : String) :
    misses ((ofYaml json text).mapError Failure.ofLoad) = false := by
  unfold ofYaml
  split
  · rfl
  · rfl
  · exact misses_ofValue _
  · rfl
  · rfl

theorem misses_ofText (hint : Hint) (text : String) :
    misses ((ofText hint text).mapError Failure.ofLoad) = false := by
  unfold ofText
  split
  · exact misses_ofYaml _ _
  · split
    · exact misses_ofValue _
    · rfl
    · dsimp only
      split
      · rfl
      · exact misses_ofYaml _ _

end Document

namespace Workspace

variable {ws : Workspace} {path : Path}

/-- A file is not found exactly if there is none. -/
theorem misses_fileDocument_iff (ws : Workspace) (location : String) :
    misses ((ws.fileDocument location).mapError Failure.ofLoad) = true ↔
      ws.fileAt? (Path.ofText location) = none := by
  unfold fileDocument
  dsimp only
  split
  · next none => exact iff_of_true rfl none
  · next content some =>
    refine iff_of_false (Bool.not_eq_true _ ▸ ?_) (some ▸ nofun)
    split
    · rfl
    · split
      · rfl
      · exact Document.misses_ofText _ _

end Workspace

/-! ## From a document to a specification -/

namespace OperationReading

theorem misses_responses (rs : List (Scalar × Value)) : misses (responses rs) = false := by
  fun_induction responses rs with
  | case1 => rfl
  | case2 status r rest ih =>
    refine misses_bind (misses_liftShape _) fun content => ?_
    refine misses_bind (misses_liftRecord _ _) fun response => ?_
    exact misses_bind ih fun _ => rfl
  | case3 m rest _ ih => exact ih

theorem misses_requestBody (v : Option Value) : misses (requestBody v) = false := by
  unfold requestBody
  split
  · refine misses_bind (misses_liftShape _) fun content => ?_
    exact misses_bind (misses_liftRecord _ _) fun _ => rfl
  · rfl

theorem misses_operation (path : Scalar) (shared security : Value) (method : HttpMethod)
    (op : Members) : misses (operation path shared security method op) = false := by
  unfold operation
  refine misses_bind (misses_liftShape _) fun merged => ?_
  refine misses_bind (misses_mapM fun _ => misses_liftRecord _ _) fun ps => ?_
  refine misses_bind (misses_requestBody _) fun body => ?_
  refine misses_bind (misses_liftShape _) fun answers => ?_
  refine misses_bind (misses_responses _) fun answers => ?_
  exact misses_liftRecord _ _

theorem misses_ofPaths (security : Value) (paths : List (Scalar × Value)) :
    misses (ofPaths security paths) = false := by
  fun_induction ofPaths security paths with
  | case1 => rfl
  | case2 path item rest ih =>
    refine misses_bind (misses_mapM fun _ => misses_operation _ _ _ _ _) fun operations => ?_
    exact misses_bind ih fun _ => rfl
  | case3 m rest _ ih => exact ih

end OperationReading

namespace SpecReading

theorem misses_operations (doc : Members) : misses (operations doc) = false :=
  misses_bind (misses_liftShape _) fun _ => OperationReading.misses_ofPaths _ _

theorem misses_schemas (doc : Members) (unresolved : Value) :
    misses (schemas doc unresolved) = false :=
  misses_bind (misses_liftShape _) fun _ => misses_mapM fun _ => misses_liftRecord _ _

theorem misses_metadata (doc : Members) (source : Option String) :
    misses (metadata doc source) = false := by
  unfold metadata
  refine misses_bind (misses_liftShape _) fun info => ?_
  refine misses_bind ?_ fun servers => ?_
  · exact misses_bind (misses_liftShape _) fun _ => misses_mapM fun _ => misses_liftRecord _ _
  · exact misses_bind (misses_liftShape _) fun _ => misses_liftRecord _ _

theorem misses_securitySchemes (doc : Members) : misses (securitySchemes doc) = false := by
  unfold securitySchemes
  refine misses_bind (misses_liftShape _) fun ms => ?_
  exact misses_bind (misses_mapM fun _ => misses_liftRecord _ _) fun _ => rfl

end SpecReading

theorem Spec.misses_ofDocument (format : SpecFormat) (version : String) (unresolved doc : Value)
    (source : Option String) :
    misses (ofDocument format version unresolved doc source) = false := by
  unfold ofDocument
  refine misses_bind (misses_liftShape _) fun ms => ?_
  refine misses_bind (SpecReading.misses_operations _) fun operations => ?_
  refine misses_bind (SpecReading.misses_schemas _ _) fun schemas => ?_
  refine misses_bind (SpecReading.misses_metadata _ _) fun metadata => ?_
  refine misses_bind (SpecReading.misses_securitySchemes _) fun schemes => ?_
  exact misses_liftRecord _ _

theorem Document.misses_detectFormat (doc : Value) : misses (detectFormat doc) = false := by
  unfold detectFormat
  refine misses_bind (misses_liftShape _) fun version => ?_
  split
  · rfl
  · refine misses_bind (misses_liftShape _) fun version => ?_
    split <;> rfl

theorem Spec.misses_modernize (format : SpecFormat) (doc : Value) :
    misses (modernize format doc) = false := by
  cases format with
  | openapi => rfl
  | swagger =>
    refine misses_bind ?_ fun _ => rfl
    unfold Swagger.convert
    refine misses_bind (misses_liftShape _) fun ms => ?_
    dsimp only
    split
    · rfl
    · split
      · rfl
      · exact misses_liftShape _

theorem Noted.misses_bind {α β : Type} {n : Noted α} {f : α → Noted β}
    (hn : misses n.outcome = false) (hf : ∀ a, misses (f a).outcome = false) :
    misses (n >>= f).outcome = false := by
  show misses (n.andThen f).outcome = false
  unfold Noted.andThen
  split
  · exact hf _
  · next he => rwa [he] at hn

theorem Reference.misses_resolveNoting (o : ResolveOptions) (shelf : Shelf) (base : Option String)
    (doc : Value) : misses (resolveNoting o shelf base doc).outcome = false := by
  unfold resolveNoting
  split <;> rfl

/-- The specification of a document is never missed. -/
theorem Library.misses_specOf (ws : Workspace) (o : LoadOptions) (base : Option String)
    (doc : Value) : misses (specOf ws o base doc).outcome = false := by
  have read (format : SpecFormat) (version : String) (modern resolved : Value) :
      misses (Noted.ofExcept (Spec.ofDocument format version modern resolved base)).outcome =
        false :=
    Spec.misses_ofDocument _ _ _ _ _
  unfold specOf Spec.ofAnyDocument
  refine Noted.misses_bind (Document.misses_detectFormat doc) fun (format, version) => ?_
  refine Noted.misses_bind (Spec.misses_modernize format doc) fun modern => ?_
  dsimp only
  split
  · refine Noted.misses_bind (Reference.misses_resolveNoting _ _ _ _) fun (resolved, _) => ?_
    exact read format version modern resolved
  · exact read format version modern modern

end ApiAccord
