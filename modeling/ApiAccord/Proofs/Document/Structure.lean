import ApiAccord.Document.Reading
import ApiAccord.Document.Structure
import ApiAccord.Proofs.Correspondence

/-!
# What keeps a document from being checked

The check of a document by itself takes every key of the paths for a text, and writes the version.
`checkStructure_eq_error_iff` says that nothing else can go wrong, whatever the values of the
members are: a document is checked exactly if its paths have texts for keys and its version holds no
integer that is too long (`checkStructure_returns_iff`).
-/

namespace ApiAccord.Structure

variable {o : CheckOptions} {doc : Value} {m : Malformed}

/-! ## Computations with a given fault -/

/-- The computation fails with the fault, if there is one. -/
def FailsBy {α : Type} (fault : Option Malformed) (x : Except Malformed α) : Prop :=
  ∀ m, x = .error m ↔ fault = some m

section FailsBy

variable {α β : Type} {f g : Option Malformed} {x : Except Malformed α}

theorem FailsBy.ok (a : α) : FailsBy none (.ok a) := by
  intro m
  simp

theorem FailsBy.error (m : Malformed) : FailsBy (some m) (.error m : Except Malformed α) := by
  intro m'
  simp

theorem FailsBy.bind {k : α → Except Malformed β} (hx : FailsBy f x) (hk : ∀ a, FailsBy g (k a)) :
    FailsBy (f.or g) (x.bind k) := by
  intro m
  cases x with
  | error m' =>
    rw [show f = some m' from (hx m').1 rfl]
    simp [Except.bind]
  | ok a =>
    have none : f = none := Option.eq_none_iff_forall_ne_some.2 fun m' hf => by
      cases (hx m').2 hf
    rw [none, Option.none_or]
    exact hk a m

theorem FailsBy.map (hx : FailsBy f x) (k : α → β) : FailsBy f (x.map k) := by
  intro m
  rw [map_eq_error_iff]
  exact hx m

theorem FailsBy.returns_iff (hx : FailsBy f x) : (∃ a, x = .ok a) ↔ f = none := by
  cases x with
  | error m =>
    rw [show f = some m from (hx m).1 rfl]
    simp
  | ok a =>
    have none : f = none := Option.eq_none_iff_forall_ne_some.2 fun m hf => by cases (hx m).2 hf
    simp [none]

end FailsBy

/-! ## Faults -/

/-- What goes wrong when a key is taken for a path. -/
def pathFault? : Scalar → Option Malformed
  | .str _ => none
  | .bytes _ => some .noItems
  | _ => some .noMembers

theorem pathFault?_eq_none_iff {k : Scalar} : pathFault? k = none ↔ ∃ path, k = .str path := by
  cases k <;> simp [pathFault?]

/-- What goes wrong when the version is written. -/
def versionFault? (doc : Value) : Option Malformed :=
  if (version? doc).all Value.writable then none else some .badNumber

/-- What keeps a document from being checked: the first key of its paths that is no text, else its
version. -/
def fault? (doc : Value) : Option Malformed :=
  ((pathItems doc).findSome? fun item => pathFault? item.1).or (versionFault? doc)

/-- Of a path item, only the key can be at fault; what was seen before only adds findings. -/
theorem findings_cons (seen : List String) (path : String) (item : Value) (rest : Members) :
    ∃ seen' first, findings seen ((.str path, item) :: rest) =
      (findings seen' rest).map (first ++ ·) := by
  have add : ∀ (seen' : List String) (first : List Finding),
      (do return first ++ silentOperations path item ++ (← findings seen' rest)) =
        (findings seen' rest).map (first ++ silentOperations path item ++ ·) := by
    intro seen' first
    cases findings seen' rest <;> rfl
  simp only [findings]
  split
  · split <;> exact ⟨_, _, add _ _⟩
  · exact ⟨_, _, add _ _⟩

theorem findings_failsBy (items : Members) (seen : List String) :
    FailsBy (items.findSome? fun item => pathFault? item.1) (findings seen items) := by
  induction items generalizing seen with
  | nil => exact .ok []
  | cons item rest ih =>
    obtain ⟨k, v⟩ := item
    cases k with
    | str path =>
      obtain ⟨seen', first, eq⟩ := findings_cons seen path v rest
      rw [eq]
      exact (ih seen').map _
    | _ => exact .error _

theorem versionText_failsBy (doc : Value) : FailsBy (versionFault? doc) (versionText doc) := by
  unfold versionFault? versionText
  cases version? doc with
  | none => exact .ok none
  | some v =>
    cases h : v.writable with
    | true => simpa [h] using FailsBy.ok (some v.display)
    | false => simpa [h] using FailsBy.error (α := Option String) .badNumber

/-! ## Documents -/

/-- The check fails by the fault of the document, whatever the options are. -/
theorem checkStructure_failsBy (o : CheckOptions) (doc : Value) :
    FailsBy (fault? doc) (checkStructure o doc) :=
  ((findings_failsBy (pathItems doc) []).map _).bind fun _ => (versionText_failsBy doc).map _

theorem checkStructure_eq_error_iff : checkStructure o doc = .error m ↔ fault? doc = some m :=
  checkStructure_failsBy o doc m

/-- A document is checked exactly if all keys of its paths are texts and no integer in its version
is too long. -/
theorem checkStructure_returns_iff (o : CheckOptions) (doc : Value) :
    (∃ v, checkStructure o doc = .ok v) ↔
      (∀ item ∈ pathItems doc, ∃ path, item.1 = .str path) ∧
        ∀ v, version? doc = some v → v.writable = true := by
  rw [(checkStructure_failsBy o doc).returns_iff, fault?, Option.or_eq_none_iff,
    List.findSome?_eq_none_iff]
  refine and_congr (forall₂_congr fun item _ => pathFault?_eq_none_iff) ?_
  unfold versionFault?
  cases version? doc <;> simp

/-- A document in which a number stands for a path. -/
def numberedPath : String := "openapi: '3.0'\ninfo: i\npaths:\n  1:\n"

theorem not_checkStructure_numberedPath : ∃ doc, Document.ofText .yaml numberedPath = .ok doc ∧
    ¬ ∃ v, checkStructure .default doc = .ok v := by
  have fails : ((Document.ofText .yaml numberedPath).toOption.any fun doc =>
      !(checkStructure .default doc).isOk) = true := by decide +kernel
  cases hd : Document.ofText .yaml numberedPath with
  | error => rw [hd] at fails; cases fails
  | ok doc =>
    refine ⟨doc, rfl, ?_⟩
    rintro ⟨v, hv⟩
    rw [hd] at fails
    simp [Except.toOption, hv, Except.isOk, Except.toBool] at fails

end ApiAccord.Structure
