import ApiAccord.Proofs.Document.FiniteUnfolding

/-!
# Tolerant and strict resolution

A tolerant resolution goes on where a strict one fails.  Both are read off one `survey` of the
document, which notes the references that cannot be resolved: a tolerant resolution answers with the
reasons noted, a strict one fails with the first of them (`resolve_eq_answer`).
-/

namespace ApiAccord.Reference

/-- The options of a tolerant resolution. -/
def tolerantly (external : Bool) (home : String) : ResolveOptions := ⟨external, true, home⟩

/-! ## The reference that an error names -/

section Names

variable {o : ResolveOptions} {shelf : Shelf} {here : Place} {seen : List String}
  {ref segment pointer location : String} {v : Value} {e : RefError}

theorem ref_of_step_eq_error (h : Pointer.step ref segment v = .error e) : e.ref = ref := by
  unfold Pointer.step at h
  cases v with
  | map | list =>
    dsimp only at h
    split at h
    · cases h
    · cases h; rfl
  | scalar | pair | set => cases h; rfl

theorem ref_of_walk_eq_error {segments : List String}
    (h : Pointer.walk ref segments v = .error e) : e.ref = ref := by
  induction segments generalizing v with
  | nil => cases h
  | cons segment rest ih =>
    rcases bind_eq_error_iff.1 h with h | ⟨u, -, h⟩
    · exact ref_of_step_eq_error h
    · exact ih h

theorem ref_of_resolve_eq_error (h : Pointer.resolve ref pointer v = .error e) : e.ref = ref := by
  unfold Pointer.resolve at h
  split at h
  · cases h
  · split at h
    · cases h; rfl
    · exact ref_of_walk_eq_error h

/-- Whether a location can be told from a text is never the fault of a reference. -/
theorem locate_ne_ref_error {base : Option String} : locate o base location ≠ .error (.ref e) := by
  intro h
  unfold locate locateFile at h
  grind

/-- A reference that cannot be followed is the one that the error names. -/
theorem ref_of_follow_eq_error (h : follow o shelf here seen ref = .error (.ref e)) :
    e.ref = ref := by
  rw [follow_eq] at h
  rcases bind_eq_error_iff.1 h with h | ⟨t, -, h⟩
  · unfold split at h
    split at h
    · cases h
    · split at h
      · rcases bind_eq_error_iff.1 h with h | ⟨a, -, h⟩
        · exact absurd h locate_ne_ref_error
        · cases h
      · cases h; rfl
  · split at h
    · cases h; rfl
    · rcases bind_eq_error_iff.1 h with h | ⟨place, -, h⟩
      · unfold placeOf at h
        split at h
        · cases h
        · split at h <;> cases h
          rfl
      · obtain ⟨e', he, h⟩ := mapError_eq_error_iff.1 (map_eq_error_iff.1 h)
        cases h
        exact ref_of_resolve_eq_error he

end Names

/-! ## Surveys -/

/-- A reference that stays in place, and why. -/
structure Left where
  ref : String
  reason : RefError
  names : reason.ref = ref

/-- What going through a part of a document yields: the references left in it, in order, and what
became of the part, unless a text in it broke the reader. -/
structure Survey (α : Type) where
  left : List Left
  outcome : Except Malformed α

namespace Survey

variable {α β : Type}

/-- Nothing is left in place. -/
def clean (a : α) : Survey α := ⟨[], .ok a⟩

/-- One survey after another.  Where the reader breaks, the rest is not gone through. -/
def bind (s : Survey α) (f : α → Survey β) : Survey β :=
  match s.outcome with
  | .ok a => ⟨s.left ++ (f a).left, (f a).outcome⟩
  | .error m => ⟨s.left, .error m⟩

/-- What a resolution answers by a survey. -/
def answer (tolerant : Bool) (s : Survey α) : Except Stop (α × List RefError) :=
  match tolerant, s.left, s.outcome with
  | false, l :: _, _ => .error (.ref l.reason)
  | _, left, .ok a => .ok (a, left.map Left.reason)
  | _, _, .error m => .error (.malformed m)

theorem answer_clean (tolerant : Bool) (a : α) : (clean a).answer tolerant = .ok (a, []) := by
  cases tolerant <;> rfl

/-- Parts are surveyed one after another as they are resolved: a strict resolution does not come to
the second part if something is left in the first. -/
theorem answer_bind (tolerant : Bool) (s : Survey α) (f : α → Survey β) :
    (s.bind f).answer tolerant = (s.answer tolerant).bind fun r =>
      ((f r.1).answer tolerant).map fun r' => (r'.1, r.2 ++ r'.2) := by
  obtain ⟨left, m | a⟩ := s
  · cases tolerant <;> cases left <;> rfl
  · rcases hf : f a with ⟨left', outcome⟩
    cases tolerant <;> cases left <;> cases left' <;> cases outcome <;>
      simp [bind, answer, hf, Except.bind, Except.map]

theorem answer_map (tolerant : Bool) (s : Survey α) (h : α → β) :
    (s.bind fun a => clean (h a)).answer tolerant =
      (s.answer tolerant).map fun r => (h r.1, r.2) := by
  obtain ⟨left, outcome⟩ := s
  cases tolerant <;> cases left <;> cases outcome <;> simp [bind, answer, clean, Except.map]

end Survey

/-! ## The survey of a document -/

mutual

/-- Surveys a value, given the surveys of the references in it. -/
def surveyValue (enter : Members → String → Survey Value) : Value → Survey Value
  | .map ms =>
    match refText? ms with
    | some ref => enter ms ref
    | none => (surveyMembers enter ms).bind fun ms => .clean (.map ms)
  | .list items => (surveyItems enter items).bind fun items => .clean (.list items)
  | .scalar s => .clean (.scalar s)
  | .pair a b => .clean (.pair a b)
  | .set items => .clean (.set items)

def surveyItems (enter : Members → String → Survey Value) : List Value → Survey (List Value)
  | [] => .clean []
  | v :: rest => (surveyValue enter v).bind fun v =>
    (surveyItems enter rest).bind fun rest => .clean (v :: rest)

def surveyMembers (enter : Members → String → Survey Value) :
    List (Scalar × Value) → Survey (List (Scalar × Value))
  | [] => .clean []
  | (k, v) :: rest => (surveyValue enter v).bind fun v =>
    (surveyMembers enter rest).bind fun rest => .clean ((k, v) :: rest)

end

/-- Follows a reference, if it does not stay in place. -/
def attempt (external : Bool) (home : String) (shelf : Shelf) (here : Place) (seen : List String)
    (ref : String) : Survey (Option (Value × Place × String)) :=
  match hf : follow (tolerantly external home) shelf here seen ref with
  | .ok a => .clean (some a)
  | .error (.ref e) => ⟨[⟨ref, e, ref_of_follow_eq_error hf⟩], .ok none⟩
  | .error (.malformed m) => ⟨[], .error m⟩

/-- Surveys a reference at a place, when chains of at most `depth` references are followed. -/
def surveyEnter (external : Bool) (home : String) (shelf : Shelf) :
    (depth : Nat) → Place → List String → Members → String → Survey Value
  | 0, here, seen, ms, ref =>
    (attempt external home shelf here seen ref).bind fun
      | none => .clean (.map ms)
      | some _ => ⟨[⟨ref, .circular ref, rfl⟩], .ok (.map ms)⟩
  | depth + 1, here, seen, ms, ref =>
    (attempt external home shelf here seen ref).bind fun
      | none => .clean (.map ms)
      | some (target, place, k) =>
        surveyValue (surveyEnter external home shelf depth place (k :: seen)) target

/-- Surveys a document at a location, if it has one. -/
def survey (external : Bool) (home : String) (shelf : Shelf) (base : Option String)
    (root : Value) : Survey Value :=
  surveyValue (surveyEnter external home shelf (bound shelf root)
    ⟨root, plainBase (tolerantly external home) base⟩ []) root

section Answers

variable {f : Members → String → Except Stop Resolved} {g : Members → String → Survey Value}
  {tolerant : Bool}

theorem resolveItems_eq_answer {items : List Value}
    (h : ∀ v ∈ items, resolveValue f v = (surveyValue g v).answer tolerant) :
    resolveItems f items = (surveyItems g items).answer tolerant := by
  induction items with
  | nil => exact (Survey.answer_clean tolerant []).symm
  | cons v rest ih =>
    rw [resolveItems_cons, h v List.mem_cons_self,
      ih fun u hu => h u (List.mem_cons_of_mem v hu), surveyItems, Survey.answer_bind]
    simp only [Survey.answer_map]
    cases (surveyItems g rest).answer tolerant <;> rfl

theorem resolveMembers_eq_answer {ms : Members}
    (h : ∀ m ∈ ms, resolveValue f m.2 = (surveyValue g m.2).answer tolerant) :
    resolveMembers f ms = (surveyMembers g ms).answer tolerant := by
  induction ms with
  | nil => exact (Survey.answer_clean tolerant []).symm
  | cons m rest ih =>
    rw [resolveMembers_cons, h m List.mem_cons_self,
      ih fun n hn => h n (List.mem_cons_of_mem m hn), surveyMembers, Survey.answer_bind]
    simp only [Survey.answer_map]
    cases (surveyMembers g rest).answer tolerant <;> rfl

/-- A value is resolved by its survey if its references are. -/
theorem resolveValue_eq_answer (hf : ∀ ms ref, f ms ref = (g ms ref).answer tolerant)
    (v : Value) : resolveValue f v = (surveyValue g v).answer tolerant := by
  induction v using Value.inductionOn with
  | scalar | pair | set => exact (Survey.answer_clean tolerant _).symm
  | list items ih =>
    rw [resolveValue_list, resolveItems_eq_answer ih, surveyValue, Survey.answer_map]
  | map ms ih =>
    cases text : refText? ms with
    | some ref =>
      rw [resolveValue_ref text, hf, surveyValue, text]
    | none =>
      rw [resolveValue_map text, resolveMembers_eq_answer ih, surveyValue, text, Survey.answer_map]

end Answers

variable {external tolerant : Bool} {home : String} {shelf : Shelf} {here : Place}
  {seen : List String} {ms : Members} {ref : String}

theorem follow_cases (external tolerant : Bool) (home : String) (shelf : Shelf) (here : Place)
    (seen : List String) (ref : String) :
    (∃ m, follow ⟨external, tolerant, home⟩ shelf here seen ref = .error (.malformed m) ∧
      attempt external home shelf here seen ref = ⟨[], .error m⟩) ∨
    (∃ e h, follow ⟨external, tolerant, home⟩ shelf here seen ref = .error (.ref e) ∧
      attempt external home shelf here seen ref = ⟨[⟨ref, e, h⟩], .ok none⟩) ∨
    (∃ a, follow ⟨external, tolerant, home⟩ shelf here seen ref = .ok a ∧
      attempt external home shelf here seen ref = .clean (some a)) := by
  unfold attempt
  split
  · next a hf => exact .inr (.inr ⟨a, hf, rfl⟩)
  · next e hf => exact .inr (.inl ⟨e, ref_of_follow_eq_error hf, hf, rfl⟩)
  · next m hf => exact .inl ⟨m, hf, rfl⟩

/-- What becomes of a reference, by induction on how many more may be followed from it. -/
theorem enter_eq_answer (depth : Nat) :
    enter ⟨external, tolerant, home⟩ shelf depth here seen ms ref =
      (surveyEnter external home shelf depth here seen ms ref).answer tolerant := by
  induction depth generalizing here seen ms ref with
  | zero =>
    obtain ⟨m, hf, ha⟩ | ⟨e, h, hf, ha⟩ | ⟨a, hf, ha⟩ :=
        follow_cases external tolerant home shelf here seen ref <;>
      rw [enter.eq_def, surveyEnter, ha] <;> simp only [hf] <;> cases tolerant <;> rfl
  | succ depth ih =>
    obtain ⟨m, hf, ha⟩ | ⟨e, h, hf, ha⟩ | ⟨⟨v, there, k⟩, hf, ha⟩ :=
      follow_cases external tolerant home shelf here seen ref
    · rw [enter.eq_def, surveyEnter, ha]
      simp only [hf]
      cases tolerant <;> rfl
    · rw [enter.eq_def, surveyEnter, ha]
      simp only [hf]
      cases tolerant <;> rfl
    · rw [enter_succ_of_follow_eq_ok hf, surveyEnter, ha]
      exact resolveValue_eq_answer (fun ms ref => ih) v

/-- Tolerant and strict resolution answer by the same survey. -/
theorem resolve_eq_answer (base : Option String) (root : Value) :
    resolve ⟨external, tolerant, home⟩ shelf base root =
      (survey external home shelf base root).answer tolerant :=
  resolveValue_eq_answer (fun _ _ => enter_eq_answer _) root

/-! ## Reading the answers off a survey -/

namespace Survey

variable {α : Type} {s : Survey α} {a : α} {left : List RefError}

theorem answer_tolerant_eq_ok_iff :
    s.answer true = .ok (a, left) ↔ s.outcome = .ok a ∧ s.left.map Left.reason = left := by
  obtain ⟨l, outcome⟩ := s
  cases outcome <;> simp [answer]

theorem answer_tolerant_eq_error_iff {stop : Stop} :
    s.answer true = .error stop ↔ ∃ m, s.outcome = .error m ∧ stop = .malformed m := by
  obtain ⟨l, outcome⟩ := s
  cases outcome <;> simp [answer, eq_comm]

/-- Where nothing is left in place, being tolerant makes no difference. -/
theorem answer_strict_of_left_eq_nil (h : s.left = []) : s.answer false = s.answer true := by
  obtain ⟨l, outcome⟩ := s
  obtain rfl : l = [] := h
  cases outcome <;> rfl

theorem answer_strict_of_left_eq_cons {l : Left} {rest : List Left} (h : s.left = l :: rest) :
    s.answer false = .error (.ref l.reason) := by
  obtain ⟨left, outcome⟩ := s
  obtain rfl : left = l :: rest := h
  rfl

/-- The two answers by one survey. -/
theorem answers_agree (s : Survey α) :
    (∀ a left, s.answer true = .ok (a, left) →
      left.map RefError.ref = s.left.map Left.ref) ∧
    (∀ stop, s.answer true = .error stop → ∃ m, stop = .malformed m) ∧
    (s.left.map Left.ref = [] → s.answer false = s.answer true) ∧
    (∀ ref rest, s.left.map Left.ref = ref :: rest →
      ∃ e, s.answer false = .error (.ref e) ∧ e.ref = ref) ∧
    (∀ a left, s.answer false = .ok (a, left) →
      s.answer true = .ok (a, []) ∧ left = [] ∧ s.left.map Left.ref = []) := by
  refine ⟨fun a left h => ?_, fun stop h => ?_, fun h => ?_, fun ref rest h => ?_,
    fun a left h => ?_⟩
  · obtain ⟨-, rfl⟩ := answer_tolerant_eq_ok_iff.1 h
    rw [List.map_map]
    exact List.map_congr_left fun l _ => l.names
  · obtain ⟨m, -, hm⟩ := answer_tolerant_eq_error_iff.1 h
    exact ⟨m, hm⟩
  · exact answer_strict_of_left_eq_nil (List.map_eq_nil_iff.1 h)
  · obtain ⟨l, rest', hl, rfl, -⟩ := List.map_eq_cons_iff.1 h
    exact ⟨l.reason, answer_strict_of_left_eq_cons hl, l.names⟩
  · cases hl : s.left with
    | nil =>
      rw [answer_strict_of_left_eq_nil hl] at h
      obtain ⟨-, rfl⟩ := answer_tolerant_eq_ok_iff.1 h
      rw [hl] at h
      exact ⟨h, by rw [hl]; rfl, rfl⟩
    | cons l rest =>
      rw [answer_strict_of_left_eq_cons hl] at h
      cases h

end Survey

/-- The tolerant and the strict resolution of a document agree, whatever they meet.  If the tolerant
one leaves nothing unresolved, the strict one ends in the same way.  If it does leave references,
also where it breaks off later, the strict one fails with an error that names the first of them.
And what the strict one answers, the tolerant one does, with nothing left. -/
theorem tolerantly_agrees_with_strictly (external : Bool) (home : String) (shelf : Shelf)
    (base : Option String) (root : Value) :
    let unresolved := (survey external home shelf base root).left.map Left.ref
    let tolerant := resolve (tolerantly external home) shelf base root
    let strict := resolve (strictly external home) shelf base root
    (∀ w left, tolerant = .ok (w, left) → left.map RefError.ref = unresolved) ∧
    (∀ stop, tolerant = .error stop → ∃ m, stop = .malformed m) ∧
    (unresolved = [] → strict = tolerant) ∧
    (∀ ref rest, unresolved = ref :: rest → ∃ e, strict = .error (.ref e) ∧ e.ref = ref) ∧
    (∀ w left, strict = .ok (w, left) →
      tolerant = .ok (w, []) ∧ left = [] ∧ unresolved = []) := by
  intro unresolved tolerant strict
  have ht : tolerant = (survey external home shelf base root).answer true :=
    resolve_eq_answer base root
  have hs : strict = (survey external home shelf base root).answer false :=
    resolve_eq_answer base root
  rw [ht, hs]
  exact Survey.answers_agree (survey external home shelf base root)

end ApiAccord.Reference
