import ApiAccord.Document.Pointer
import ApiAccord.Proofs.Text

/-!
# Where pointers lead

A pointer is a way down a document, one member or item at each segment.  `Pointer.step_eq_ok_iff`
says what one segment does, and `Pointer.resolve_eq_ok_iff` puts the segments together.  The
reference that a pointer is part of is only there for the wording of errors: where the pointer leads
does not depend on it.
-/

namespace ApiAccord.Pointer

variable {ref ref' segment pointer : String} {segments : List String} {u v w : Value}

/-- One segment down: to the member of this name, or to the item at this index. -/
inductive Down (segment : String) : Value → Value → Prop where
  | member {ms : Members} {w : Value} : ms.get? segment = some w → Down segment (.map ms) w
  | item {items : List Value} {w : Value} :
    (Text.integer? segment).bind (itemAt? items) = some w → Down segment (.list items) w

theorem mem_of_itemAt? {items : List Value} {i : Int} (h : itemAt? items i = some v) :
    v ∈ items := by
  unfold itemAt? at h
  split at h
  · split at h
    · exact List.mem_of_getElem? h
    · cases h
  · exact List.mem_of_getElem? h

theorem step_eq_ok_iff : step ref segment v = .ok w ↔ Down segment v w := by
  constructor
  · intro h
    cases v with
    | map ms =>
      simp only [step] at h
      split at h
      · next hw => exact .member (hw.trans (congrArg some (Except.ok.inj h)))
      · cases h
    | list items =>
      simp only [step] at h
      split at h
      · next hw => exact .item (hw.trans (congrArg some (Except.ok.inj h)))
      · cases h
    | _ => cases h
  · rintro (h | h)
    · simp only [step, h]
    · simp only [step, h]

theorem walk_nil : walk ref [] v = .ok v := rfl

theorem walk_cons_eq_ok_iff :
    walk ref (segment :: segments) v = .ok w ↔
      ∃ u, Down segment v u ∧ walk ref segments u = .ok w := by
  simp only [walk]
  constructor
  · intro h
    cases hu : step ref segment v with
    | error e => rw [hu] at h; cases h
    | ok u =>
      rw [hu] at h
      exact ⟨u, step_eq_ok_iff.1 hu, h⟩
  · rintro ⟨u, hu, h⟩
    rw [step_eq_ok_iff.2 hu]
    exact h

theorem walk_eq_ok_of_ref (ref' : String) (h : walk ref segments v = .ok w) :
    walk ref' segments v = .ok w := by
  induction segments generalizing v with
  | nil => exact h
  | cons segment rest ih =>
    obtain ⟨u, hu, h⟩ := walk_cons_eq_ok_iff.1 h
    exact walk_cons_eq_ok_iff.2 ⟨u, hu, ih h⟩

/-- The segments of a pointer, unless it is no pointer. -/
def segments? (pointer : String) : Option (List String) :=
  if pointer == "" then some []
  else (Text.stripHead? "/" pointer).map fun path => (Text.splitOn '/' path).map unescape

theorem resolve_eq_ok_iff :
    resolve ref pointer v = .ok w ↔
      ∃ segments, segments? pointer = some segments ∧ walk ref segments v = .ok w := by
  unfold resolve segments?
  by_cases h : (pointer == "") = true
  · simp only [if_pos h, Option.some.injEq, exists_eq_left', walk_nil]
  · rw [if_neg h, if_neg h]
    cases Text.stripHead? "/" pointer <;> simp

/-- Where a pointer leads does not depend on the reference that it is part of. -/
theorem resolve_eq_ok_of_ref (ref' : String) (h : resolve ref pointer v = .ok w) :
    resolve ref' pointer v = .ok w := by
  obtain ⟨segments, hs, hw⟩ := resolve_eq_ok_iff.1 h
  exact resolve_eq_ok_iff.2 ⟨segments, hs, walk_eq_ok_of_ref ref' hw⟩

/-! ## Segments and names -/

theorem segments?_of_slash (path : String) :
    segments? ("/" ++ path) = some ((Text.splitOn '/' path).map unescape) := by
  have ne : ("/" ++ path == "") = false := by simp [beq_eq_false_iff_ne, String.append_eq_empty_iff]
  rw [segments?, ne, Text.stripHead?_eq_some_iff.2 rfl]
  rfl

theorem splitOn_cons {name : String} (rest : String) (h : '/' ∉ name.toList) :
    Text.splitOn '/' (name ++ "/" ++ rest) = name :: Text.splitOn '/' rest := by
  have split := Text.Chars.splitOn_append rest.toList h
  simp [Text.splitOn, String.toList_append, split]

theorem splitOn_single {name : String} (h : '/' ∉ name.toList) :
    Text.splitOn '/' name = [name] := by
  simp [Text.splitOn, Text.Chars.splitOn_eq_singleton h]

theorem unescape_eq (segment : String) :
    unescape segment = String.ofList (Text.Chars.replacePair '~' '0' ['~']
      (Text.Chars.replacePair '~' '1' ['/'] segment.toList)) := by
  simp [unescape, Text.replacePair]

theorem unescape_eq_self {segment : String} (h : '~' ∉ segment.toList) :
    unescape segment = segment := by
  simp [unescape, Text.replacePair, Text.Chars.replacePair_eq_self h]

/-- A segment that writes a name without tildes and slashes is that name. -/
theorem unescape_eq_self_of_unescaped {segment : String} (slash : '/' ∉ (unescape segment).toList)
    (tilde : '~' ∉ (unescape segment).toList) : unescape segment = segment := by
  refine unescape_eq_self fun h => ?_
  -- A tilde that is not replaced stays, and one that is gives a slash or a tilde.
  rw [unescape_eq, String.toList_ofList] at slash tilde
  rcases Text.Chars.mem_replacePair '~' '1' ['/'] h with h | h
  · rcases Text.Chars.mem_replacePair '~' '0' ['~'] h with h | h
    · exact tilde h
    · exact tilde (h '~' List.mem_cons_self)
  · rcases Text.Chars.mem_replacePair '~' '0' ['~'] (h '/' List.mem_cons_self) with h | h
    · exact slash h
    · exact tilde (h '~' List.mem_cons_self)

end ApiAccord.Pointer
