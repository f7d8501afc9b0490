import ApiAccord.Proofs.Document.Resolution
import ApiAccord.Proofs.Document.Targets
import Mathlib.Data.List.Nodup

/-!
# Strict resolution is finite unfolding

`resolve` answers `w` exactly if the root unfolds to `w` and different targets on one way have
different keys (`resolve_eq_ok_iff`).  The number of references that it is ready to follow one after
another never matters (`resolveValue_enter_of_bound_le`), and a document that unfolds is refused
only for a reference that is taken for circular (`exists_circular_of_unfolds`).
-/

namespace ApiAccord.Reference

variable {o : ResolveOptions} {shelf : Shelf} {start here there : Place} {u v w : Value}
  {ms : Members} {ref pointer : String} {visits : List Visit} {seen : List String} {n m : Nat}
  {stop : Stop}

/-! ## Ways to references -/

theorem Trail.exposed (h : Trail o shelf start visits here v) (hx : Exposed v ms ref) :
    Trail o shelf start visits here (.map ms) ∧ refText? ms = some ref := by
  induction hx with
  | here text => exact ⟨h, text⟩
  | part hp _ ih => exact ih (h.part hp)

/-- No target on a way is remembered under the key of another one. -/
theorem Trail.keys_nodup (h : Trail o shelf start visits here v) (hd : visits.Nodup)
    (ha : KeysApart o shelf start) : (visits.map Visit.key).Nodup :=
  hd.map_on (ha visits here v h)

/-- Following a reference on a way without repetition leaves something of the bound. -/
theorem Trail.follow_lt_bound (h : Trail o shelf start visits here (.map ms))
    (text : refText? ms = some ref) (target : Designates o shelf here ref there pointer v)
    (hd : (visits.map Visit.key).Nodup) (hk : Visit.key (there, pointer) ∉ visits.map Visit.key) :
    visits.length + 1 < bound shelf start.root :=
  (h.follow text target).length_lt_bound (List.nodup_cons.2 ⟨hk, hd⟩)

/-! ## The bound does not matter -/

theorem enter_eq_of_follow_eq_error (h : follow o shelf here seen ref = .error stop) :
    enter o shelf n here seen ms ref = enter o shelf m here seen ms ref := by
  cases n <;> cases m <;> cases stop <;> simp [enter, h]

theorem Trail.resolveValue_enter_eq (h : Trail o shelf start visits here v)
    (hd : (visits.map Visit.key).Nodup) (hn : bound shelf start.root ≤ n + visits.length)
    (hm : bound shelf start.root ≤ m + visits.length) :
    resolveValue (enter o shelf n here (visits.map Visit.key)) v =
      resolveValue (enter o shelf m here (visits.map Visit.key)) v := by
  induction n using Nat.strongRecOn generalizing m visits here v with
  | ind n ih =>
    refine resolveValue_congr fun ms ref hx => ?_
    obtain ⟨h, text⟩ := h.exposed hx
    cases hf : Reference.follow o shelf here (visits.map Visit.key) ref with
    | error stop => exact enter_eq_of_follow_eq_error hf
    | ok a =>
      obtain ⟨u, there, k⟩ := a
      obtain ⟨pointer, target, rfl, hs⟩ := follow_eq_ok_iff.1 hf
      -- Both numbers leave room for one more reference.
      have := h.follow_lt_bound text target hd hs
      obtain ⟨n, rfl⟩ : ∃ n', n = n' + 1 := ⟨n - 1, by omega⟩
      obtain ⟨m, rfl⟩ : ∃ m', m = m' + 1 := ⟨m - 1, by omega⟩
      rw [enter_succ_of_follow_eq_ok hf, enter_succ_of_follow_eq_ok hf]
      exact ih n (Nat.lt_succ_self n) (h.follow text target) (List.nodup_cons.2 ⟨hs, hd⟩)
        (by rw [List.length_cons]; omega) (by rw [List.length_cons]; omega)

/-- Whoever is ready to follow more references than `bound` says gets the same answer. -/
theorem resolveValue_enter_of_bound_le (start : Place) (hn : bound shelf start.root ≤ n) :
    resolveValue (enter o shelf n start []) start.root =
      resolveValue (enter o shelf (bound shelf start.root) start []) start.root :=
  Trail.root.resolveValue_enter_eq List.nodup_nil (Nat.le_add_right_of_le hn)
    (Nat.le_add_right _ _)

/-! ## What is answered is the unfolding -/

/-- If references are replaced by what they unfold to, the value becomes what it unfolds to. -/
theorem unfolds_of_resolveValue {f : Members → String → Except Stop Resolved}
    (hf : ∀ ms ref w, refText? ms = some ref → f ms ref = .ok (w, []) →
      Unfolds o shelf here (.map ms) w)
    (h : resolveValue f v = .ok (w, [])) : Unfolds o shelf here v w := by
  induction v using Value.inductionOn generalizing w with
  | scalar s => cases h; exact .scalar s
  | pair a b => cases h; exact .pair a b
  | set items => cases h; exact .set items
  | list items ih =>
    obtain ⟨items', rfl, hi⟩ := resolveValue_list_eq_ok_iff.1 h
    exact unfolds_list_iff.2
      ⟨items', rfl, forall₂_imp_of_mem_left hi fun v hv w hw => ih v hv hw⟩
  | map ms ih =>
    cases text : refText? ms with
    | some ref => exact hf ms ref w text (by rwa [resolveValue_ref text] at h)
    | none =>
      obtain ⟨ms', rfl, hi⟩ := (resolveValue_map_eq_ok_iff text).1 h
      exact (unfolds_map_iff text).2
        ⟨ms', rfl, forall₂_imp_of_mem_left hi fun m hm m' hw => ⟨hw.1, ih m hm hw.2⟩⟩

theorem unfolds_of_resolveValue_enter (strict : o.tolerant = false)
    (h : resolveValue (enter o shelf n here seen) v = .ok (w, [])) : Unfolds o shelf here v w := by
  induction n using Nat.strongRecOn generalizing here seen v w with
  | ind n ih =>
    refine unfolds_of_resolveValue (fun ms ref w text h => ?_) h
    obtain ⟨k, there, pointer, u, rfl, target, -, h⟩ := (enter_eq_ok_iff strict).1 h
    exact .ref text target (ih k (Nat.lt_succ_self k) h)

/-- Where the root is resolved, so is every node on a way, and no key occurs twice. -/
theorem Trail.keys_nodup_of_resolveValue (strict : o.tolerant = false)
    (h : Trail o shelf start visits here v)
    (hr : resolveValue (enter o shelf n start []) start.root = .ok (w, [])) :
    (visits.map Visit.key).Nodup ∧ ∃ k w',
      resolveValue (enter o shelf k here (visits.map Visit.key)) v = .ok (w', []) := by
  induction h with
  | root => exact ⟨List.nodup_nil, n, w, hr⟩
  | part _ hp ih =>
    obtain ⟨hd, k, w', h⟩ := ih
    obtain ⟨w'', h⟩ := hp.resolveValue_eq_ok h
    exact ⟨hd, k, w'', h⟩
  | follow _ text target ih =>
    obtain ⟨hd, k, w', h⟩ := ih
    rw [resolveValue_ref text] at h
    obtain ⟨k, there, pointer, u, rfl, target', hk, h⟩ := (enter_eq_ok_iff strict).1 h
    obtain ⟨rfl, rfl, rfl⟩ := target.unique target'
    exact ⟨List.nodup_cons.2 ⟨hk, hd⟩, k, w', h⟩

theorem keysApart_of_resolveValue (strict : o.tolerant = false)
    (hr : resolveValue (enter o shelf n start []) start.root = .ok (w, [])) :
    KeysApart o shelf start := by
  intro visits here v h a ha b hb hk
  exact List.inj_on_of_nodup_map (h.keys_nodup_of_resolveValue strict hr).1 ha hb hk

/-! ## What unfolds is answered -/

theorem Trail.resolveValue_of_unfolds (strict : o.tolerant = false)
    (ha : ∀ visits here v, Trail o shelf start visits here v → (visits.map Visit.key).Nodup)
    (hu : Unfolds o shelf here v w) (h : Trail o shelf start visits here v)
    (hn : bound shelf start.root ≤ n + visits.length) :
    resolveValue (enter o shelf n here (visits.map Visit.key)) v = .ok (w, []) := by
  induction hu generalizing visits n with
  | scalar | pair | set => rfl
  | list length each ih =>
    refine resolveValue_list_eq_ok_iff.2 ⟨_, rfl, List.forall₂_iff_get.2 ⟨length, ?_⟩⟩
    exact fun i hi hi' => ih i hi hi' (h.part (.item (List.get_mem _ _))) hn
  | map plain length keys each ih =>
    refine (resolveValue_map_eq_ok_iff plain).2 ⟨_, rfl, List.forall₂_iff_get.2 ⟨length, ?_⟩⟩
    exact fun i hi hi' =>
      ⟨keys i hi hi', ih i hi hi' (h.part (.member plain (List.get_mem _ _))) hn⟩
  | ref text target unfolds ih =>
    have further := h.follow text target
    obtain ⟨hk, hd⟩ := List.nodup_cons.1 (ha _ _ _ further)
    have := h.follow_lt_bound text target hd hk
    rw [resolveValue_ref text]
    refine (enter_eq_ok_iff strict).2 ⟨n - 1, _, _, _, by omega, target, hk, ?_⟩
    exact ih further (by rw [List.length_cons]; omega)

theorem resolveValue_enter_eq_ok_iff (start : Place) (strict : o.tolerant = false)
    (hn : bound shelf start.root ≤ n) {left : List RefError} :
    resolveValue (enter o shelf n start []) start.root = .ok (w, left) ↔
      left = [] ∧ Unfolds o shelf start start.root w ∧ KeysApart o shelf start := by
  constructor
  · intro h
    obtain rfl := left_eq_nil_of_strict strict h
    exact ⟨rfl, unfolds_of_resolveValue_enter strict h, keysApart_of_resolveValue strict h⟩
  · rintro ⟨rfl, hu, ha⟩
    refine Trail.root.resolveValue_of_unfolds strict ?_ hu (Nat.le_add_right_of_le hn)
    exact fun visits here v h => h.keys_nodup (h.nodup hu) ha

/-! ## Why resolution fails -/

theorem follow_error_of_designates (target : Designates o shelf here ref there pointer v)
    (h : follow o shelf here seen ref = .error stop) : stop = .ref (.circular ref) := by
  obtain ⟨t, hs, rfl, hp, hv⟩ := id target
  rw [follow_eq, hs] at h
  simp only [Except.bind, hp, hv, Except.mapError, Except.map] at h
  split at h
  · exact (Except.error.inj h).symm
  · cases h

/-- What stops the resolution is a reference on a way: it cannot be followed, or there have been too
many before it. -/
theorem Trail.exists_stopping (strict : o.tolerant = false)
    (h : Trail o shelf start visits here v)
    (he : resolveValue (enter o shelf n here seen) v = .error stop) :
    ∃ visits there ms seen ref, Trail o shelf start visits there (.map ms) ∧
      refText? ms = some ref ∧
      (Reference.follow o shelf there seen ref = .error stop ∨ stop = .ref (.circular ref)) := by
  induction n using Nat.strongRecOn generalizing visits here v seen with
  | ind n ih =>
    obtain ⟨ms, ref, hx, he⟩ := exists_exposed_of_resolveValue_eq_error he
    obtain ⟨h, text⟩ := h.exposed hx
    rcases enter_eq_error_cases strict he with
      hf | ⟨-, hs⟩ | ⟨n, there, pointer, u, k, rfl, hd, he⟩
    · exact ⟨visits, here, ms, seen, ref, h, text, .inl hf⟩
    · exact ⟨visits, here, ms, seen, ref, h, text, .inr hs⟩
    · exact ih n (Nat.lt_succ_self n) (h.follow text hd) he

/-- Where everything unfolds, only a reference that seems circular stops the resolution. -/
theorem Trail.circular_of_unfolds (strict : o.tolerant = false)
    (hu : Unfolds o shelf start start.root w) (h : Trail o shelf start visits here v)
    (he : resolveValue (enter o shelf n here seen) v = .error stop) :
    ∃ ref, stop = .ref (.circular ref) := by
  obtain ⟨_, there, ms, seen, ref, way, text, hf | hs⟩ := h.exists_stopping strict he
  · obtain ⟨w', hw⟩ := way.unfolds hu
    obtain ⟨_, _, _, target, -⟩ := hw.designates text
    exact ⟨ref, follow_error_of_designates target hf⟩
  · exact ⟨ref, hs⟩

/-- Only a reference that breaks the reader stops the resolution otherwise than by its own fault. -/
theorem Trail.breaks_of_malformed (strict : o.tolerant = false) {m : Malformed}
    (h : Trail o shelf start visits here v)
    (he : resolveValue (enter o shelf n here seen) v = .error (.malformed m)) :
    ∃ there ref, Reaches o shelf start there ref ∧ Breaks o shelf there ref m := by
  obtain ⟨visits, there, ms, seen, ref, way, text, hf | hs⟩ := h.exists_stopping strict he
  · exact ⟨there, ref, ⟨visits, ms, way, text⟩, breaks_of_follow_eq_error hf⟩
  · cases hs

/-! ## Resolving a document strictly -/

/-- Resolution that leaves no reference in place. -/
def strictly (external : Bool) (home : String) : ResolveOptions := ⟨external, false, home⟩

/-- The place that the resolution of a document starts from. -/
def startOf (o : ResolveOptions) (base : Option String) (root : Value) : Place :=
  ⟨root, plainBase o base⟩

section Resolve

variable {base : Option String} {root : Value}

/-- What strict resolution answers is the unfolding, and it answers where the keys are apart. -/
theorem resolve_eq_ok_iff (strict : o.tolerant = false) {left : List RefError} :
    resolve o shelf base root = .ok (w, left) ↔ left = [] ∧
      Unfolds o shelf (startOf o base root) root w ∧ KeysApart o shelf (startOf o base root) :=
  resolveValue_enter_eq_ok_iff (startOf o base root) strict (Nat.le_refl _)

theorem exists_error_of_resolve_ne (strict : o.tolerant = false)
    (h : ¬ ((∃ w, Unfolds o shelf (startOf o base root) root w) ∧
      KeysApart o shelf (startOf o base root))) :
    ∃ stop, resolve o shelf base root = .error stop := by
  cases hr : resolve o shelf base root with
  | error stop => exact ⟨stop, rfl⟩
  | ok r =>
    obtain ⟨-, hu, ha⟩ := (resolve_eq_ok_iff strict).1 hr
    exact absurd ⟨⟨r.1, hu⟩, ha⟩ h

theorem exists_circular_of_unfolds (strict : o.tolerant = false)
    (hu : Unfolds o shelf (startOf o base root) root w)
    (ha : ¬ KeysApart o shelf (startOf o base root)) :
    ∃ ref, resolve o shelf base root = .error (.ref (.circular ref)) := by
  obtain ⟨stop, hs⟩ := exists_error_of_resolve_ne strict fun h => ha h.2
  have way : Trail o shelf (startOf o base root) [] (startOf o base root) root := .root
  obtain ⟨ref, rfl⟩ := way.circular_of_unfolds strict hu hs
  exact ⟨ref, hs⟩

theorem breaks_of_resolve_eq_malformed (strict : o.tolerant = false) {m : Malformed}
    (h : resolve o shelf base root = .error (.malformed m)) :
    ∃ there ref, Reaches o shelf (startOf o base root) there ref ∧ Breaks o shelf there ref m := by
  have way : Trail o shelf (startOf o base root) [] (startOf o base root) root := .root
  exact way.breaks_of_malformed strict h

end Resolve

/-- Strict resolution does not depend on how many references may be followed, from `bound` on; it
answers the unfolding of the document if there is one, and if different targets on one way have
different keys; a document that unfolds is refused only as circular, and only for a clash of keys;
where no reference breaks the reader, every failure is that of a reference; and a way that comes
back to a target lets no answer through.  Keys never clash where locations have no `#`. -/
theorem resolve_strictly_iff_unfolds (external : Bool) (home : String) (shelf : Shelf)
    (base : Option String) (root : Value) :
    let o := strictly external home
    let start := startOf o base root
    (∀ n, bound shelf root ≤ n →
      resolveValue (enter o shelf n start []) root = resolve o shelf base root) ∧
    (∀ w left, resolve o shelf base root = .ok (w, left) ↔
      left = [] ∧ Unfolds o shelf start root w ∧ KeysApart o shelf start) ∧
    (∀ w, Unfolds o shelf start root w → ¬ KeysApart o shelf start →
      ∃ ref, resolve o shelf base root = .error (.ref (.circular ref))) ∧
    ((∀ here ref m, Reaches o shelf start here ref → ¬ Breaks o shelf here ref m) →
      ((∃ e, resolve o shelf base root = .error (.ref e)) ↔
        ¬ ((∃ w, Unfolds o shelf start root w) ∧ KeysApart o shelf start))) ∧
    (∀ visits here v, Trail o shelf start visits here v → ¬ visits.Nodup →
      ∃ stop, resolve o shelf base root = .error stop) ∧
    (PlainLocations shelf → Placed shelf start start → KeysApart o shelf start) := by
  intro o start
  have strict : o.tolerant = false := rfl
  refine ⟨fun n hn => resolveValue_enter_of_bound_le start hn,
    fun w left => resolve_eq_ok_iff strict, fun w hu ha => exists_circular_of_unfolds strict hu ha,
    fun sound => ⟨?_, fun h => ?_⟩, fun visits here v way hd => ?_, keysApart_of_plainLocations⟩
  · rintro ⟨e, he⟩ ⟨⟨w, hu⟩, ha⟩
    rw [(resolve_eq_ok_iff strict).2 ⟨rfl, hu, ha⟩] at he
    cases he
  · obtain ⟨stop, hs⟩ := exists_error_of_resolve_ne strict h
    cases stop with
    | ref e => exact ⟨e, hs⟩
    | malformed m =>
      obtain ⟨here, ref, hr, hb⟩ := breaks_of_resolve_eq_malformed strict hs
      exact absurd hb (sound here ref m hr)
  · refine exists_error_of_resolve_ne strict ?_
    rintro ⟨⟨w, hu⟩, -⟩
    exact hd (way.nodup hu)

/-! ## A directory with a number sign in its name -/

namespace SharpDirectory

/-- A reference with this text. -/
def refTo (ref : String) : Value := .map [(.str "$ref", .scalar (.str ref))]

def one : Value := .scalar (.int 1)

/-- The document `d#/root.json`, whose reference leads to `d#/other.json` and from there to the file
`d`. -/
def root : Value := .map [(.str "a", refTo "other.json#/p")]

def other : Value := .map [(.str "p", refTo "../d#/other.json#/p")]

def plain : Value := .map [(.str "other.json#", .map [(.str "p", one)])]

def documents : Shelf :=
  ⟨[("/w/d#/root.json", .ok root), ("/w/d#/other.json", .ok other), ("/w/d", .ok plain)],
    .fileNotFound⟩

def options : ResolveOptions := strictly true "/w"

def atOther : Place := ⟨other, some "/w/d#/other.json"⟩

def atPlain : Place := ⟨plain, some "/w/d"⟩

theorem designates_other : Designates options documents ⟨root, some "/w/d#/root.json"⟩
    "other.json#/p" atOther "/p" (refTo "../d#/other.json#/p") := by
  refine ⟨⟨some "/w/d#/other.json", "/p"⟩, by decide, rfl, ?_, ?_⟩
  · simp [placeOf, Shelf.load, documents, List.lookup_cons, atOther]
  · refine Pointer.resolve_eq_ok_iff.2 ⟨["p"], by decide, ?_⟩
    exact Pointer.walk_cons_eq_ok_iff.2 ⟨_, .member rfl, rfl⟩

theorem designates_plain : Designates options documents atOther "../d#/other.json#/p"
    atPlain "/other.json#/p" one := by
  refine ⟨⟨some "/w/d", "/other.json#/p"⟩, by decide, rfl, ?_, ?_⟩
  · simp [placeOf, Shelf.load, documents, List.lookup_cons, atPlain]
  · refine Pointer.resolve_eq_ok_iff.2 ⟨["other.json#", "p"], by decide, ?_⟩
    refine Pointer.walk_cons_eq_ok_iff.2 ⟨_, .member rfl, ?_⟩
    exact Pointer.walk_cons_eq_ok_iff.2 ⟨_, .member rfl, rfl⟩

end SharpDirectory

open SharpDirectory in
/-- The document unfolds, and yet its resolution finds a circle: the file `d` under the pointer
`/other.json#/p` has the key of `d#/other.json` under the pointer `/p`. -/
theorem unfolds_and_circular_of_sharp :
    Unfolds options documents (startOf options (some "d#/root.json") root) root
      (.map [(.str "a", one)]) ∧
    documents.load "/w/d#/root.json" = .ok root ∧
    ∃ ref, resolve options documents (some "d#/root.json") root =
      .error (.ref (.circular ref)) := by
  have start : startOf options (some "d#/root.json") root = ⟨root, some "/w/d#/root.json"⟩ :=
    congrArg (Place.mk root) (by decide)
  have unfolds : Unfolds options documents (startOf options (some "d#/root.json") root) root
      (.map [(.str "a", one)]) := by
    rw [start]
    refine (unfolds_map_iff rfl).2 ⟨_, rfl, .cons ⟨rfl, ?_⟩ .nil⟩
    exact .ref rfl designates_other (.ref rfl designates_plain (.scalar _))
  refine ⟨unfolds, by simp [Shelf.load, documents], exists_circular_of_unfolds rfl unfolds ?_⟩
  rw [start]
  have atRef : Trail options documents ⟨root, some "/w/d#/root.json"⟩ []
      ⟨root, some "/w/d#/root.json"⟩ (refTo "other.json#/p") :=
    .part .root (.member (m := (.str "a", refTo "other.json#/p")) rfl List.mem_cons_self)
  have way := (atRef.follow rfl designates_other).follow rfl designates_plain
  intro apart
  have same := apart _ _ _ way (atPlain, _) List.mem_cons_self (atOther, _)
    (List.mem_cons_of_mem _ List.mem_cons_self) (by decide)
  exact absurd (congrArg (fun a => a.2) same) (by decide)

end ApiAccord.Reference
