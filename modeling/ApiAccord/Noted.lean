import ApiAccord.Failure

/-!
# Outcomes with notices

A `Noted` outcome comes with the notices that were given on the way to it.  A `Task` is a
computation with such an outcome that works on a state; the state outlives a failure.
-/

namespace ApiAccord

/-- An outcome, and the notices given on the way to it. -/
structure Noted (α : Type) where
  notices : List String
  outcome : Except Failure α

namespace Noted

variable {α β : Type}

def fail (f : Failure) : Noted α := ⟨[], .error f⟩

def ofExcept (outcome : Except Failure α) : Noted α := ⟨[], outcome⟩

/-- Goes on with an outcome that is no failure; the notices add up. -/
def andThen (n : Noted α) (f : α → Noted β) : Noted β :=
  match n.outcome with
  | .ok a =>
    let m := f a
    ⟨n.notices ++ m.notices, m.outcome⟩
  | .error e => ⟨n.notices, .error e⟩

instance : Monad Noted where
  pure a := ⟨[], .ok a⟩
  bind := andThen

/-- Adds notices. -/
def note (lines : List String) : Noted Unit := ⟨lines, .ok ()⟩

end Noted

/-- A computation that works on a state. -/
structure Task (σ α : Type) where
  run : σ → Noted α × σ

namespace Task

variable {σ τ α β : Type}

/-- Goes on with an outcome that is no failure, from the state that it left. -/
def andThen (t : Task σ α) (f : α → Task σ β) : Task σ β where
  run s :=
    let (n, s) := t.run s
    match n.outcome with
    | .ok a =>
      let (m, s) := (f a).run s
      (⟨n.notices ++ m.notices, m.outcome⟩, s)
    | .error e => (⟨n.notices, .error e⟩, s)

instance : Monad (Task σ) where
  pure a := ⟨fun s => (pure a, s)⟩
  bind := andThen

/-- An outcome that does not touch the state. -/
def ofNoted (n : Noted α) : Task σ α := ⟨fun s => (n, s)⟩

def ofExcept (outcome : Except Failure α) : Task σ α := ofNoted (.ofExcept outcome)

def fail (f : Failure) : Task σ α := ofNoted (.fail f)

/-- Something that the state tells. -/
def look (f : σ → α) : Task σ α := ⟨fun s => (pure (f s), s)⟩

/-- Changes the state. -/
def change (f : σ → σ) : Task σ Unit := ⟨fun s => (pure (), f s)⟩

/-- Takes something out of the state. -/
def take (f : σ → α × σ) : Task σ α where
  run s :=
    let (a, s) := f s
    (pure a, s)

/-- Does a task on a part of the state. -/
def onPart (get : τ → σ) (set : σ → τ → τ) (t : Task σ α) : Task τ α where
  run s :=
    let (n, part) := t.run (get s)
    (n, set part s)

end Task

end ApiAccord
