/-!
# The row of waiting tokens

Tokens that were read but not handed out yet wait in a row of cells, behind the cells of those that
were handed out. When the last cell is taken, the waiting tokens move up to the first one; if all
of them are still waiting, a longer row replaces the full one.

A token that was handed out stays in its cell until another one comes to stand there. `vacated?` is
what the cell of the token handed out last holds by now.
-/

namespace Lanewise.Yaml

structure Row (α : Type) where
  waiting : List α := []
  free : Nat := 0
  capacity : Nat := 0
  /-- The token handed out last. If the row was replaced since, what stood in its cell then. -/
  last? : Option α := none
  /-- The cell that token was in, unless the row was replaced since. -/
  cell? : Option Nat := none

namespace Row

variable {α : Type}

def lengths : List Nat :=
  [1, 2, 4, 8, 18, 37, 75, 151, 341, 625, 1024, 1479, 2048, 2787, 3697, 4835, 6257, 8021, 10240,
    13027, 16497, 20821]

def lengthAfter (n : Nat) : Nat := (lengths.find? (n < ·)).getD (n + n / 4 + 192)

def vacated? (r : Row α) : Option α :=
  -- Only tokens that moved up can have come to stand there.
  if r.free == 0 then (r.cell?.bind fun n => r.waiting[n]?).or r.last? else r.last?

def makeRoom (r : Row α) : Row α :=
  if r.free + r.waiting.length < r.capacity then r
  else if 0 < r.free then { r with free := 0 }
  else { r with capacity := lengthAfter r.capacity, last? := r.vacated?, cell? := none }

def push (r : Row α) (x : α) : Row α := { r.makeRoom with waiting := r.waiting ++ [x] }

def insert (r : Row α) (n : Nat) (x : α) : Row α :=
  { r.makeRoom with waiting := r.waiting.insertIdx n x }

def take? (r : Row α) : Option (α × Row α) :=
  match r.waiting with
  | [] => none
  | x :: rest =>
    some (x, { r with waiting := rest, free := r.free + 1, last? := some x, cell? := some r.free })

@[simp] theorem waiting_push (r : Row α) (x : α) : (r.push x).waiting = r.waiting ++ [x] := rfl

@[simp] theorem waiting_insert (r : Row α) (n : Nat) (x : α) :
    (r.insert n x).waiting = r.waiting.insertIdx n x := rfl

theorem waiting_of_take? {r s : Row α} {x : α} (h : r.take? = some (x, s)) :
    r.waiting = x :: s.waiting := by
  unfold take? at h
  split at h
  · simp at h
  · rename_i y rest hr
    obtain ⟨rfl, rfl⟩ := Prod.mk.inj (Option.some.inj h)
    exact hr

theorem vacated?_of_take? {r s : Row α} {x : α} (h : r.take? = some (x, s)) :
    s.vacated? = some x := by
  unfold take? at h
  split at h
  · simp at h
  · obtain ⟨rfl, rfl⟩ := Prod.mk.inj (Option.some.inj h)
    simp [vacated?]

end Row

end Lanewise.Yaml
