import Lanewise.Check.Fault
import Lanewise.Program.Expr

/-!
# Inferences

The outcome of typing an expression: a result or a type error, and the types found on the way.
Types found before an error stay. The place of a found type is the path from the expression in
question down to the one that has the type, so that an inference makes sense wherever its
expression stands, and `below` moves it one level down.
-/

namespace Lanewise

/-- The types of expressions in the order in which they were found. -/
abbrev TypeLog := List (Path × Ty)

namespace TypeLog

/-- The same types, seen from the parent of which this is child number `n`. -/
def below (n : Nat) (log : TypeLog) : TypeLog := log.map fun (path, t) => (n :: path, t)

def typeAt? (log : TypeLog) (path : Path) : Option Ty := log.lookup path

end TypeLog

structure Inference (α : Type) where
  types : TypeLog
  result : Except TypeError α

namespace Inference

variable {α β : Type}

instance : Monad Inference where
  pure a := ⟨[], .ok a⟩
  bind m f :=
    match m.result with
    | .ok a =>
      let next := f a
      ⟨m.types ++ next.types, next.result⟩
    | .error e => ⟨m.types, .error e⟩

instance : MonadExceptOf TypeError Inference where
  throw e := ⟨[], .error e⟩
  tryCatch m handle :=
    match m.result with
    | .ok a => ⟨m.types, .ok a⟩
    | .error e =>
      let next := handle e
      ⟨m.types ++ next.types, next.result⟩

@[simp] theorem types_pure (a : α) : (pure a : Inference α).types = [] := rfl

@[simp] theorem result_pure (a : α) : (pure a : Inference α).result = .ok a := rfl

theorem bind_of_ok {m : Inference α} {a : α} (h : m.result = .ok a) (f : α → Inference β) :
    m >>= f = ⟨m.types ++ (f a).types, (f a).result⟩ := by
  simp only [bind, h]

theorem bind_of_error {m : Inference α} {e : TypeError} (h : m.result = .error e)
    (f : α → Inference β) : m >>= f = ⟨m.types, .error e⟩ := by
  simp only [bind, h]

theorem result_bind_eq_ok {m : Inference α} {f : α → Inference β} {b : β} :
    (m >>= f).result = .ok b ↔ ∃ a, m.result = .ok a ∧ (f a).result = .ok b := by
  cases h : m.result with
  | ok a => simp [bind_of_ok h]
  | error e => simp [bind_of_error h]

def fail (pos : Pos) (fault : Fault) : Inference α := throw ⟨pos, fault⟩

def require (condition : Bool) (pos : Pos) (fault : Fault) : Inference Unit :=
  if condition then pure () else fail pos fault

/-- Notes the type of the expression at a path. There is nothing to note if it has none. -/
def note (path : Path) (t : Ty) : Inference Unit :=
  if t.isAbsent then pure () else ⟨[(path, t)], .ok ()⟩

def below (n : Nat) (m : Inference α) : Inference α := ⟨m.types.below n, m.result⟩

def noted (m : Inference Ty) : Inference Ty := do
  let t ← m
  note [] t
  return t

end Inference

end Lanewise
