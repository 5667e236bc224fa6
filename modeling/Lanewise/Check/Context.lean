import Lanewise.Ty.Basic

/-!
# Contexts

What a checker knows about names: the bindings in the order in which they were made, the scopes
that are open, and the type names that annotations may use without a definition.

All bindings live in one list, newest first. Opening a scope remembers how many bindings there are,
and closing it drops those made since. A lookup takes the newest binding, so inner declarations
shadow outer ones and are gone when their scope is closed.
-/

namespace Lanewise

inductive SymbolKind
  | variable | parameter | function | builtin
  | other (code : Int)
  deriving DecidableEq, Repr, Inhabited

namespace SymbolKind

def text : SymbolKind → String
  | .variable => "variable"
  | .parameter => "parameter"
  | .function => "function"
  | .builtin => "builtin"
  | .other _ => "unknown"

def ofCode (code : Int) : SymbolKind :=
  match code with
  | 0 => .variable
  | 1 => .parameter
  | 2 => .function
  | 3 => .builtin
  | _ => .other code

def isFunction : SymbolKind → Bool
  | .function | .builtin => true
  | _ => false

end SymbolKind

structure Symbol where
  name : String
  ty : Ty
  isMut : Bool
  kind : SymbolKind
  deriving DecidableEq, Repr, Inhabited

structure Frame where
  /-- How many bindings there were when the scope was opened. -/
  start : Nat
  /-- What a return has to give, if the scope is the body of a function. -/
  returns : Option Ty
  deriving DecidableEq, Repr, Inhabited

structure Context where
  /-- Newest first. -/
  symbols : List Symbol
  /-- The open scopes, innermost first. The outermost scope is not among them, so it is never
  closed. -/
  frames : List Frame
  opaqueNames : List String
  deriving Repr, Inhabited

namespace Context

def builtins : List (String × Signature) := [
  ("print", ⟨[.string], .unit, false⟩),
  ("println", ⟨[.string], .unit, false⟩),
  ("printf", ⟨[.string], .unit, true⟩)]

def functionSymbol (kind : SymbolKind) (name : String) (sig : Option Signature) : Symbol :=
  { name, ty := .ofSignature sig, isMut := false, kind }

def initial : Context where
  symbols := builtins.map fun (name, sig) => functionSymbol .builtin name (some sig)
  frames := []
  opaqueNames := []

def define (c : Context) (s : Symbol) : Context := { c with symbols := s :: c.symbols }

/-- Binds a variable or parameter in the innermost scope. A symbol that claims to be a function
becomes a variable. -/
def defineVariable (c : Context) (s : Symbol) : Context :=
  c.define (if s.kind.isFunction then { s with kind := .variable } else s)

def defineFunction (c : Context) (name : String) (sig : Option Signature) : Context :=
  c.define (functionSymbol .function name sig)

def variableNamed? (c : Context) (name : String) : Option Symbol :=
  c.symbols.find? fun s => s.name == name && !s.kind.isFunction

def functionNamed? (c : Context) (name : String) : Option Ty :=
  (c.symbols.find? fun s => s.name == name && s.kind.isFunction).map (·.ty)

def mark (c : Context) : Nat := c.symbols.length

def keep (c : Context) (n : Nat) : Context :=
  { c with symbols := c.symbols.drop (c.symbols.length - n) }

/-- Drops every binding made since `mark`. A mark that is not behind the present changes
nothing. -/
def rollback (c : Context) (mark : Int) : Context :=
  if mark < 0 || (c.mark : Int) ≤ mark then c else c.keep mark.toNat

def push (c : Context) : Context := { c with frames := ⟨c.mark, none⟩ :: c.frames }

def enter (c : Context) (ret : Ty) : Context :=
  { c with frames := ⟨c.mark, if ret.isAbsent then none else some ret⟩ :: c.frames }

/-- Closes the innermost scope and drops its bindings. The outermost scope stays. -/
def pop (c : Context) : Context :=
  match c.frames with
  | [] => c
  | frame :: outer => { c.keep frame.start with frames := outer }

def depth (c : Context) : Nat := c.frames.length + 1

/-- What the innermost function around here returns; nothing outside of every function. -/
def returnType? (c : Context) : Option Ty := c.frames.findSome? (·.returns)

def declareOpaque (c : Context) (name : String) : Context :=
  { c with opaqueNames := name :: c.opaqueNames }

def isOpaque (c : Context) (name : String) : Bool := c.opaqueNames.contains name

def newestOfEach {α : Type} : List (String × α) → List (String × α)
  | [] => []
  | entry :: rest => entry :: (newestOfEach rest).filter (·.1 != entry.1)

@[simp] theorem keep_mark (c : Context) : c.keep c.mark = c := by simp [keep, mark]

@[simp] theorem pop_push (c : Context) : c.push.pop = c := by
  simp [push, pop, keep, mark]

@[simp] theorem pop_enter (c : Context) (ret : Ty) : (c.enter ret).pop = c := by
  simp [enter, pop, keep, mark]

@[simp] theorem rollback_define (c : Context) (s : Symbol) :
    (c.define s).rollback c.mark = c := by
  have ahead : ¬((c.mark : Int) < 0 ∨ ((c.define s).mark : Int) ≤ c.mark) := by
    simp only [define, mark, List.length_cons]
    omega
  simp only [rollback, Bool.or_eq_true, decide_eq_true_eq, if_neg ahead, Int.toNat_natCast]
  simp [keep, define, mark]

@[simp] theorem depth_push (c : Context) : c.push.depth = c.depth + 1 := rfl

@[simp] theorem depth_enter (c : Context) (ret : Ty) : (c.enter ret).depth = c.depth + 1 := rfl

def visibleVariables (c : Context) : List (String × Ty) :=
  newestOfEach ((c.symbols.filter (!·.kind.isFunction)).map fun s => (s.name, s.ty))

def visibleFunctions (c : Context) : List (String × Ty) :=
  newestOfEach ((c.symbols.filter (·.kind.isFunction)).map fun s => (s.name, s.ty))

end Context

end Lanewise
