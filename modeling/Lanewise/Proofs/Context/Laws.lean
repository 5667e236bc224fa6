import Lanewise.Check.Context
import Mathlib.Logic.Function.Basic

/-!
# Laws of contexts

What the operations of a context do to what can be seen of it. A context that only grew is taken
back by closing the scope from which it grew (`pop_push_extend`, `pop_enter_extend`). A binding
changes one of the two look-ups at one name, and the listings hold what the look-ups find
(`visibleVariables_lists`, `visibleFunctions_lists`).
-/

namespace Lanewise

/-- The entries are those of the map, each name once. -/
def Lists (entries : List (String × α)) (m : String → Option α) : Prop :=
  (entries.map Prod.fst).Nodup ∧ ∀ name, entries.lookup name = m name

namespace Context

-- ---------------------------------------------------------------------------
-- Contexts that grew
-- ---------------------------------------------------------------------------

def extend (c : Context) (new : List Symbol) : Context := { c with symbols := new ++ c.symbols }

@[simp] theorem extend_nil (c : Context) : c.extend [] = c := rfl

@[simp] theorem symbols_extend (c : Context) : (c.extend new).symbols = new ++ c.symbols := rfl

@[simp] theorem frames_extend (c : Context) : (c.extend new).frames = c.frames := rfl

@[simp] theorem opaqueNames_extend (c : Context) :
    (c.extend new).opaqueNames = c.opaqueNames := rfl

@[simp] theorem extend_extend (c : Context) :
    (c.extend first).extend second = c.extend (second ++ first) := by
  simp [extend]

theorem define_eq_extend (c : Context) (s : Symbol) : c.define s = c.extend [s] := rfl

theorem drop_append_length (new old : List α) :
    (new ++ old).drop ((new ++ old).length - old.length) = old := by
  simp

@[simp] theorem pop_push_extend (c : Context) : (c.push.extend new).pop = c := by
  simp only [push, extend, pop, keep, mark]
  rw [drop_append_length]

@[simp] theorem pop_enter_extend (c : Context) : ((c.enter ret).extend new).pop = c := by
  simp only [enter, extend, pop, keep, mark]
  rw [drop_append_length]

/-- Neither closing a scope nor going back to a mark concerns the names of types. -/
@[simp] theorem opaqueNames_pop (c : Context) : c.pop.opaqueNames = c.opaqueNames := by
  unfold pop
  split <;> rfl

@[simp] theorem opaqueNames_rollback (c : Context) :
    (c.rollback n).opaqueNames = c.opaqueNames := by
  unfold rollback
  split <;> rfl

theorem foldl_declareOpaque (names : List String) (c : Context) :
    names.foldl declareOpaque c = { c with opaqueNames := names.reverse ++ c.opaqueNames } := by
  induction names generalizing c with
  | nil => rfl
  | cons name rest ih => simp [ih, declareOpaque]

-- ---------------------------------------------------------------------------
-- Look-ups
-- ---------------------------------------------------------------------------

def asVariable (s : Symbol) : Symbol :=
  if s.kind.isFunction then { s with kind := .variable } else s

theorem defineVariable_eq (c : Context) (s : Symbol) :
    c.defineVariable s = c.define (asVariable s) := rfl

@[simp] theorem name_asVariable (s : Symbol) : (asVariable s).name = s.name := by
  unfold asVariable
  split <;> rfl

@[simp] theorem ty_asVariable (s : Symbol) : (asVariable s).ty = s.ty := by
  unfold asVariable
  split <;> rfl

@[simp] theorem isFunction_asVariable (s : Symbol) : (asVariable s).kind.isFunction = false := by
  unfold asVariable
  split
  · rfl
  · rename_i h
    simpa using h

theorem variableNamed?_defineVariable (c : Context) (s : Symbol) :
    (c.defineVariable s).variableNamed? =
      Function.update c.variableNamed? s.name (some (asVariable s)) := by
  funext name
  by_cases h : name = s.name
  · subst h
    simp [defineVariable_eq, define, variableNamed?]
  · simp [defineVariable_eq, define, variableNamed?, Function.update_of_ne h, Ne.symm h]

theorem functionNamed?_defineVariable (c : Context) (s : Symbol) :
    (c.defineVariable s).functionNamed? = c.functionNamed? := by
  funext name
  simp [defineVariable_eq, define, functionNamed?]

theorem variableNamed?_defineFunction (c : Context) :
    (c.defineFunction name sig).variableNamed? = c.variableNamed? := by
  funext other
  simp [defineFunction, define, variableNamed?, functionSymbol, SymbolKind.isFunction]

theorem functionNamed?_defineFunction (c : Context) :
    (c.defineFunction name sig).functionNamed? =
      Function.update c.functionNamed? name (some (.ofSignature sig)) := by
  funext other
  by_cases h : other = name
  · subst h
    simp [defineFunction, define, functionNamed?, functionSymbol, SymbolKind.isFunction]
  · simp [defineFunction, define, functionNamed?, functionSymbol, Function.update_of_ne h,
      Ne.symm h]

theorem variableNamed?_initial : initial.variableNamed? = fun _ => none := by
  funext name
  simp [variableNamed?, initial, functionSymbol, SymbolKind.isFunction]

theorem functionNamed?_initial :
    initial.functionNamed? =
      fun name => (builtins.lookup name).map fun sig => .ofSignature (some sig) := by
  funext name
  simp only [functionNamed?, initial]
  induction builtins with
  | nil => rfl
  | cons builtin rest ih =>
    obtain ⟨first, sig⟩ := builtin
    by_cases same : name = first
    · simp [same, functionSymbol, SymbolKind.isFunction]
    · have skip : (name == first) = false := by simpa using same
      simpa [List.lookup_cons, skip, functionSymbol, Ne.symm same] using ih

-- ---------------------------------------------------------------------------
-- Listings
-- ---------------------------------------------------------------------------

theorem newestOfEach_nodup (entries : List (String × α)) :
    ((newestOfEach entries).map Prod.fst).Nodup := by
  induction entries with
  | nil => exact List.nodup_nil
  | cons entry rest ih =>
    simp only [newestOfEach, List.map_cons, List.nodup_cons]
    refine ⟨?_, ih.sublist (List.filter_sublist.map _)⟩
    intro mem
    obtain ⟨other, hother, same⟩ := List.mem_map.mp mem
    simp [same] at hother

theorem lookup_filter_ne {entries : List (String × α)} (h : name ≠ other) :
    (entries.filter (·.1 != other)).lookup name = entries.lookup name := by
  induction entries with
  | nil => rfl
  | cons entry rest ih =>
    obtain ⟨key, value⟩ := entry
    by_cases same : key = other
    · subst same
      have skip : (name == key) = false := by simpa using h
      simp [ih, List.lookup_cons, skip]
    · simp [same, ih, List.lookup_cons]

theorem lookup_newestOfEach (entries : List (String × α)) :
    (newestOfEach entries).lookup name = entries.lookup name := by
  induction entries with
  | nil => rfl
  | cons entry rest ih =>
    obtain ⟨key, value⟩ := entry
    simp only [newestOfEach, List.lookup_cons]
    by_cases same : name = key
    · simp [same]
    · simp [lookup_filter_ne same, ih]

theorem lookup_filter_map (symbols : List Symbol) (p : Symbol → Bool) :
    ((symbols.filter p).map fun s => (s.name, s.ty)).lookup name =
      (symbols.find? fun s => s.name == name && p s).map (·.ty) := by
  induction symbols with
  | nil => rfl
  | cons s rest ih =>
    by_cases hp : p s
    · by_cases same : s.name = name
      · simp [hp, same]
      · have skip : (name == s.name) = false := by simpa using Ne.symm same
        simp [hp, same, List.lookup_cons, skip, ih]
    · simp [hp, ih]

theorem visibleVariables_lists (c : Context) :
    Lists c.visibleVariables fun name => (c.variableNamed? name).map (·.ty) := by
  refine ⟨newestOfEach_nodup _, fun name => ?_⟩
  rw [visibleVariables, lookup_newestOfEach, lookup_filter_map]
  rfl

theorem visibleFunctions_lists (c : Context) : Lists c.visibleFunctions c.functionNamed? := by
  refine ⟨newestOfEach_nodup _, fun name => ?_⟩
  rw [visibleFunctions, lookup_newestOfEach, lookup_filter_map]
  rfl

end Context

end Lanewise
