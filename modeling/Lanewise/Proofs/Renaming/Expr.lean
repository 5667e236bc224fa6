import Lanewise.Proofs.Check.Inference
import Lanewise.Proofs.Check.Places
import Lanewise.Proofs.Context.Laws

/-!
# Renaming in expressions

A renaming goes through the names of variables and functions in an expression and in a context.
What a renamed name stands for in a renamed context is what the name stood for, so a renamed
expression has the type of the expression (`infer_rename`). If it has none, the errors are of one
kind and at one place; the names they mention are not compared.
-/

namespace Lanewise

variable {r : String → String}

-- ---------------------------------------------------------------------------
-- Expressions
-- ---------------------------------------------------------------------------

namespace Expr

mutual
/-- Renames the identifiers. Fields, vector kinds and patterns are no names of variables. -/
def rename (r : String → String) : Expr → Expr
  | .absent => .absent
  | .int p value => .int p value
  | .float p value => .float p value
  | .bool p value => .bool p value
  | .string p value => .string p value
  | .ident p name => .ident p (r name)
  | .binary p op left right => .binary p op (left.rename r) (right.rename r)
  | .unary p op operand => .unary p op (operand.rename r)
  | .call p callee args => .call p (callee.rename r) (renameAll r args)
  | .group p inner => .group p (inner.rename r)
  | .index p object offset => .index p (object.rename r) (offset.rename r)
  | .field p object name => .field p (object.rename r) name
  | .vector p elements kind => .vector p (renameAll r elements) kind
  | .lanewise p op left right => .lanewise p op (left.rename r) (right.rename r)
  | .broadcast p op scalar v => .broadcast p op (scalar.rename r) (v.rename r)
  | .reduce p op operand => .reduce p op (operand.rename r)
  | .dot p left right => .dot p (left.rename r) (right.rename r)
  | .swizzle p operand pattern => .swizzle p (operand.rename r) pattern
  | .load p address kind => .load p (address.rename r) kind
  | .store p address value => .store p (address.rename r) (value.rename r)
def renameAll (r : String → String) : List Expr → List Expr
  | [] => []
  | e :: es => e.rename r :: renameAll r es
end

theorem renameAll_eq_map (es : List Expr) : renameAll r es = es.map (rename r) := by
  induction es with
  | nil => rfl
  | cons e es ih => rw [renameAll, ih, List.map_cons]

@[simp] theorem length_renameAll (es : List Expr) : (renameAll r es).length = es.length := by
  rw [renameAll_eq_map, List.length_map]

@[simp] theorem pos_rename (e : Expr) : (e.rename r).pos = e.pos := by
  cases e <;> rfl

theorem children_rename (e : Expr) : (e.rename r).children = e.children.map (rename r) := by
  cases e with
  | call => simp [rename, children, renameAll_eq_map]
  | vector => simp [rename, children, renameAll_eq_map]
  | _ => rfl

theorem exprAt?_rename (e : Expr) (path : Path) :
    (e.rename r).exprAt? path = (e.exprAt? path).map (rename r) := by
  induction path generalizing e with
  | nil => rfl
  | cons n path ih =>
    rw [exprAt?, exprAt?, children_rename, List.getElem?_map]
    cases e.children[n]? with
    | none => rfl
    | some child => exact ih child

end Expr

-- ---------------------------------------------------------------------------
-- Contexts
-- ---------------------------------------------------------------------------

def Symbol.rename (r : String → String) (s : Symbol) : Symbol := { s with name := r s.name }

namespace Context

/-- Renames the bindings. The names of types stay. -/
def rename (r : String → String) (c : Context) : Context :=
  { c with symbols := c.symbols.map (·.rename r) }

@[simp] theorem mark_rename (c : Context) : (c.rename r).mark = c.mark := List.length_map ..

theorem keep_rename (c : Context) (n : Nat) : (c.rename r).keep n = (c.keep n).rename r := by
  simp [keep, rename, List.map_drop]

theorem rollback_rename (c : Context) (mark : Int) :
    (c.rename r).rollback mark = (c.rollback mark).rename r := by
  unfold rollback
  rw [mark_rename]
  split
  · rfl
  · exact c.keep_rename _

theorem push_rename (c : Context) : (c.rename r).push = c.push.rename r := by
  simp only [push, mark_rename]
  rfl

theorem enter_rename (c : Context) (ret : Ty) :
    (c.rename r).enter ret = (c.enter ret).rename r := by
  simp only [enter, mark_rename]
  rfl

theorem defineVariable_rename (c : Context) (s : Symbol) :
    (c.rename r).defineVariable (s.rename r) = (c.defineVariable s).rename r := by
  cases h : s.kind.isFunction <;>
    simp [defineVariable, define, rename, Symbol.rename, h]

theorem pop_rename (c : Context) : (c.rename r).pop = c.pop.rename r := by
  obtain ⟨symbols, frames, names⟩ := c
  cases frames with
  | nil => rfl
  | cons frame outer =>
    have kept := keep_rename (r := r) ⟨symbols, frame :: outer, names⟩ frame.start
    exact congrArg (fun c : Context => { c with frames := outer }) kept

theorem find?_rename (hr : Function.Injective r) (c : Context) (name : String)
    (kinds : SymbolKind → Bool) :
    (c.rename r).symbols.find? (fun s => s.name == r name && kinds s.kind) =
      (c.symbols.find? fun s => s.name == name && kinds s.kind).map (·.rename r) := by
  have same (s : Symbol) : ((s.rename r).name == r name) = (s.name == name) := by
    rw [Bool.eq_iff_iff, beq_iff_eq, beq_iff_eq]
    exact hr.eq_iff
  rw [rename, List.find?_map]
  simp only [Function.comp_def, same]
  rfl

theorem variableNamed?_rename (hr : Function.Injective r) (c : Context) (name : String) :
    (c.rename r).variableNamed? (r name) = (c.variableNamed? name).map (·.rename r) :=
  find?_rename hr c name (!·.isFunction)

theorem functionNamed?_rename (hr : Function.Injective r) (c : Context) (name : String) :
    (c.rename r).functionNamed? (r name) = c.functionNamed? name := by
  rw [functionNamed?, find?_rename hr c name (·.isFunction), Option.map_map]
  rfl

theorem newestOfEach_rename (hr : Function.Injective r) (entries : List (String × α)) :
    newestOfEach (entries.map fun (name, a) => (r name, a)) =
      (newestOfEach entries).map fun (name, a) => (r name, a) := by
  induction entries with
  | nil => rfl
  | cons entry rest ih =>
    have same (other : String × α) : (r other.1 != r entry.1) = (other.1 != entry.1) := by
      rw [Bool.eq_iff_iff, bne_iff_ne, bne_iff_ne]
      exact hr.ne_iff
    rw [List.map_cons, newestOfEach, ih, newestOfEach, List.map_cons, List.filter_map]
    simp only [Function.comp_def, same]

theorem visible_rename (hr : Function.Injective r) (c : Context) :
    (c.rename r).visibleVariables = c.visibleVariables.map (fun (name, t) => (r name, t)) ∧
      (c.rename r).visibleFunctions = c.visibleFunctions.map fun (name, t) => (r name, t) := by
  unfold visibleVariables visibleFunctions
  rw [← newestOfEach_rename hr, ← newestOfEach_rename hr, rename]
  simp only [List.filter_map, List.map_map]
  exact ⟨rfl, rfl⟩

end Context

-- ---------------------------------------------------------------------------
-- Types
-- ---------------------------------------------------------------------------

/-- Equal results, or errors of one kind at one place. -/
inductive SameResult : Except TypeError α → Except TypeError α → Prop
  | ok (a : α) : SameResult (.ok a) (.ok a)
  | error (hpos : e'.pos = e.pos) (hkind : e'.fault.kind = e.fault.kind) :
    SameResult (.error e) (.error e')

theorem SameResult.refl (x : Except TypeError α) : SameResult x x := by
  cases x with
  | ok a => exact .ok a
  | error e => exact .error rfl rfl

structure Inference.Same (m m' : Inference α) : Prop where
  types : m'.types = m.types
  result : SameResult m.result m'.result

namespace Inference.Same

variable {m m' : Inference α} {f f' : α → Inference β}

theorem refl (m : Inference α) : m.Same m := ⟨rfl, .refl _⟩

theorem fail (hkind : fault'.kind = fault.kind) :
    Same (fail pos fault : Inference α) (Inference.fail pos fault') :=
  ⟨rfl, .error rfl hkind⟩

theorem require (hkind : fault'.kind = fault.kind) :
    Same (require condition pos fault) (Inference.require condition pos fault') := by
  unfold Inference.require
  split
  · exact .refl _
  · exact .fail hkind

theorem bind (hm : m.Same m') (hf : ∀ a, (f a).Same (f' a)) : (m >>= f).Same (m' >>= f') := by
  obtain ⟨types, result⟩ := m
  obtain ⟨_, result'⟩ := m'
  obtain ⟨rfl, hresult⟩ := hm
  cases hresult with
  | ok a =>
    rw [bind_of_ok rfl, bind_of_ok rfl]
    refine ⟨?_, (hf a).result⟩
    simp only [(hf a).types]
  | error hpos hkind =>
    rw [bind_of_error rfl, bind_of_error rfl]
    exact ⟨rfl, .error hpos hkind⟩

theorem below (hm : m.Same m') (n : Nat) : (m.below n).Same (m'.below n) :=
  ⟨congrArg (TypeLog.below n) hm.types, hm.result⟩

theorem noted {m m' : Inference Ty} (hm : m.Same m') : m.noted.Same m'.noted :=
  .bind hm fun _ => .refl _

theorem typeOfName (hr : Function.Injective r) (c : Context) (pos : Pos) (name : String) :
    Same (c.typeOfName pos name) ((c.rename r).typeOfName pos (r name)) := by
  unfold Context.typeOfName
  rw [c.variableNamed?_rename hr, c.functionNamed?_rename hr]
  cases c.variableNamed? name with
  | some s => exact .refl _
  | none =>
    cases c.functionNamed? name with
    | some t => exact .refl _
    | none => exact .fail rfl

theorem callee (hr : Function.Injective r) (c : Context) (pos : Pos) (name : String) :
    Same (c.callee pos name) ((c.rename r).callee pos (r name)) := by
  unfold Context.callee
  rw [c.variableNamed?_rename hr, c.functionNamed?_rename hr, Option.isSome_map]
  split
  · exact .refl _
  split
  · exact .fail rfl
  · exact .fail rfl

theorem checkCount (sig : Signature) (pos : Pos) (name : String) (count : Nat) :
    Same (sig.checkCount pos name count) (sig.checkCount pos (r name) count) := by
  unfold Signature.checkCount
  split
  · exact .require rfl
  · exact .require rfl

theorem checkArgument (name : String) (n : Nat) (params : List Ty) (pos : Pos) (t : Ty) :
    Same (checkArgument name n params pos t) (Lanewise.checkArgument (r name) n params pos t) := by
  cases params with
  | nil => exact .refl _
  | cons => exact .require rfl

end Inference.Same

section
variable {d : Detector} {c : Context}

mutual
theorem infer_rename (hr : Function.Injective r) : (e : Expr) →
    (e.infer d c).Same ((e.rename r).infer d (c.rename r))
  | .absent | .int .. | .float .. | .bool .. | .string .. | .field .. => by
    simp only [Expr.rename, Expr.infer]
    exact .refl _
  | .ident p name => by
    simp only [Expr.rename, Expr.infer]
    exact .noted (.typeOfName hr c p name)
  | .binary _ _ a b | .broadcast _ _ a b => by
    simp only [Expr.rename, Expr.infer]
    exact .noted (.bind (.below (infer_rename hr a) 0) fun _ =>
      .bind (.below (infer_rename hr b) 1) fun _ => .refl _)
  | .index _ a b => by
    simp only [Expr.rename, Expr.infer, Expr.pos_rename]
    exact .noted (.bind (.below (infer_rename hr a) 0) fun _ =>
      .bind (.below (infer_rename hr b) 1) fun _ => .refl _)
  | .lanewise _ _ a b | .dot _ a b | .store _ a b => by
    simp only [Expr.rename, Expr.infer]
    exact .noted (.bind (.below (infer_rename hr a) 0) fun _ => .bind (.refl _) fun _ =>
      .bind (.below (infer_rename hr b) 1) fun _ => .refl _)
  | .unary _ _ e | .reduce _ _ e | .swizzle _ e _ | .load _ e _ => by
    simp only [Expr.rename, Expr.infer]
    exact .noted (.bind (.below (infer_rename hr e) 0) fun _ => .refl _)
  | .group _ e => by
    simp only [Expr.rename, Expr.infer]
    exact .noted (.below (infer_rename hr e) 0)
  | .call p f args => by
    cases f with
    | ident _ name =>
      simp only [Expr.rename, Expr.infer, Expr.length_renameAll]
      exact .noted (.bind (.callee hr c p name) fun sig => .bind (.refl _) fun _ =>
        .bind (.checkCount sig p name _) fun _ =>
        .bind (inferArgs_rename hr name args 1 sig.params) fun _ => .refl _)
    | _ =>
      simp only [Expr.rename, Expr.infer]
      exact .refl _
  | .vector p es name => by
    cases es with
    | nil =>
      simp only [Expr.rename, Expr.infer, Expr.renameAll, Expr.inferElements]
      exact .refl _
    | cons e es =>
      have hall := inferElements_rename hr (e :: es)
      simp only [Expr.renameAll] at hall
      simp only [Expr.rename, Expr.infer, Expr.renameAll, List.length_cons, Expr.length_renameAll]
      refine .noted ?_
      split
      · exact .bind (.refl _) fun kind => .bind (.refl _) fun _ =>
          .bind (hall kind.lane 0) fun _ => .refl _
      · exact .bind (.below (infer_rename hr e) 0) fun elem => .bind (.refl _) fun kind =>
          .bind (.refl _) fun _ => .bind (inferElements_rename hr es kind.lane 1) fun _ => .refl _
theorem inferArgs_rename (hr : Function.Injective r) (name : String) : (es : List Expr) →
    (n : Nat) → (params : List Ty) → (Expr.inferArgs d c name n params es).Same
      (Expr.inferArgs d (c.rename r) (r name) n params (Expr.renameAll r es))
  | [], _, _ => by
    simp only [Expr.renameAll, Expr.inferArgs]
    exact .refl _
  | e :: es, n, params => by
    simp only [Expr.renameAll, Expr.inferArgs, Expr.pos_rename]
    exact .bind (.below (infer_rename hr e) n) fun t =>
      .bind (.checkArgument name n params e.pos t) fun _ =>
      inferArgs_rename hr name es (n + 1) params.tail
theorem inferElements_rename (hr : Function.Injective r) : (es : List Expr) →
    (lane : Ty) → (n : Nat) → (Expr.inferElements d c lane n es).Same
      (Expr.inferElements d (c.rename r) lane n (Expr.renameAll r es))
  | [], _, _ => by
    simp only [Expr.renameAll, Expr.inferElements]
    exact .refl _
  | e :: es, lane, n => by
    simp only [Expr.renameAll, Expr.inferElements, Expr.pos_rename]
    exact .bind (.below (infer_rename hr e) n) fun t => .bind (.refl _) fun _ =>
      inferElements_rename hr es lane (n + 1)
end

end

end Lanewise
