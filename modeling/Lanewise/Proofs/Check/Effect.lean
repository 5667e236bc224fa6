import Lanewise.Proofs.Check.Run
import Lanewise.Proofs.Context.Laws

/-!
# What checking does to a context

A statement that is not in order leaves the context exactly as it was; one that is adds its own
binding, if it is a declaration, and nothing else (`checkStmt_atomic`). Inside, a list of
statements may have added bindings when an error stops it; closing the scope around it or rolling
back takes them away again, because all it did was to add (`Grows`).
-/

namespace Lanewise

def Stmt.labels : Stmt → List (String × SymbolKind)
  | .fn head _ _ | .prototype head => [(head.name, .function)]
  | .letDecl _ name _ _ _ => [(name, .variable)]
  | _ => []

namespace CheckM

/-- The check adds bindings with these names and kinds, or ends in an error and adds none. -/
def Declares (m : CheckM α) (labels : List (String × SymbolKind)) : Prop :=
  ∀ c, match m.run c with
    | (.ok _, after) => ∃ new, new.map (fun s : Symbol => (s.name, s.kind)) = labels ∧
        after.context = c.context.extend new
    | (.error _, after) => after.context = c.context

/-- The check adds bindings at most, whether it ends well or not. -/
def Grows (m : CheckM α) : Prop := ∀ c, ∃ new, (m.run c).2.context = c.context.extend new

section
variable {m : CheckM α} {f : α → CheckM β}

theorem declares_nil : Declares m [] ↔ ∀ c, (m.run c).2.context = c.context := by
  refine forall_congr' fun c => ?_
  obtain ⟨_ | _, after⟩ := m.run c
  · rfl
  · simp

namespace Declares

-- ---------------------------------------------------------------------------
-- Checks that leave the context
-- ---------------------------------------------------------------------------

theorem pure (a : α) : Declares (pure a) [] := declares_nil.mpr fun _ => rfl

theorem fail : Declares (fail pos fault : CheckM α) [] := declares_nil.mpr fun _ => rfl

theorem failUnless (b : Bool) :
    Declares (if !b then CheckM.fail pos fault else Pure.pure ()) [] := by
  cases b with
  | false => exact .fail
  | true => exact .pure _

theorem bind (hm : Declares m []) (hf : ∀ a, Declares (f a) labels) :
    Declares (m >>= f) labels := by
  intro c
  rw [run_bind]
  have same := declares_nil.mp hm c
  generalize m.run c = outcome at same ⊢
  obtain ⟨result, next⟩ := outcome
  cases result with
  | error e => exact same
  | ok a =>
    have declared := hf a next
    rw [same] at declared
    exact declared

theorem below (hm : Declares m labels) (n : Nat) : Declares (below n m) labels := by
  intro c
  have declared := hm { c with types := [] }
  rw [run_below]
  generalize m.run { c with types := [] } = outcome at declared ⊢
  obtain ⟨result, after⟩ := outcome
  cases result <;> exact declared

theorem infer (r : Rules) (e : Expr) : Declares (r.infer e) [] :=
  declares_nil.mpr fun c => by rw [Rules.run_infer]

theorem infer? (r : Rules) (e : Expr) : Declares (r.infer? e) [] := by
  cases e with
  | absent => exact .pure _
  | _ => exact .bind (.infer r _) fun _ => .pure _

theorem resolve (r : Rules) (a : WrittenType) : Declares (r.resolve a) [] :=
  declares_nil.mpr fun c => by rw [Rules.run_resolve]

theorem resolve? (r : Rules) (a : Option WrittenType) : Declares (r.resolve? a) [] := by
  cases a with
  | none => exact .pure _
  | some a => exact .bind (.resolve r a) fun _ => .pure _

theorem resolveParams (r : Rules) (function : String) :
    (params : List Param) → Declares (r.resolveParams function params) []
  | [] => .pure _
  | p :: rest => by
    unfold Rules.resolveParams
    split
    · exact .fail
    · exact .bind (.resolve r _) fun _ => .bind (resolveParams r function rest) fun _ => .pure _

theorem variableType (declared value : Option Ty) :
    Declares (Rules.variableType pos name declared value) [] := by
  unfold Rules.variableType
  split
  · split
    · exact .pure _
    · exact .fail
  · exact .pure _
  · exact .pure _
  · exact .fail

theorem checkCondition (r : Rules) (e : Expr) : Declares (r.checkCondition statement e) [] :=
  .bind (.infer r e) fun t => .failUnless t.isCondition

theorem checkReturn (r : Rules) (value : Expr) : Declares (r.checkReturn pos value) [] := by
  refine .bind (declares_nil.mpr fun _ => rfl) fun c => ?_
  split
  · exact .fail
  · exact .bind (.below (.infer? r value) 0) fun t => .failUnless _

-- ---------------------------------------------------------------------------
-- Checks that add bindings
-- ---------------------------------------------------------------------------

theorem checkLet (r : Rules) (value : Expr) :
    Declares (r.checkLet pos name isMut written value) [(name, .variable)] := by
  refine .bind (.resolve? r written) fun declared => ?_
  refine .bind (.below (.infer? r value) 0) fun actual => ?_
  refine .bind (.variableType declared _) fun ty => ?_
  intro c
  exact ⟨[_], rfl, rfl⟩

/-- A check that makes one binding first and keeps it declares it, once the binding is rolled back
after an error. -/
theorem atomically {s : Symbol} (hm : ∀ c, (m.run c).2.context = c.context.define s) :
    Declares (atomically m) [(s.name, s.kind)] := by
  intro c
  rw [run_atomically]
  have made := hm c
  generalize m.run c = outcome at made ⊢
  obtain ⟨result, after⟩ := outcome
  cases result with
  | error e =>
    dsimp only at made ⊢
    rw [made, Context.rollback_define]
  | ok a => exact ⟨[s], rfl, made⟩

theorem bind_noteFunction {m : CheckM Unit} (hm : Declares m labels) :
    Declares (m >>= fun _ => noteFunction name sig) labels := by
  intro c
  rw [run_bind]
  have declared := hm c
  generalize m.run c = outcome at declared ⊢
  obtain ⟨result, after⟩ := outcome
  cases result <;> exact declared

theorem grows (hm : Declares m labels) : Grows m := by
  intro c
  have declared := hm c
  generalize m.run c = outcome at declared ⊢
  obtain ⟨result, after⟩ := outcome
  cases result with
  | error e => exact ⟨[], declared⟩
  | ok a =>
    obtain ⟨new, -, grown⟩ := declared
    exact ⟨new, grown⟩

end Declares

theorem Grows.bind (hm : Grows m) (hf : ∀ a, Grows (f a)) : Grows (m >>= f) := by
  intro c
  rw [run_bind]
  obtain ⟨first, hfirst⟩ := hm c
  generalize m.run c = outcome at hfirst ⊢
  obtain ⟨result, next⟩ := outcome
  cases result with
  | error e => exact ⟨first, hfirst⟩
  | ok a =>
    obtain ⟨second, hsecond⟩ := hf a next
    exact ⟨second ++ first, by rw [hsecond, hfirst, Context.extend_extend]⟩

/-- Closing the scope takes away whatever was added in it. -/
theorem Grows.inScope (hm : Grows m) (opening : Context → Context)
    (hpop : ∀ (c : Context) (new : List Symbol), ((opening c).extend new).pop = c) :
    Declares (inScope opening m) [] := by
  refine declares_nil.mpr fun c => ?_
  obtain ⟨new, grown⟩ := hm { c with context := opening c.context }
  rw [run_inScope]
  simp only [grown, hpop]

theorem Grows.inPush (hm : Grows m) : Declares (CheckM.inScope Context.push m) [] :=
  hm.inScope Context.push fun c _ => c.pop_push_extend

theorem Grows.defineParams (params : List Param) (types : List Ty) :
    Grows (Rules.defineParams params types) := by
  intro c
  simp only [Rules.defineParams, run_changeContext]
  generalize c.context = context
  induction params.zip types generalizing context with
  | nil => exact ⟨[], rfl⟩
  | cons param rest ih =>
    obtain ⟨new, grown⟩ := ih (context.defineVariable _)
    exact ⟨_, by rw [List.foldl_cons, grown, Context.defineVariable, Context.define_eq_extend,
      Context.extend_extend]⟩

theorem Declares.checkFunction {body : CheckM Unit} (r : Rules) (head : FnHead)
    (hbody : Grows body) :
    Declares (r.checkFunction head body) [(head.name, .function)] := by
  refine .bind (.resolveParams r head.name head.params) fun params => ?_
  refine .bind (.resolve? r head.returns) fun ret => ?_
  have inner := (Grows.defineParams head.params params).bind fun _ => hbody
  let sig : Signature := ⟨params, ret.getD .unit, false⟩
  refine .bind_noteFunction (.atomically (s := Context.functionSymbol .function head.name sig) ?_)
  intro c
  rw [run_bind, run_changeContext]
  exact declares_nil.mp (inner.inScope _ fun c _ => c.pop_enter_extend) _

theorem Declares.asBranch {m : CheckM Unit} (s : Stmt) (hm : Declares m s.labels) :
    Declares (s.asBranch m) [] := by
  cases s with
  | absent => exact hm
  | block pos body => exact hm
  | _ => exact hm.grows.inPush

end

end CheckM

namespace Stmt

open CheckM

mutual
theorem check_declares (r : Rules) : (s : Stmt) → Declares (s.check r) s.labels
  | .absent => by
    simp only [check]
    exact .pure ()
  | .fn head _ body => by
    simp only [check]
    exact .checkFunction r head (checkAll_grows r 0 body)
  | .prototype head => by
    simp only [check]
    exact .checkFunction r head (Declares.pure ()).grows
  | .letDecl _ _ _ _ value => by
    simp only [check]
    exact .checkLet r value
  | .ret _ value => by
    simp only [check]
    exact .checkReturn r value
  | .block _ body => by
    simp only [check]
    exact (checkAll_grows r 0 body).inPush
  | .ifElse _ condition yes no => by
    simp only [check]
    refine .bind (.below (.checkCondition r condition) 0) fun _ => ?_
    exact .bind (.below (.asBranch yes (check_declares r yes)) 1) fun _ =>
      .below (.asBranch no (check_declares r no)) 2
  | .whileLoop _ condition body => by
    simp only [check]
    exact .bind (.below (.checkCondition r condition) 0) fun _ =>
      .below (.asBranch body (check_declares r body)) 1
  | .forLoop _ init condition step body => by
    simp only [check]
    refine Grows.inPush ?_
    refine .bind ((check_declares r init).below 0).grows fun _ => ?_
    have rest : Grows (do let _ ← below 2 (r.infer? step); below 3 (check r body)) :=
      .bind ((Declares.infer? r step).below 2).grows fun _ =>
        ((check_declares r body).below 3).grows
    split
    · exact .bind ((Declares.checkCondition r condition).below 1).grows fun _ => rest
    · exact rest
  | .expr _ value => by
    simp only [check]
    exact .bind (.below (.infer r value) 0) fun _ => .pure _
theorem checkAll_grows (r : Rules) (n : Nat) : (body : List Stmt) → Grows (checkAll r n body)
  | [] => by
    simp only [checkAll]
    exact (Declares.pure ()).grows
  | s :: rest => by
    simp only [checkAll]
    exact .bind ((check_declares r s).below n).grows fun _ => checkAll_grows r (n + 1) rest
end

end Stmt

/-- Checking is atomic. Whatever the checker has seen before, a statement that is not in order
leaves its context as it was, and one that is leaves the scopes and the names of types, and adds to
the bindings its own if it is a declaration. Typing an expression leaves the context in any case. -/
theorem checkStmt_atomic (r : Rules) (c : Checker) (s : Stmt) (e : Expr) :
    (∀ error after, c.checkStmt r s = (.error error, after) → after.context = c.context) ∧
    (∀ after, c.checkStmt r s = (.ok (), after) →
      after.context.frames = c.context.frames ∧
      after.context.opaqueNames = c.context.opaqueNames ∧
      ∃ new : List Symbol, new.map (fun b => (b.name, b.kind)) = s.labels ∧
        after.context.symbols = new ++ c.context.symbols) ∧
    (c.checkExpr r e).2.context = c.context := by
  have declared := s.check_declares r c
  refine ⟨fun error after h => ?_, fun after h => ?_, CheckM.declares_nil.mp (.infer r e) c⟩
  · rw [show (s.check r).run c = (.error error, after) from h] at declared
    exact declared
  · rw [show (s.check r).run c = (.ok (), after) from h] at declared
    obtain ⟨new, hlabels, hgrown⟩ := declared
    exact ⟨by rw [hgrown, Context.frames_extend], by rw [hgrown, Context.opaqueNames_extend],
      new, hlabels, by rw [hgrown, Context.symbols_extend]⟩

end Lanewise
