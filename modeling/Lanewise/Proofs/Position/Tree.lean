import Lanewise.Proofs.Check.Inference
import Lanewise.Proofs.Check.Pairing
import Lanewise.Proofs.Complete.Tree

/-!
# Positions of type errors

A check of a complete program blames a position of that program: the one of a statement, an
expression, a parameter or an annotation in it. It finds faults in types and names only, never in
the tree itself (`Program.Complete.blames`). The position that stands for something missing is
none of these.
-/

namespace Lanewise

-- ---------------------------------------------------------------------------
-- Positions in a tree
-- ---------------------------------------------------------------------------

namespace Expr

mutual
def positions : Expr → List Pos
  | .absent => []
  | .int p _ | .float p _ | .bool p _ | .string p _ | .ident p _ => [p]
  | .binary p _ l r | .lanewise p _ l r | .broadcast p _ l r | .dot p l r | .store p l r
  | .index p l r => p :: (l.positions ++ r.positions)
  | .unary p _ e | .group p e | .field p e _ | .reduce p _ e | .swizzle p e _ | .load p e _ =>
    p :: e.positions
  | .call p f args => p :: (f.positions ++ positionsIn args)
  | .vector p es _ => p :: positionsIn es
def positionsIn : List Expr → List Pos
  | [] => []
  | e :: es => e.positions ++ positionsIn es
end

theorem positionsIn_subset : positionsIn es ⊆ places ↔ ∀ e ∈ es, e.positions ⊆ places := by
  induction es with
  | nil => simp [positionsIn]
  | cons e es ih => simp [positionsIn, ih]

theorem Complete.pos_mem {e : Expr} (h : e.Complete) : e.pos ∈ e.positions := by
  cases h <;> simp [pos, positions]

end Expr

def WrittenType.positions (written : Option WrittenType) : List Pos :=
  written.toList.map (·.pos)

theorem WrittenType.positions_subset {written : Option WrittenType} :
    positions written ⊆ places ↔ ∀ a ∈ written, a.pos ∈ places := by
  cases written <;> simp [positions]

def Param.positions (p : Param) : List Pos := p.pos :: WrittenType.positions p.written

def FnHead.positions (head : FnHead) : List Pos :=
  head.pos :: (head.params.flatMap (·.positions) ++ WrittenType.positions head.returns)

namespace Stmt

mutual
def positions : Stmt → List Pos
  | .absent => []
  | .fn head p body => head.positions ++ p :: positionsIn body
  | .prototype head => head.positions
  | .letDecl p _ _ written value => p :: (WrittenType.positions written ++ value.positions)
  | .ret p value | .expr p value => p :: value.positions
  | .block p body => p :: positionsIn body
  | .ifElse p condition yes no =>
    p :: (condition.positions ++ (yes.positions ++ no.positions))
  | .whileLoop p condition body => p :: (condition.positions ++ body.positions)
  | .forLoop p init condition step body =>
    p :: (init.positions ++ (condition.positions ++ (step.positions ++ body.positions)))
def positionsIn : List Stmt → List Pos
  | [] => []
  | s :: rest => s.positions ++ positionsIn rest
end

theorem positionsIn_subset : positionsIn body ⊆ places ↔ ∀ s ∈ body, s.positions ⊆ places := by
  induction body with
  | nil => simp [positionsIn]
  | cons s rest ih => simp [positionsIn, ih]

end Stmt

def Program.positions (p : Program) : List Pos := Stmt.positionsIn p.statements

-- ---------------------------------------------------------------------------
-- Where an inference fails
-- ---------------------------------------------------------------------------

/-- The error is at one of the places, and does not lie in the tree. -/
def TypeError.IsIn (places : List Pos) (e : TypeError) : Prop :=
  e.pos ∈ places ∧ e.fault.isStructural = false

def Inference.FailsIn (places : List Pos) (m : Inference α) : Prop :=
  ∀ e, m.result = .error e → e.IsIn places

namespace Inference.FailsIn

variable {places : List Pos} {m : Inference α} {f : α → Inference β}

theorem pure (a : α) : FailsIn places (pure a : Inference α) := fun _ h => (nomatch h)

theorem fail (hp : p ∈ places) (h : fault.isStructural = false) :
    FailsIn places (fail p fault : Inference α) := by
  rintro _ ⟨⟩
  exact ⟨hp, h⟩

theorem require (hp : p ∈ places) (h : fault.isStructural = false) :
    FailsIn places (require b p fault) := by
  cases b with
  | true => exact .pure ()
  | false => exact .fail hp h

theorem bind (hm : m.FailsIn places) (hf : ∀ a, (f a).FailsIn places) :
    (m >>= f).FailsIn places := by
  intro e he
  cases h : m.result with
  | ok a =>
    rw [bind_of_ok h] at he
    exact hf a e he
  | error e' =>
    rw [bind_of_error h] at he
    obtain rfl : e' = e := Except.error.inj he
    exact hm e' h

theorem below (hm : m.FailsIn places) (n : Nat) : (m.below n).FailsIn places := hm

theorem note : FailsIn places (note path t) := by
  unfold Inference.note
  split
  · exact .pure ()
  · exact fun _ h => (nomatch h)

theorem noted {m : Inference Ty} (hm : m.FailsIn places) : m.noted.FailsIn places :=
  hm.bind fun t => note.bind fun _ => .pure t

section
variable {p : Pos} (hp : p ∈ places)
include hp

theorem binaryOp {op : BinaryOp} (hop : op ∈ BinaryOp.all) :
    (op.typeOf p left right).FailsIn places := by
  unfold BinaryOp.typeOf
  split
  · exact .bind (.require hp rfl) fun _ => .bind (.require hp rfl) fun _ => .pure _
  split
  · exact .bind (.require hp rfl) fun _ => .bind (.require hp rfl) fun _ => .pure _
  split
  · exact .bind (.require hp rfl) fun _ => .pure _
  split
  · exact .bind (.require hp rfl) fun _ => .pure _
  split
  · exact .bind (.require hp rfl) fun _ => .pure _
  · -- Every operator with a spelling belongs to one of the groups.
    cases op with
    | other => simp [BinaryOp.all] at hop
    | _ => simp_all [BinaryOp.isArithmetic, BinaryOp.isOrdering, BinaryOp.isEquality,
        BinaryOp.isLogical, BinaryOp.isAssignment]

theorem unaryOp {op : UnaryOp} (hop : op ∈ UnaryOp.all) :
    (op.typeOf p operand).FailsIn places := by
  cases op with
  | neg | not => exact .bind (.require hp rfl) fun _ => .pure _
  | ref => exact .pure _
  | other => simp [UnaryOp.all] at hop

theorem laneOp_check (op : LaneOp) : (op.check p k).FailsIn places :=
  .bind (.require hp rfl) fun _ => .bind (.require hp rfl) fun _ => .require hp rfl

theorem laneOp (op : LaneOp) : (op.typeOf p left right).FailsIn places :=
  .bind (.laneOp_check hp op) fun _ => .bind (.require hp rfl) fun _ =>
    .bind (.require hp rfl) fun _ => .pure _

theorem laneOp_broadcast (op : LaneOp) : (op.typeOfBroadcast p scalar vector).FailsIn places :=
  .bind (.require hp rfl) fun _ => .bind (.laneOp_check hp op) fun _ =>
    .bind (.require hp rfl) fun _ => .pure _

theorem reduceOp (op : ReduceOp) : (op.typeOf p vector).FailsIn places :=
  .bind (.require hp rfl) fun _ => .pure _

theorem dot : (typeOfDot p left right).FailsIn places :=
  .bind (.require hp rfl) fun _ => .bind (.require hp rfl) fun _ => .pure _

theorem typeOfName (c : Context) : (c.typeOfName p x).FailsIn places := by
  unfold Context.typeOfName
  split
  · exact .pure _
  split
  · exact .pure _
  · exact .fail hp rfl

theorem callee (c : Context) : (c.callee p name).FailsIn places := by
  unfold Context.callee
  split
  · exact .pure _
  split
  · exact .fail hp rfl
  · exact .fail hp rfl

theorem checkCount (sig : Signature) : (sig.checkCount p name count).FailsIn places := by
  unfold Signature.checkCount
  split
  · exact .require hp rfl
  · exact .require hp rfl

theorem checkArgument : (checkArgument name n params p t).FailsIn places := by
  cases params with
  | nil => exact .pure ()
  | cons => exact .require hp rfl

theorem element (hi : indexPos ∈ places) :
    (typeOfElement p indexPos object offset).FailsIn places := by
  refine .bind (.require hi rfl) fun _ => ?_
  split
  · exact .pure _
  · exact .fail hp rfl

theorem pointee : (pointee access p address).FailsIn places := by
  unfold Lanewise.pointee
  split
  · exact .pure _
  · exact .fail hp rfl

theorem vectorKind : (vectorKind p name).FailsIn places := by
  unfold Lanewise.vectorKind
  split
  · exact .pure _
  · exact .fail hp rfl

theorem writtenKind : (writtenKind p name count).FailsIn places := by
  unfold Lanewise.writtenKind
  exact .bind (.vectorKind hp) fun _ => .bind (.require hp rfl) fun _ => .pure _

theorem inferredKind : (inferredKind p elem count).FailsIn places := by
  unfold Lanewise.inferredKind
  split
  · exact .pure _
  · exact .fail hp rfl

theorem loadedKind : (loadedKind p name address).FailsIn places := by
  refine .bind (.pointee hp) fun target => ?_
  split
  · exact .vectorKind hp
  split
  · exact .pure _
  · exact .fail hp rfl

end

end Inference.FailsIn

-- ---------------------------------------------------------------------------
-- Expressions
-- ---------------------------------------------------------------------------

section
variable {d : Detector} {c : Context} {places : List Pos}

theorem inferArgs_failsIn {es : List Expr} (hpos : ∀ e ∈ es, e.pos ∈ places)
    (h : ∀ e ∈ es, (e.infer d c).FailsIn places) :
    (Expr.inferArgs d c name n params es).FailsIn places := by
  induction es generalizing n params with
  | nil =>
    simp only [Expr.inferArgs]
    exact .pure ()
  | cons e es ih =>
    rw [List.forall_mem_cons] at h hpos
    simp only [Expr.inferArgs]
    exact .bind (.below h.1 n) fun _ => .bind (.checkArgument hpos.1) fun _ => ih hpos.2 h.2

theorem inferElements_failsIn {es : List Expr} (hpos : ∀ e ∈ es, e.pos ∈ places)
    (h : ∀ e ∈ es, (e.infer d c).FailsIn places) :
    (Expr.inferElements d c lane n es).FailsIn places := by
  induction es generalizing n with
  | nil =>
    simp only [Expr.inferElements]
    exact .pure ()
  | cons e es ih =>
    rw [List.forall_mem_cons] at h hpos
    simp only [Expr.inferElements]
    exact .bind (.below h.1 n) fun _ => .bind (.require hpos.1 rfl) fun _ => ih hpos.2 h.2

theorem infer_failsIn {e : Expr} (h : e.Complete) (hp : e.positions ⊆ places) :
    (e.infer d c).FailsIn places := by
  induction h with
  | int | float | bool | string =>
    simp only [Expr.infer]
    exact .noted (.pure _)
  | ident =>
    simp only [Expr.infer]
    exact .noted (.typeOfName (hp (by simp [Expr.positions])) c)
  | binary hop _ _ hl hr =>
    simp only [Expr.positions, List.cons_subset, List.append_subset] at hp
    simp only [Expr.infer]
    exact .noted (.bind (.below (hl hp.2.1) 0) fun _ => .bind (.below (hr hp.2.2) 1) fun _ =>
      .binaryOp hp.1 hop)
  | unary hop _ he =>
    simp only [Expr.positions, List.cons_subset] at hp
    simp only [Expr.infer]
    exact .noted (.bind (.below (he hp.2) 0) fun _ => .unaryOp hp.1 hop)
  | @call f args p _ hargs _ ihargs =>
    simp only [Expr.positions, List.cons_subset, List.append_subset] at hp
    have hin := Expr.positionsIn_subset.mp hp.2.2
    cases f with
    | ident _ name =>
      simp only [Expr.infer]
      exact .noted (.bind (.callee hp.1 c) fun sig => .bind .note fun _ =>
        .bind (.checkCount hp.1 sig) fun _ => .bind (inferArgs_failsIn
          (fun e he => hin e he (hargs e he).pos_mem) fun e he => ihargs e he (hin e he)) fun _ =>
            .pure _)
    -- Only a name can be called, and what stands in its place is not looked at.
    | _ =>
      simp only [Expr.infer]
      exact .noted (.fail hp.1 rfl)
  | group _ he =>
    simp only [Expr.positions, List.cons_subset] at hp
    simp only [Expr.infer]
    exact .noted (.below (he hp.2) 0)
  | index _ hi ho ihi =>
    simp only [Expr.positions, List.cons_subset, List.append_subset] at hp
    simp only [Expr.infer]
    exact .noted (.bind (.below (ho hp.2.1) 0) fun _ => .bind (.below (ihi hp.2.2) 1) fun _ =>
      .element hp.1 (hp.2.2 hi.pos_mem))
  | field =>
    simp only [Expr.positions, List.cons_subset] at hp
    simp only [Expr.infer]
    exact .fail hp.1 rfl
  | @vector es p name hes ih =>
    simp only [Expr.positions, List.cons_subset] at hp
    have hin := Expr.positionsIn_subset.mp hp.2
    have hpos (e) (he : e ∈ es) : e.pos ∈ places := hin e he (hes e he).pos_mem
    have ih (e) (he : e ∈ es) : (e.infer d c).FailsIn places := ih e he (hin e he)
    by_cases hname : name = ""
    · subst hname
      cases es with
      | nil =>
        simp only [Expr.infer]
        exact .noted (.fail hp.1 rfl)
      | cons e es =>
        rw [List.forall_mem_cons] at hpos ih
        simp only [Expr.infer, bne_self_eq_false, Bool.false_eq_true, if_false]
        exact .noted (.bind (.below ih.1 0) fun _ => .bind (.inferredKind hp.1) fun _ =>
          .bind (.require hp.1 rfl) fun _ =>
            .bind (inferElements_failsIn hpos.2 ih.2) fun _ => .pure _)
    · rw [infer_writtenVector hname]
      exact .noted (.bind (.writtenKind hp.1) fun _ => .bind (.require hp.1 rfl) fun _ =>
        .bind (inferElements_failsIn hpos ih) fun _ => .pure _)
  | @lanewise op l r p _ _ _ hl hr =>
    simp only [Expr.positions, List.cons_subset, List.append_subset] at hp
    simp only [Expr.infer]
    exact .noted (.bind (.below (hl hp.2.1) 0) fun _ => .bind (.require hp.1 rfl) fun _ =>
      .bind (.below (hr hp.2.2) 1) fun _ => .bind (.require hp.1 rfl) fun _ => .laneOp hp.1 op)
  | @broadcast op s v p _ _ _ hs hv =>
    simp only [Expr.positions, List.cons_subset, List.append_subset] at hp
    simp only [Expr.infer]
    exact .noted (.bind (.below (hs hp.2.1) 0) fun _ => .bind (.below (hv hp.2.2) 1) fun _ =>
      .bind (.require hp.1 rfl) fun _ => .laneOp_broadcast hp.1 op)
  | @reduce op e p _ _ he =>
    simp only [Expr.positions, List.cons_subset] at hp
    simp only [Expr.infer]
    exact .noted (.bind (.below (he hp.2) 0) fun _ => .bind (.require hp.1 rfl) fun _ =>
      .reduceOp hp.1 op)
  | dot _ _ hl hr =>
    simp only [Expr.positions, List.cons_subset, List.append_subset] at hp
    simp only [Expr.infer]
    exact .noted (.bind (.below (hl hp.2.1) 0) fun _ => .bind (.require hp.1 rfl) fun _ =>
      .bind (.below (hr hp.2.2) 1) fun _ => .bind (.require hp.1 rfl) fun _ => .dot hp.1)
  | swizzle _ he =>
    simp only [Expr.positions, List.cons_subset] at hp
    simp only [Expr.infer]
    exact .noted (.bind (.below (he hp.2) 0) fun _ => .bind (.require hp.1 rfl) fun _ => .pure _)
  | load _ ha =>
    simp only [Expr.positions, List.cons_subset] at hp
    simp only [Expr.infer]
    exact .noted (.bind (.below (ha hp.2) 0) fun _ => .bind (.loadedKind hp.1) fun _ =>
      .bind (.require hp.1 rfl) fun _ => .pure _)
  | store _ _ ha he =>
    simp only [Expr.positions, List.cons_subset, List.append_subset] at hp
    simp only [Expr.infer]
    exact .noted (.bind (.below (ha hp.2.1) 0) fun _ => .bind (.pointee hp.1) fun _ =>
      .bind (.below (he hp.2.2) 1) fun _ => .bind (.require hp.1 rfl) fun _ => .pure _)

end

-- ---------------------------------------------------------------------------
-- Statements
-- ---------------------------------------------------------------------------

/-- One run of a complete program, whose errors are at the places. -/
def Pairing.blaming (places : List Pos) : Pairing := { Pairing.alike with
  expr := fun e e' => e' = e ∧ e.Complete ∧ e.positions ⊆ places
  written := fun a => a.pos ∈ places
  pos := fun p => p ∈ places
  errors := fun e _ => e.IsIn places }

section
variable {places : List Pos}

theorem blaming_leaves (r : Rules) : (Pairing.blaming places).Leaves r r where
  infer {_ e} := by
    rintro ⟨rfl, hcomplete, hp⟩ _ _ c rfl -
    rw [Rules.run_infer]
    cases hresult : (e.infer r.detector c.context).result with
    | ok t => exact .ok trivial rfl trivial
    | error error => exact .error fun _ => ⟨infer_failsIn hcomplete hp error hresult, rfl⟩
  pos he := by
    obtain ⟨rfl, hcomplete, hp⟩ := he
    exact ⟨rfl, hp hcomplete.pos_mem⟩
  resolve {a} _ _ ha := by
    rintro _ _ c rfl -
    rw [Rules.run_resolve, WrittenType.resolve]
    split
    · exact .ok trivial rfl trivial
    · exact .error fun _ => ⟨⟨ha, rfl⟩, rfl⟩
    · exact .error fun _ => ⟨⟨ha, rfl⟩, rfl⟩
  errors _ hp hfault := ⟨hp, by cases hfault <;> rfl⟩

theorem ifAny_blaming {e : Expr} (h : e.CompleteIfAny) (hp : e.positions ⊆ places) :
    (Pairing.blaming places).IfAny e e :=
  .same fun hne => ⟨rfl, h hne, hp⟩

theorem head_blaming {head : FnHead} (hp : head.positions ⊆ places) :
    (Pairing.blaming places).Head head := by
  simp only [FnHead.positions, List.cons_subset, List.append_subset] at hp
  refine ⟨fun param hparam => ?_, WrittenType.positions_subset.mp hp.2.2⟩
  have hpositions : param.positions ⊆ places := fun pos hpos =>
    hp.2.1 (List.mem_flatMap.mpr ⟨param, hparam, hpos⟩)
  rw [Param.positions, List.cons_subset] at hpositions
  exact ⟨hpositions.1, WrittenType.positions_subset.mp hpositions.2⟩

theorem paired_blaming {s : Stmt} (h : s.Complete) (hp : s.positions ⊆ places) :
    Stmt.Paired (.blaming places) s s := by
  induction h with
  | @fn body head p _ _ hbody =>
    simp only [Stmt.positions, List.append_subset, List.cons_subset] at hp
    have hin := Stmt.positionsIn_subset.mp hp.2.2
    have hpaired := Stmt.Paired.fn (p := p) (head_blaming hp.1)
      (.of_forall fun s hs => hbody s hs (hin s hs))
    have hsame : head.rename (Pairing.blaming places).name = head := head.rename_id
    rwa [hsame] at hpaired
  | letDecl hvalue =>
    simp only [Stmt.positions, List.cons_subset, List.append_subset] at hp
    exact .letDecl hp.1 (WrittenType.positions_subset.mp hp.2.1) (ifAny_blaming hvalue hp.2.2)
  | ret hvalue =>
    simp only [Stmt.positions, List.cons_subset] at hp
    exact .ret hp.1 (ifAny_blaming hvalue hp.2)
  | block _ hbody =>
    simp only [Stmt.positions, List.cons_subset] at hp
    have hin := Stmt.positionsIn_subset.mp hp.2
    exact .block (.of_forall fun s hs => hbody s hs (hin s hs))
  | ifOnly hc _ hyes =>
    rw [Stmt.positions, List.cons_subset, List.append_subset, List.append_subset] at hp
    exact .ifElse ⟨rfl, hc, hp.2.1⟩ (hyes hp.2.2.1) .absent
  | ifElse hc _ _ hyes hno =>
    rw [Stmt.positions, List.cons_subset, List.append_subset, List.append_subset] at hp
    exact .ifElse ⟨rfl, hc, hp.2.1⟩ (hyes hp.2.2.1) (hno hp.2.2.2)
  | whileLoop hc _ hbody =>
    rw [Stmt.positions, List.cons_subset, List.append_subset] at hp
    exact .whileLoop ⟨rfl, hc, hp.2.1⟩ (hbody hp.2.2)
  | @forLoop init q body p e step _ hc hstep _ hinit hbody =>
    rw [Stmt.positions, List.cons_subset, List.append_subset, List.append_subset,
      List.append_subset] at hp
    refine .forLoop ?_ (ifAny_blaming hc hp.2.2.1) (ifAny_blaming hstep hp.2.2.2.1)
      (hbody hp.2.2.2.2)
    by_cases habsent : init = .absent
    · subst habsent
      exact .absent
    · exact hinit habsent hp.2.1
  | expr he =>
    simp only [Stmt.positions, List.cons_subset] at hp
    exact .expr ⟨rfl, he, hp.2⟩

end

/-- An error in a complete program is at a place of it, and does not lie in the tree. -/
theorem Program.Complete.blames {p : Program} (hp : p.Complete) (h : p.check o = .error e) :
    e.IsIn p.positions := by
  have hin := Stmt.positionsIn_subset.mp (List.Subset.refl p.positions)
  have hbody : Stmt.AllPaired (.blaming p.positions) p.statements p.statements :=
    .of_forall fun s hs => paired_blaming (hp s hs) (hin s hs)
  have hends := hbody.run (blaming_leaves o.rules) rfl
  have herror := Program.check_error.mp h
  generalize p.run o = outcome at hends herror
  cases hends with
  | ok => cases herror
  | error h =>
    cases herror
    exact (h trivial).1

end Lanewise
