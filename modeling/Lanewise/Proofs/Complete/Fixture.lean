import Lanewise.Fixture.Source
import Lanewise.Proofs.Position.Tree

/-!
# Complete programs from documents

`program_complete`: a document that is read as a program gives a complete one, so no check of it
blames its tree. Decoding is one recursion over the document, and what it keeps is that everything
read off a node is complete, whichever of its readings is asked for (`Reading.Complete`).
-/

namespace Lanewise.Fixture

open Yaml (Node)

-- ---------------------------------------------------------------------------
-- Good ends of a reading
-- ---------------------------------------------------------------------------

theorem bind_ok {m : Read α} {f : α → Read β} :
    m >>= f = .ok b ↔ ∃ a, m = .ok a ∧ f a = .ok b := by
  cases m <;> simp [bind, Except.bind]

theorem pure_ok : (pure a : Read α) = .ok b ↔ a = b := by
  simp [pure, Except.pure]

theorem mapM_ok {items : List α} {f : α → Read β} (h : items.mapM f = .ok found) :
    ∀ b ∈ found, ∃ item ∈ items, f item = .ok b := by
  induction items generalizing found with
  | nil =>
    rw [List.mapM_nil, pure_ok] at h
    simp [← h]
  | cons item items ih =>
    simp only [List.mapM_cons, bind_ok, pure_ok] at h
    obtain ⟨first, hfirst, rest, hrest, rfl⟩ := h
    intro b hb
    rcases List.mem_cons.mp hb with rfl | hb
    · exact ⟨item, List.mem_cons_self, hfirst⟩
    · obtain ⟨other, hother, hf⟩ := ih hrest b hb
      exact ⟨other, List.mem_cons_of_mem item hother, hf⟩

theorem mapM_ok_of_mem {items : List α} {f : α → Read β} (h : items.mapM f = .ok found)
    (hitem : item ∈ items) : ∃ b, f item = .ok b := by
  induction items generalizing found with
  | nil => cases hitem
  | cons first items ih =>
    simp only [List.mapM_cons, bind_ok, pure_ok] at h
    obtain ⟨b, hb, rest, hrest, -⟩ := h
    rcases List.mem_cons.mp hitem with rfl | hitem
    · exact ⟨b, hb⟩
    · exact ih hrest hitem

theorem foldlM_ok {P : β → Prop} {f : β → α → Read β} {items : List α}
    (hf : ∀ b item b', P b → f b item = .ok b' → P b') (hb : P b)
    (h : items.foldlM f b = .ok b') : P b' := by
  induction items generalizing b with
  | nil =>
    rw [List.foldlM_nil, pure_ok] at h
    exact h ▸ hb
  | cons item items ih =>
    rw [List.foldlM_cons, bind_ok] at h
    obtain ⟨next, hnext, hrest⟩ := h
    exact ih (hf b item next hb hnext) hrest

theorem foldlM_ok_of_mem {items : List α} {f : β → α → Read β} (h : items.foldlM f b = .ok found)
    (hitem : item ∈ items) : ∃ b b', f b item = .ok b' := by
  induction items generalizing b with
  | nil => cases hitem
  | cons first items ih =>
    rw [List.foldlM_cons, bind_ok] at h
    obtain ⟨b', hb', hrest⟩ := h
    rcases List.mem_cons.mp hitem with rfl | hitem
    · exact ⟨b, b', hb'⟩
    · exact ih hrest hitem

-- ---------------------------------------------------------------------------
-- Forms
-- ---------------------------------------------------------------------------

structure Reading.Complete (r : Reading) : Prop where
  expr : ∀ e, r.expr = .ok e → e.Complete
  stmt : ∀ s, r.stmt = .ok s → s.Complete
  exprs : ∀ es, r.exprs = .ok es → ∀ e ∈ es, e.Complete
  stmts : ∀ body, r.stmts = .ok body → ∀ s ∈ body, s.Complete

structure Form.Complete (f : Form Reading) : Prop where
  head : f.head.Complete
  fields : ∀ field ∈ f.fields, field.2.Complete

theorem Reading.Complete.block {r : Reading} (hr : r.Complete) (h : r.block = .ok found) :
    ∀ s ∈ found.2, s.Complete := by
  simp only [Reading.block, bind_ok, pure_ok] at h
  obtain ⟨body, hbody, rfl⟩ := h
  exact hr.stmts body hbody

theorem Form.ofFields_complete {readings : List (Node × Reading)} {pos : Pos}
    (h : ∀ field ∈ readings, field.2.Complete)
    (hf : Form.ofFields order category pos readings = .ok f) : f.Complete := by
  unfold Form.ofFields at hf
  split at hf
  · cases hf
  split at hf
  · cases hf
  rename_i key head hhead
  dsimp only at hf
  split at hf
  · cases hf
  obtain rfl := Except.ok.inj hf
  refine ⟨h _ (List.mem_of_find?_eq_some hhead), fun field hfield => ?_⟩
  obtain ⟨original, horiginal, rfl⟩ := List.mem_map.mp hfield
  exact h original (List.mem_filter.mp horiginal).1

namespace Form.Complete

variable {f : Form Reading} {key : String}

theorem field? (hf : f.Complete) (h : f.field? key = some r) : r.Complete := by
  obtain ⟨before, after, hfields, -⟩ := List.lookup_eq_some_iff.mp h
  exact hf.fields (key, r) (by simp [hfields])

theorem given? (hf : f.Complete) (h : f.given? key = some r) : r.Complete :=
  hf.field? (Option.mem_filter_iff.mp h).1

theorem require (hf : f.Complete) (h : f.require key = .ok r) : r.Complete := by
  unfold Form.require at h
  split at h
  · rename_i given hgiven
    obtain rfl := Except.ok.inj h
    exact hf.given? hgiven
  · cases h

theorem operand (hf : f.Complete) (h : f.operand key = .ok e) : e.Complete := by
  obtain ⟨r, hr, he⟩ := bind_ok.mp h
  exact (hf.require hr).expr e he

theorem optionalExpr (hf : f.Complete) (h : f.optionalExpr key = .ok e) : e.CompleteIfAny := by
  unfold Form.optionalExpr at h
  split at h
  · rename_i r hr
    exact fun _ => (hf.given? hr).expr e h
  · obtain rfl := Except.ok.inj h
    exact fun habsent => (habsent rfl).elim

theorem exprs (hf : f.Complete) (h : f.exprs key = .ok es) : ∀ e ∈ es, e.Complete := by
  unfold Form.exprs at h
  split at h
  · rename_i r hr
    exact (hf.field? hr).exprs es h
  · obtain rfl := Except.ok.inj h
    simp

theorem blockOr (hf : f.Complete) (h : f.blockOr key other = .ok s) :
    (∃ pos body, s = .block pos body ∧ (Stmt.block pos body).Complete) ∨ s = other := by
  unfold Form.blockOr at h
  split at h
  · rename_i r hr
    simp only [bind_ok, pure_ok] at h
    obtain ⟨⟨pos, body⟩, hbody, rfl⟩ := h
    exact .inl ⟨pos, body, rfl, .block ((hf.field? hr).block hbody)⟩
  · exact .inr (Except.ok.inj h).symm

end Form.Complete

-- ---------------------------------------------------------------------------
-- Expressions
-- ---------------------------------------------------------------------------

theorem literal_complete (h : literal pos tag style text = .ok e) : e.Complete := by
  unfold literal at h
  split at h
  · obtain rfl := Except.ok.inj h
    exact .string
  split at h
  · split at h
    · split at h
      · obtain rfl := Except.ok.inj h
        exact .int
      · cases h
    · cases h
  split at h
  · split at h
    · obtain rfl := Except.ok.inj h
      exact .float
    · cases h
  split at h
  · split at h
    · obtain rfl := Except.ok.inj h
      exact .bool
    · cases h
  split at h
  · cases h
  · obtain rfl := Except.ok.inj h
    exact .ident

theorem twoOperands_ok (h : twoOperands pos es = .ok operands) : es = [operands.1, operands.2] := by
  unfold twoOperands at h
  split at h
  · obtain rfl := Except.ok.inj h
    rfl
  · cases h

theorem operator_ok {f : Form Reading} {ofText? : String → Option Op}
    (h : f.operator operators ofText? = .ok op) : ∃ spelling, ofText? spelling = some op := by
  obtain ⟨spelling, -, h⟩ := bind_ok.mp h
  split at h
  · rename_i found hfound
    exact ⟨spelling, pure_ok.mp h ▸ hfound⟩
  · cases h

theorem laneOp_mem_all (h : LaneOp.ofText? spelling = some op) : op ∈ LaneOp.all := by
  unfold LaneOp.ofText? at h
  exact List.mem_of_find?_eq_some h

theorem compound_complete {f : Form Reading} (hf : f.Complete) (h : compound f = .ok e) :
    e.Complete := by
  unfold compound at h
  split at h
  · simp only [bind_ok, pure_ok] at h
    obtain ⟨op, hop, l, hl, r, hr, rfl⟩ := h
    obtain ⟨_, hop⟩ := operator_ok hop
    exact .binary (List.mem_of_find?_eq_some hop) (hf.operand hl) (hf.operand hr)
  · simp only [bind_ok, pure_ok] at h
    obtain ⟨op, hop, e, he, rfl⟩ := h
    obtain ⟨_, hop⟩ := operator_ok hop
    exact .unary (List.mem_of_find?_eq_some hop) (hf.operand he)
  · simp only [bind_ok, pure_ok] at h
    obtain ⟨callee, hcallee, args, hargs, rfl⟩ := h
    exact .call (hf.head.expr callee hcallee) (hf.exprs hargs)
  · simp only [bind_ok, pure_ok] at h
    obtain ⟨e, he, rfl⟩ := h
    exact .group (hf.head.expr e he)
  · simp only [bind_ok, pure_ok] at h
    obtain ⟨o, ho, i, hi, rfl⟩ := h
    exact .index (hf.head.expr o ho) (hf.operand hi)
  · simp only [bind_ok, pure_ok] at h
    obtain ⟨name, -, o, ho, rfl⟩ := h
    exact .field (hf.operand ho)
  · simp only [bind_ok, pure_ok] at h
    obtain ⟨es, hes, kind, -, rfl⟩ := h
    exact .vector (hf.head.exprs es hes)
  · simp only [bind_ok, pure_ok] at h
    obtain ⟨op, hop, l, hl, r, hr, rfl⟩ := h
    obtain ⟨_, hop⟩ := operator_ok hop
    exact .lanewise (laneOp_mem_all hop) (hf.operand hl) (hf.operand hr)
  · simp only [bind_ok, pure_ok] at h
    obtain ⟨op, hop, s, hs, v, hv, rfl⟩ := h
    obtain ⟨_, hop⟩ := operator_ok hop
    exact .broadcast (laneOp_mem_all hop) (hf.operand hs) (hf.operand hv)
  · simp only [bind_ok, pure_ok] at h
    obtain ⟨op, hop, e, he, rfl⟩ := h
    obtain ⟨_, hop⟩ := operator_ok hop
    exact .reduce (List.mem_of_find?_eq_some hop) (hf.operand he)
  · simp only [bind_ok, pure_ok] at h
    obtain ⟨es, hes, ⟨l, r⟩, hoperands, rfl⟩ := h
    have hall := hf.head.exprs es hes
    rw [twoOperands_ok hoperands] at hall
    exact .dot (hall l (by simp)) (hall r (by simp))
  · simp only [bind_ok, pure_ok] at h
    obtain ⟨pattern, -, e, he, rfl⟩ := h
    exact .swizzle (hf.operand he)
  · simp only [bind_ok, pure_ok] at h
    obtain ⟨a, ha, kind, -, rfl⟩ := h
    exact .load (hf.head.expr a ha)
  · simp only [bind_ok, pure_ok] at h
    obtain ⟨a, ha, e, he, rfl⟩ := h
    exact .store (hf.head.expr a ha) (hf.operand he)

-- ---------------------------------------------------------------------------
-- Statements
-- ---------------------------------------------------------------------------

theorem param_named {n : Node} (h : param n = .ok p) : p.name ≠ "" := by
  unfold param at h
  split at h
  · simp only [bind_ok] at h
    obtain ⟨draft, -, h⟩ := h
    split at h
    · cases h
    · rename_i hname
      obtain rfl := pure_ok.mp h
      simpa using hname
  · cases h

theorem params_named {f : Form Reading} (h : params f = .ok found) : ∀ p ∈ found, p.name ≠ "" := by
  unfold params at h
  split at h
  · obtain rfl := Except.ok.inj h
    simp
  split at h
  · intro p hp
    obtain ⟨item, -, hitem⟩ := mapM_ok h p hp
    exact param_named hitem
  · cases h

theorem body_complete {f : Form Reading} (hf : f.Complete) (h : body f = .ok found) :
    ∀ s ∈ found.2, s.Complete := by
  unfold body at h
  split at h
  · rename_i r hr
    exact (hf.field? hr).block h
  · obtain rfl := Except.ok.inj h
    simp

theorem loopStart_complete {f : Form Reading} (hf : f.Complete) (h : loopStart f = .ok s) :
    s ≠ .absent → s.Complete := by
  unfold loopStart at h
  split at h
  · rename_i r hr
    exact fun _ => (hf.given? hr).stmt s h
  · obtain rfl := Except.ok.inj h
    exact fun habsent => (habsent rfl).elim

theorem statement_complete {f : Form Reading} (hf : f.Complete) (h : statement f = .ok s) :
    s.Complete := by
  unfold statement at h
  split at h
  · simp only [bind_ok, pure_ok] at h
    obtain ⟨name, -, found, hparams, returns, -, ⟨bodyPos, body⟩, hbody, rfl⟩ := h
    exact .fn (params_named hparams) (body_complete hf hbody)
  · simp only [bind_ok, pure_ok] at h
    obtain ⟨name, -, written, -, isMut, -, value, hvalue, rfl⟩ := h
    exact .letDecl (hf.optionalExpr hvalue)
  · split at h
    · obtain rfl := pure_ok.mp h
      exact .ret fun habsent => (habsent rfl).elim
    · simp only [bind_ok, pure_ok] at h
      obtain ⟨value, hvalue, rfl⟩ := h
      exact .ret fun _ => hf.head.expr value hvalue
  · simp only [bind_ok, pure_ok] at h
    obtain ⟨⟨pos, body⟩, hbody, rfl⟩ := h
    exact .block (hf.head.block hbody)
  · simp only [bind_ok, pure_ok] at h
    obtain ⟨condition, hcondition, yes, hyes, ⟨thenPos, body⟩, hbody, no, hno, rfl⟩ := h
    have hc := hf.head.expr condition hcondition
    have hyes : (Stmt.block thenPos body).Complete := .block ((hf.require hyes).block hbody)
    rcases hf.blockOr hno with ⟨pos, rest, rfl, hrest⟩ | rfl
    · exact .ifElse hc hyes hrest
    · exact .ifOnly hc hyes
  · simp only [bind_ok, pure_ok] at h
    obtain ⟨condition, hcondition, body, hbody, rfl⟩ := h
    have hc := hf.head.expr condition hcondition
    rcases hf.blockOr hbody with ⟨pos, rest, rfl, hrest⟩ | rfl
    · exact .whileLoop hc hrest
    · exact .whileLoop hc (.block (by simp))
  · split at h
    · cases h
    simp only [bind_ok, pure_ok] at h
    obtain ⟨init, hinit, condition, hcondition, step, hstep, body, hbody, rfl⟩ := h
    have hinit := loopStart_complete hf hinit
    have hc := hf.optionalExpr hcondition
    have hstep := hf.optionalExpr hstep
    rcases hf.blockOr hbody with ⟨pos, rest, rfl, hrest⟩ | rfl
    · exact .forLoop hinit hc hstep hrest
    · exact .forLoop hinit hc hstep (.block (by simp))
  · simp only [bind_ok, pure_ok] at h
    obtain ⟨e, he, rfl⟩ := h
    exact .expr (hf.head.expr e he)

-- ---------------------------------------------------------------------------
-- Readings
-- ---------------------------------------------------------------------------

namespace Reading

variable {order : KeyOrder}

theorem ofScalar_complete {pos : Pos} :
    (ofNode order (.scalar pos tag style text)).Complete where
  expr e he := literal_complete he
  stmt _ h := nomatch h
  exprs es hes := by
    simp only [exprs, ofNode, readExprs] at hes
    split at hes
    · obtain rfl := Except.ok.inj hes
      simp
    · cases hes
  stmts body hbody := by
    simp only [stmts, ofNode, readStmts] at hbody
    split at hbody
    · obtain rfl := Except.ok.inj hbody
      simp
    · cases hbody

theorem ofItems_complete {pos : Pos} (h : ∀ n ∈ items, (ofNode order n).Complete) :
    (ofNode order (.sequence pos tag items)).Complete where
  expr _ h := nomatch h
  stmt _ h := nomatch h
  exprs es hes e he := by
    simp only [exprs, ofNode, readExprs, readEachExpr_eq_mapM] at hes
    obtain ⟨n, hn, hexpr⟩ := mapM_ok hes e he
    exact (h n hn).expr e hexpr
  stmts body hbody s hs := by
    simp only [stmts, ofNode, readStmts, readEachStmt_eq_mapM] at hbody
    obtain ⟨n, hn, hstmt⟩ := mapM_ok hbody s hs
    exact (h n hn).stmt s hstmt

theorem ofFields_complete {pos : Pos} (h : ∀ field ∈ fields, (ofNode order field.2).Complete) :
    (ofNode order (.mapping pos tag fields)).Complete := by
  have hvalues : ∀ field ∈ readValues order fields, field.2.Complete := by
    rw [readValues_eq_map, List.forall_mem_map]
    exact h
  refine ⟨fun e he => ?_, fun s hs => ?_, fun _ h => (nomatch h), fun _ h => (nomatch h)⟩
  · obtain ⟨f, hf, hcompound⟩ := bind_ok.mp he
    exact compound_complete (Form.ofFields_complete hvalues hf) hcompound
  · obtain ⟨f, hf, hstatement⟩ := bind_ok.mp hs
    exact statement_complete (Form.ofFields_complete hvalues hf) hstatement

theorem ofNode_complete (n : Node) : (ofNode order n).Complete := by
  induction n using Node.induct with
  | scalar => exact ofScalar_complete
  | sequence _ _ _ ih => exact ofItems_complete ih
  | mapping _ _ _ ih => exact ofFields_complete fun field hfield => (ih field hfield).2
  | target _ _ _ ih => exact ih

end Reading

-- ---------------------------------------------------------------------------
-- Programs
-- ---------------------------------------------------------------------------

theorem readStmts_complete {n : Node} (h : readStmts order n = .ok found) :
    ∀ s ∈ found, s.Complete :=
  (Reading.ofNode_complete n).stmts found h

theorem takeField_complete (p : Program) (field : Node × Node) (p' : Program) (hp : p.Complete)
    (h : takeField order p field = .ok p') : p'.Complete := by
  unfold takeField at h
  dsimp only at h
  split at h
  · simp only [bind_ok, pure_ok] at h
    obtain ⟨name, -, rfl⟩ := h
    exact hp
  · simp only [bind_ok, pure_ok] at h
    obtain ⟨body, hbody, rfl⟩ := h
    exact readStmts_complete hbody
  · cases h

theorem complete_of_program (h : program order name document = .ok p) : p.Complete := by
  unfold program at h
  split at h
  · have hempty : Program.Complete { name, statements := [] } := by simp [Program.Complete]
    exact foldlM_ok takeField_complete hempty h
  · simp only [bind_ok, pure_ok] at h
    obtain ⟨body, hbody, rfl⟩ := h
    exact readStmts_complete hbody
  · cases h

/-- How reports of a broken tree begin. -/
def structuralTexts : List String := [
  "missing expression", "unsupported statement", "unsupported expression",
  "unsupported SIMD expression", "unknown binary operator", "unknown unary operator"]

theorem head?_of_structuralTexts :
    ∀ text ∈ structuralTexts, text.toList.head? = some 'm' ∨ text.toList.head? = some 'u' := by
  decide

/-- What is not supported is reported with words that begin otherwise. -/
theorem head?_message {fault : Fault} (hkind : fault.kind = .unsupported)
    (h : fault.isStructural = false) :
    ∃ c, fault.message.toList.head? = some c ∧ c ≠ 'm' ∧ c ≠ 'u' := by
  cases fault with
  | missingExpression => cases h
  | unknownBinary => cases h
  | unknownUnary => cases h
  | indirectCall =>
    refine ⟨'i', ?_, by decide, by decide⟩
    change "indirect calls are not supported".toList.head? = _
    simp
  | returnOutside =>
    refine ⟨'r', ?_, by decide, by decide⟩
    change "return statement outside of a function".toList.head? = _
    simp
  | calledVariable name =>
    refine ⟨'c', ?_, by decide, by decide⟩
    change ("calling '" ++ name ++ _).toList.head? = _
    simp
  | fieldAccess name =>
    refine ⟨'f', ?_, by decide, by decide⟩
    change ("field access '." ++ name ++ _).toList.head? = _
    simp
  | _ => cases hkind

theorem message_not_structural {fault : Fault} (hkind : fault.kind = .unsupported)
    (h : fault.isStructural = false) :
    ∀ text ∈ structuralTexts, ¬text.toList <+: fault.message.toList := by
  rintro text htext ⟨rest, hrest⟩
  obtain ⟨c, hc, hm, hu⟩ := head?_message hkind h
  rw [← hrest, List.head?_append] at hc
  rcases head?_of_structuralTexts text htext with hfirst | hfirst
  · rw [hfirst] at hc
    exact hm (Option.some.inj hc).symm
  · rw [hfirst] at hc
    exact hu (Option.some.inj hc).symm

/-- A document that is read as a program gives a complete one. So with whatever options it is
checked, no fault lies in the tree, and nothing unsupported is reported the way a broken tree is.
(Reports of other classes may begin with a name out of the program, so the class has to count.) -/
theorem program_complete (order : KeyOrder) (name : String) (document : Node) (p : Program)
    (h : program order name document = .ok p) :
    p.Complete ∧ ∀ o e, p.check o = .error e → e.fault.isStructural = false ∧
      (e.fault.kind = .unsupported →
        ∀ text ∈ structuralTexts, ¬text.toList <+: e.fault.message.toList) := by
  have hp := complete_of_program h
  refine ⟨hp, fun o e he => ?_⟩
  obtain ⟨-, hfault⟩ := hp.blames he
  exact ⟨hfault, fun hkind => message_not_structural hkind hfault⟩

/-- A function whose body is left out, and a loop without clauses around a branch. -/
def loopDocument : Node :=
  .sequence default "!!seq" [
    .mapping default "!!map" [(word "fn", word "f"), (word "body", nothing)],
    .mapping default "!!map" [(word "for", nothing), (word "body", .sequence default "!!seq" [
      .mapping default "!!map" [(word "if", .mapping default "!!map" [
          (word "binary", word "<"), (word "left", word "x"), (word "right", word "y")]),
        (word "then", .sequence default "!!seq" [])]])]]
where
  word (text : String) : Node := .scalar default "!!str" .plain text
  nothing : Node := .scalar default "!!null" .plain ""

theorem program_complete_loopDocument :
    ∃ p, program .written "loop" loopDocument = .ok p ∧ p.Complete := by
  have accepted : (program .written "loop" loopDocument).toBool = true := by
    decide +kernel
  cases hp : program .written "loop" loopDocument with
  | error flaw =>
    rw [hp] at accepted
    cases accepted
  | ok p => exact ⟨p, rfl, (program_complete _ _ _ p hp).1⟩

end Lanewise.Fixture
