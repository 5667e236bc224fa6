import Lanewise.Proofs.Complete.Fixture
import Lanewise.Proofs.Position.Document
import Lanewise.Proofs.Position.Tree
import Lanewise.Proofs.Summary.Verdict

/-!
# Positions of programs in documents

Whatever is read off a node of a document is read with positions of its nodes, and what is wrong
with it is wrong at one of them (`Reading.Placed`). Together with the positions of type errors this
gives `diagnostic_placed`: the error that a document fails with stands at a node of it.
-/

namespace Lanewise.Fixture

open Yaml (Node)

-- ---------------------------------------------------------------------------
-- Ends of a reading
-- ---------------------------------------------------------------------------

/-- The result has the property, or else the flaw is at one of the places. -/
def Lands (places : List Pos) (P : α → Prop) : Read α → Prop
  | .ok a => P a
  | .error flaw => flaw.pos ∈ places

namespace Lands

variable {places : List Pos} {P : α → Prop} {Q : β → Prop} {m : Read α} {f : α → Read β}

theorem pure (h : P a) : Lands places P (pure a : Read α) := h

theorem bind (hm : Lands places P m) (hf : ∀ a, P a → Lands places Q (f a)) :
    Lands places Q (m >>= f) := by
  cases m with
  | ok a => exact hf a hm
  | error flaw => exact hm

theorem mono (hm : Lands places P m) (h : ∀ a, P a → P' a) : Lands places P' m := by
  cases m with
  | ok a => exact h a hm
  | error flaw => exact hm

theorem mapM {items : List α} (h : ∀ item ∈ items, Lands places Q (f item)) :
    Lands places (fun found => ∀ b ∈ found, Q b) (items.mapM f) := by
  induction items with
  | nil => exact .pure (by simp)
  | cons item items ih =>
    rw [List.forall_mem_cons] at h
    rw [List.mapM_cons]
    exact .bind h.1 fun b hb => .bind (ih h.2) fun found hfound =>
      .pure (List.forall_mem_cons.mpr ⟨hb, hfound⟩)

theorem foldlM {step : β → α → Read β} {items : List α}
    (h : ∀ b, Q b → ∀ item ∈ items, Lands places Q (step b item)) (hb : Q b) :
    Lands places Q (items.foldlM step b) := by
  induction items generalizing b with
  | nil => exact .pure hb
  | cons item items ih =>
    rw [List.foldlM_cons]
    refine .bind (h b hb item List.mem_cons_self) fun next hnext => ?_
    exact ih (fun b hb other hother => h b hb other (List.mem_cons_of_mem item hother)) hnext

end Lands

section
variable {document : Node}

/-- The positions in the result are places of the document, or else the flaw is at one. -/
abbrev ReadsFrom (document : Node) (positions : α → List Pos) (m : Read α) : Prop :=
  Lands document.places (fun a => positions a ⊆ document.places) m

abbrev ReadsData (document : Node) (m : Read α) : Prop := Lands document.places (fun _ => True) m

-- ---------------------------------------------------------------------------
-- Scalars
-- ---------------------------------------------------------------------------

theorem scalarText_lands (hd : document.Anchored) (h : n ∈ document.nodes) :
    ReadsData document (scalarText n) := by
  have hpos := Node.pos_mem (hd.resolve_mem h)
  unfold scalarText
  dsimp only
  split
  · split
    · exact hpos
    · trivial
  · exact hpos

theorem boolean_lands (h : n ∈ document.nodes) :
    ReadsData document (boolean n) := by
  unfold boolean
  split
  · trivial
  · exact Node.pos_mem h

theorem writtenType_lands (hd : document.Anchored) (h : n ∈ document.nodes) :
    Lands document.places (fun a => a.pos ∈ document.places) (writtenType n) :=
  .bind (scalarText_lands hd h) fun _ _ => .pure (Node.pos_mem h)

theorem literal_lands (h : pos ∈ document.places) :
    ReadsFrom document Expr.positions (literal pos tag style text) := by
  have one {e : Expr} (he : e.positions = [pos]) : e.positions ⊆ document.places := by
    simpa [he] using h
  unfold literal
  split
  · exact one rfl
  split
  · split
    · split
      · exact one rfl
      · exact h
    · exact h
  split
  · split
    · exact one rfl
    · exact h
  split
  · split
    · exact one rfl
    · exact h
  split
  · exact h
  · exact one rfl

-- ---------------------------------------------------------------------------
-- Forms
-- ---------------------------------------------------------------------------

structure Reading.Placed (document : Node) (r : Reading) : Prop where
  node : r.node ∈ document.nodes
  expr : ReadsFrom document Expr.positions r.expr
  stmt : ReadsFrom document Stmt.positions r.stmt
  exprs : ReadsFrom document Expr.positionsIn r.exprs
  stmts : ReadsFrom document Stmt.positionsIn r.stmts

theorem Reading.Placed.pos (h : Reading.Placed document r) : r.pos ∈ document.places :=
  Node.pos_mem h.node

theorem Reading.Placed.block (hd : document.Anchored) (h : Reading.Placed document r) :
    ReadsFrom document (fun found => found.1 :: Stmt.positionsIn found.2) r.block :=
  .bind h.stmts fun _ hbody =>
    .pure (List.cons_subset.mpr ⟨Node.pos_mem (hd.resolve_mem h.node), hbody⟩)

structure Form.Placed (document : Node) (f : Form Reading) : Prop where
  pos : f.pos ∈ document.places
  head : f.head.Placed document
  fields : ∀ field ∈ f.fields, field.2.Placed document

theorem Form.repeatedKey?_mem {fields : List (Node × α)} (h : repeatedKey? seen fields = some key) :
    ∃ value, (key, value) ∈ fields := by
  induction fields generalizing seen with
  | nil => cases h
  | cons field fields ih =>
    obtain ⟨first, value⟩ := field
    unfold repeatedKey? at h
    split at h
    · obtain rfl := Option.some.inj h
      exact ⟨value, List.mem_cons_self⟩
    · obtain ⟨value, hmem⟩ := ih h
      exact ⟨value, List.mem_cons_of_mem _ hmem⟩

theorem Form.ofFields_lands {readings : List (Node × Reading)} {pos : Pos}
    (hpos : pos ∈ document.places)
    (h : ∀ field ∈ readings, field.1 ∈ document.nodes ∧ field.2.Placed document) :
    Lands document.places (Form.Placed document) (Form.ofFields order category pos readings) := by
  unfold Form.ofFields
  split
  · rename_i key hkey
    obtain ⟨value, hmem⟩ := repeatedKey?_mem hkey
    exact Node.pos_mem (h _ hmem).1
  split
  · exact hpos
  rename_i key head hhead
  dsimp only
  split
  · rename_i strange hstrange
    obtain ⟨value, hmem⟩ := Form.mem_of_strangeKey? hstrange
    exact Node.pos_mem (h _ (List.mem_filter.mp hmem).1).1
  · refine ⟨hpos, (h _ (List.mem_of_find?_eq_some hhead)).2, fun field hfield => ?_⟩
    obtain ⟨original, horiginal, rfl⟩ := List.mem_map.mp hfield
    exact (h original (List.mem_filter.mp horiginal).1).2

namespace Form.Placed

variable {f : Form Reading} {key : String}

theorem field? (hf : f.Placed document) (h : f.field? key = some r) : r.Placed document := by
  obtain ⟨before, after, hfields, -⟩ := List.lookup_eq_some_iff.mp h
  exact hf.fields (key, r) (by simp [hfields])

theorem given? (hf : f.Placed document) (h : f.given? key = some r) : r.Placed document :=
  hf.field? (Option.mem_filter_iff.mp h).1

theorem require (hf : f.Placed document) :
    Lands document.places (Reading.Placed document) (f.require key) := by
  unfold Form.require
  split
  · rename_i r hr
    exact hf.given? hr
  · exact hf.pos

theorem operand (hf : f.Placed document) :
    ReadsFrom document Expr.positions (f.operand key) :=
  .bind hf.require fun _ hr => hr.expr

theorem optionalExpr (hf : f.Placed document) :
    ReadsFrom document Expr.positions (f.optionalExpr key) := by
  unfold Form.optionalExpr
  split
  · rename_i r hr
    exact (hf.given? hr).expr
  · exact List.nil_subset _

theorem optionalType (hd : document.Anchored) (hf : f.Placed document) :
    ReadsFrom document WrittenType.positions (f.optionalType key) := by
  unfold Form.optionalType
  split
  · rename_i r hr
    exact .bind (writtenType_lands hd (hf.given? hr).node) fun a ha =>
      .pure (by simpa [WrittenType.positions] using ha)
  · exact List.nil_subset _

theorem optionalKind (hd : document.Anchored) (hf : f.Placed document) :
    ReadsData document f.optionalKind := by
  unfold Form.optionalKind
  split
  · rename_i r hr
    exact scalarText_lands hd (hf.given? hr).node
  · trivial

theorem operator (hd : document.Anchored) (hf : f.Placed document) :
    ReadsData document (f.operator operators ofText?) := by
  refine .bind (scalarText_lands hd hf.head.node) fun spelling _ => ?_
  split
  · trivial
  · exact hf.head.pos

theorem exprs (hf : f.Placed document) :
    ReadsFrom document Expr.positionsIn (f.exprs key) := by
  unfold Form.exprs
  split
  · rename_i r hr
    exact (hf.field? hr).exprs
  · exact List.nil_subset _

theorem blockOr (hd : document.Anchored) (hf : f.Placed document)
    (hother : other.positions ⊆ document.places) :
    ReadsFrom document Stmt.positions (f.blockOr key other) := by
  unfold Form.blockOr
  split
  · rename_i r hr
    exact .bind ((hf.field? hr).block hd) fun _ hblock => .pure hblock
  · exact hother

end Form.Placed

-- ---------------------------------------------------------------------------
-- Expressions
-- ---------------------------------------------------------------------------

theorem twoOperands_lands (hpos : pos ∈ document.places)
    (h : Expr.positionsIn operands ⊆ document.places) :
    ReadsFrom document (fun found => found.1.positions ++ found.2.positions)
      (twoOperands pos operands) := by
  unfold twoOperands
  split
  · simpa [Lands, Expr.positionsIn] using h
  · exact hpos

theorem compound_lands {f : Form Reading} (hd : document.Anchored) (hf : f.Placed document) :
    ReadsFrom document Expr.positions (compound f) := by
  have hpos := hf.pos
  unfold compound
  split
  · exact .bind (hf.operator hd) fun _ _ => .bind hf.operand fun _ hl =>
      .bind hf.operand fun _ hr => .pure (by simp [Expr.positions, hpos, hl, hr])
  · exact .bind (hf.operator hd) fun _ _ => .bind hf.operand fun _ he =>
      .pure (by simp [Expr.positions, hpos, he])
  · exact .bind hf.head.expr fun _ hcallee => .bind hf.exprs fun _ hargs =>
      .pure (by simp [Expr.positions, hpos, hcallee, hargs])
  · exact .bind hf.head.expr fun _ he => .pure (by simp [Expr.positions, hpos, he])
  · exact .bind hf.head.expr fun _ ho => .bind hf.operand fun _ hi =>
      .pure (by simp [Expr.positions, hpos, ho, hi])
  · exact .bind (scalarText_lands hd hf.head.node) fun _ _ => .bind hf.operand fun _ ho =>
      .pure (by simp [Expr.positions, hpos, ho])
  · exact .bind hf.head.exprs fun _ hes => .bind (hf.optionalKind hd) fun _ _ =>
      .pure (by simp [Expr.positions, hpos, hes])
  · exact .bind (hf.operator hd) fun _ _ => .bind hf.operand fun _ hl =>
      .bind hf.operand fun _ hr => .pure (by simp [Expr.positions, hpos, hl, hr])
  · exact .bind (hf.operator hd) fun _ _ => .bind hf.operand fun _ hs =>
      .bind hf.operand fun _ hv => .pure (by simp [Expr.positions, hpos, hs, hv])
  · exact .bind (hf.operator hd) fun _ _ => .bind hf.operand fun _ he =>
      .pure (by simp [Expr.positions, hpos, he])
  · exact .bind hf.head.exprs fun _ hes => .bind (twoOperands_lands hf.head.pos hes) fun _ h =>
      .pure (List.cons_subset.mpr ⟨hpos, h⟩)
  · exact .bind (scalarText_lands hd hf.head.node) fun _ _ => .bind hf.operand fun _ he =>
      .pure (by simp [Expr.positions, hpos, he])
  · exact .bind hf.head.expr fun _ ha => .bind (hf.optionalKind hd) fun _ _ =>
      .pure (by simp [Expr.positions, hpos, ha])
  · exact .bind hf.head.expr fun _ ha => .bind hf.operand fun _ he =>
      .pure (by simp [Expr.positions, hpos, ha, he])

-- ---------------------------------------------------------------------------
-- Statements
-- ---------------------------------------------------------------------------

theorem param_lands (hd : document.Anchored) (h : n ∈ document.nodes) :
    ReadsFrom document Param.positions (param n) := by
  have hmem := hd.resolve_mem h
  unfold param
  split
  · rename_i pos _ fields hn
    rw [hn] at hmem
    have hpos : pos ∈ document.places := Node.pos_mem hmem
    -- Field by field, the annotation found last is at a node of the document.
    have taken : Lands document.places
        (fun draft => WrittenType.positions draft.written ⊆ document.places)
        (fields.foldlM ParamDraft.take {}) := by
      refine .foldlM (fun draft hdraft field hfield => ?_) (List.nil_subset _)
      have hvalue := hd.resolve_mem (Node.field_mem hmem hfield).2
      unfold ParamDraft.take
      dsimp only
      split
      · exact .bind (scalarText_lands hd hvalue) fun _ _ => .pure hdraft
      · exact .bind (writtenType_lands hd hvalue) fun a ha =>
          .pure (by simpa [WrittenType.positions] using ha)
      · exact .bind (boolean_lands hvalue) fun _ _ => .pure hdraft
      · exact Node.pos_mem (Node.field_mem hmem hfield).1
    refine .bind taken fun draft hdraft => ?_
    split
    · exact hpos
    · refine .pure (List.cons_subset.mpr ⟨hpos, ?_⟩)
      cases hwritten : draft.written with
      | none => exact List.nil_subset _
      | some a => simpa [WrittenType.positions, hwritten] using hdraft
  · exact Node.pos_mem hmem

theorem params_lands {f : Form Reading} (hd : document.Anchored) (hf : f.Placed document) :
    ReadsFrom document (·.flatMap Param.positions) (params f) := by
  unfold params
  split
  · exact List.nil_subset _
  · rename_i r hr
    have hnode := (hf.given? hr).node
    split
    · rename_i items hitems
      rw [hitems] at hnode
      refine .mono (.mapM fun n hn => param_lands hd (Node.item_mem hnode hn))
        fun found hfound p hp => ?_
      obtain ⟨one, hone, hp⟩ := List.mem_flatMap.mp hp
      exact hfound one hone hp
    · rename_i other _ hother
      exact Node.pos_mem hnode

theorem body_lands {f : Form Reading} (hd : document.Anchored) (hf : f.Placed document) :
    ReadsFrom document (fun found => found.1 :: Stmt.positionsIn found.2) (body f) := by
  unfold body
  split
  · rename_i r hr
    exact (hf.field? hr).block hd
  · exact List.cons_subset.mpr ⟨hf.pos, List.nil_subset _⟩

theorem loopStart_lands {f : Form Reading} (hf : f.Placed document) :
    ReadsFrom document Stmt.positions (loopStart f) := by
  unfold loopStart
  split
  · rename_i r hr
    exact (hf.given? hr).stmt
  · exact List.nil_subset _

theorem mutability_lands {f : Form Reading} (hf : f.Placed document) :
    ReadsData document (mutability f) := by
  unfold mutability
  split
  · rename_i r hr
    exact boolean_lands (hf.field? hr).node
  · trivial

theorem statement_lands {f : Form Reading} (hd : document.Anchored) (hf : f.Placed document) :
    ReadsFrom document Stmt.positions (statement f) := by
  have hpos := hf.pos
  have hempty : (Stmt.block f.pos []).positions ⊆ document.places := by
    simp [Stmt.positions, Stmt.positionsIn, hpos]
  unfold statement
  split
  · exact .bind (scalarText_lands hd hf.head.node) fun _ _ => .bind (params_lands hd hf)
      fun _ hparams => .bind (hf.optionalType hd) fun _ hreturns => .bind (body_lands hd hf)
        fun _ hbody => .pure (by simp_all [Stmt.positions, FnHead.positions])
  · exact .bind (scalarText_lands hd hf.head.node) fun _ _ =>
      .bind (hf.optionalType hd) fun _ hwritten => .bind (mutability_lands hf) fun _ _ =>
        .bind hf.optionalExpr fun _ hvalue =>
        .pure (by simp [Stmt.positions, hpos, hwritten, hvalue])
  · split
    · exact .pure (by simp [Stmt.positions, Expr.positions, hpos])
    · exact .bind hf.head.expr fun _ hvalue => .pure (by simp [Stmt.positions, hpos, hvalue])
  · exact .bind (hf.head.block hd) fun _ hblock =>
      .pure (by simp_all [Stmt.positions])
  · exact .bind hf.head.expr fun _ hc => .bind hf.require fun yes hyes => .bind (hyes.block hd)
      fun _ hblock => .bind (hf.blockOr hd (List.nil_subset _)) fun _ hno =>
        .pure (by simp_all [Stmt.positions])
  · exact .bind hf.head.expr fun _ hc => .bind (hf.blockOr hd hempty) fun _ hbody =>
      .pure (by simp [Stmt.positions, hpos, hc, hbody])
  · split
    · exact hf.head.pos
    · exact .bind (loopStart_lands hf) fun _ hinit => .bind hf.optionalExpr fun _ hc =>
        .bind hf.optionalExpr fun _ hstep => .bind (hf.blockOr hd hempty) fun _ hbody =>
          .pure (by simp [Stmt.positions, hpos, hinit, hc, hstep, hbody])
  · exact .bind hf.head.expr fun _ he => .pure (by simp [Stmt.positions, hpos, he])

-- ---------------------------------------------------------------------------
-- Readings
-- ---------------------------------------------------------------------------

namespace Reading

variable {order : KeyOrder}

theorem ofScalar_placed (h : .scalar p tag style text ∈ document.nodes) :
    (ofNode order (.scalar p tag style text)).Placed document := by
  have hpos : p ∈ document.places := Node.pos_mem h
  refine ⟨h, literal_lands hpos, hpos, ?_, ?_⟩
  · simp only [exprs, ofNode, readExprs]
    split
    · exact List.nil_subset _
    · exact hpos
  · simp only [stmts, ofNode, readStmts]
    split
    · exact List.nil_subset _
    · exact hpos

theorem ofItems_placed (hn : .sequence p tag items ∈ document.nodes)
    (h : ∀ n ∈ items, (ofNode order n).Placed document) :
    (ofNode order (.sequence p tag items)).Placed document := by
  have hpos : p ∈ document.places := Node.pos_mem hn
  refine ⟨hn, hpos, hpos, ?_, ?_⟩
  · simp only [exprs, ofNode, readExprs, readEachExpr_eq_mapM]
    exact .mono (.mapM fun n hn => (h n hn).expr) fun _ => Expr.positionsIn_subset.mpr
  · simp only [stmts, ofNode, readStmts, readEachStmt_eq_mapM]
    exact .mono (.mapM fun n hn => (h n hn).stmt) fun _ => Stmt.positionsIn_subset.mpr

theorem ofFields_placed (hd : document.Anchored) (hn : .mapping p tag fields ∈ document.nodes)
    (h : ∀ field ∈ fields, (ofNode order field.2).Placed document) :
    (ofNode order (.mapping p tag fields)).Placed document := by
  have hpos : p ∈ document.places := Node.pos_mem hn
  have hvalues : ∀ field ∈ readValues order fields,
      field.1 ∈ document.nodes ∧ field.2.Placed document := by
    rw [readValues_eq_map, List.forall_mem_map]
    exact fun field hfield => ⟨(Node.field_mem hn hfield).1, h field hfield⟩
  refine ⟨hn, ?_, ?_, hpos, hpos⟩
  · exact .bind (Form.ofFields_lands hpos hvalues) fun _ hf => compound_lands hd hf
  · exact .bind (Form.ofFields_lands hpos hvalues) fun _ hf => statement_lands hd hf

theorem ofNode_placed (hd : document.Anchored) (n : Node) (hn : n ∈ document.nodes) :
    (ofNode order n).Placed document := by
  induction n using Node.induct with
  | scalar => exact ofScalar_placed hn
  | sequence _ _ _ ih => exact ofItems_placed hn fun n hitem => ih n hitem (Node.item_mem hn hitem)
  | mapping _ _ _ ih =>
    exact ofFields_placed hd hn fun field hfield =>
      (ih field hfield).2 (Node.field_mem hn hfield).2
  | target _ _ target ih => exact ih (hd _ hn target rfl)

end Reading

theorem readStmts_lands (hd : document.Anchored) (hn : n ∈ document.nodes) :
    ReadsFrom document Stmt.positionsIn (readStmts order n) :=
  (Reading.ofNode_placed hd n hn).stmts

-- ---------------------------------------------------------------------------
-- Programs
-- ---------------------------------------------------------------------------

theorem program_lands (hd : document.Anchored) (order : KeyOrder) (name : String) :
    ReadsFrom document Program.positions (program order name document) := by
  have hmem := hd.resolve_mem document.self_mem_nodes
  unfold program
  split
  · rename_i fields hn
    rw [hn] at hmem
    refine .foldlM (fun p hp field hfield => ?_) (List.nil_subset _)
    have hvalue := hd.resolve_mem (Node.field_mem hmem hfield).2
    unfold takeField
    dsimp only
    split
    · exact .bind (scalarText_lands hd hvalue) fun _ _ => .pure hp
    · exact .bind (readStmts_lands hd hvalue) fun _ hbody => .pure hbody
    · exact Node.pos_mem (Node.field_mem hmem hfield).1
  · rename_i pos tag items hn
    rw [hn] at hmem
    exact .bind (readStmts_lands hd hmem) fun _ hbody => .pure hbody
  · exact Node.pos_mem hmem

end

end Lanewise.Fixture

namespace Lanewise

open Fixture
open Yaml (Node)

-- ---------------------------------------------------------------------------
-- Diagnostics
-- ---------------------------------------------------------------------------

namespace Verdict

def ofDocument (order : KeyOrder) (path : String) (document : Node) (o : RunOptions) : Verdict :=
  .ofDecoded path ((Fixture.program order (programName path) document).mapError (.flawed path)) o

/-- If the unit is not in order, it has one diagnostic, an error at a node of the document. -/
def BlamesNode (document : Node) (v : Verdict) : Prop :=
  v.isOk = false → ∃ d, v.diagnostics = [d] ∧ d.severity = .error ∧ d.pos ∈ document.places

variable {order : KeyOrder} {document : Node} {path text : String} {v : Verdict} {o : RunOptions}

theorem ofSource_eq (h : Yaml.document text = .ok (some document)) :
    ofSource order path text o = ofDocument order path document o := by
  rw [ofSource, parse, h, ofDocument]
  dsimp only
  cases Fixture.program order (programName path) document <;> rfl

theorem blamesNode_of_failure {f : Failure} (hds : v.diagnostics = [f.diagnostic.stamp path])
    (hpos : f.diagnostic.pos ∈ document.places) : v.BlamesNode document :=
  fun _ => ⟨f.diagnostic.stamp path, hds, by simp, by simpa using hpos⟩

theorem blamesNode_ofProgram {p : Program} (hcomplete : p.Complete)
    (hp : p.positions ⊆ document.places) : (ofProgram path p o).BlamesNode document := by
  cases hrun : p.run o.toCheckOptions with
  | mk result c =>
    cases result with
    | ok =>
      have accepted : (SourceUnit.mk path (.program p) o).Accepted :=
        ⟨p, c, rfl, by rw [Program.check, hrun]⟩
      have hok : (ofProgram path p o).isOk = true := (SourceUnit.isOk_iff _).mpr accepted
      exact fun hfailed => Bool.noConfusion (hfailed.symm.trans hok)
    | error e =>
      have hcheck : p.check o.toCheckOptions = .error e := by rw [Program.check, hrun]
      have hds : (ofProgram path p o).diagnostics = [e.failure.diagnostic.stamp path] := by
        rw [ofProgram, hrun]
        exact diagnostics_ofFailure path e.failure
      exact blamesNode_of_failure hds (hp ((hcomplete.blames hcheck).1))

theorem blamesNode_ofDocument (hd : document.Anchored) :
    (ofDocument order path document o).BlamesNode document := by
  have lands := program_lands hd order (programName path)
  rw [ofDocument]
  cases hprogram : Fixture.program order (programName path) document with
  | error flaw =>
    rw [hprogram] at lands
    exact blamesNode_of_failure (diagnostics_ofFailure path _) lands
  | ok p =>
    rw [hprogram] at lands
    exact blamesNode_ofProgram (complete_of_program hprogram) lands

end Verdict

/-- For every document whose aliases stand for nodes of it: if it is not decoded or not accepted,
there is one error, which stands at a node of the document. The positions of the program are from
there, and no check of it falls back on the position of something missing. Documents read from a
text are such documents, and the position that stands for nothing is none of theirs. -/
theorem diagnostic_placed (order : KeyOrder) (path : String) (o : RunOptions) :
    (∀ document : Node, document.Anchored →
      (Verdict.ofDocument order path document o).BlamesNode document ∧
      ∀ p, program order (programName path) document = .ok p →
        p.positions ⊆ document.places ∧
        ∀ e, p.check o.toCheckOptions = .error e →
          e.pos ∈ p.positions ∧ e.fault ≠ .missingExpression) ∧
    ∀ (text : String) (document : Node), Yaml.document text = .ok (some document) →
      document.Anchored ∧ Pos.none ∉ document.places ∧
      Verdict.ofSource order path text o = .ofDocument order path document o ∧
      (Verdict.ofSource order path text o).BlamesNode document := by
  refine ⟨fun document hd => ⟨Verdict.blamesNode_ofDocument hd, fun p hprogram => ⟨?_, ?_⟩⟩,
    fun text document htext => ?_⟩
  · have lands := program_lands hd order (programName path)
    rw [hprogram] at lands
    exact lands
  · intro e he
    have hcomplete := complete_of_program hprogram
    obtain ⟨hpos, horderly⟩ := hcomplete.blames he
    refine ⟨hpos, fun hfault => ?_⟩
    rw [hfault] at horderly
    cases horderly
  · obtain ⟨hd, hplaces⟩ := Yaml.document_anchored htext
    have hsame : Verdict.ofSource order path text o = .ofDocument order path document o :=
      Verdict.ofSource_eq htext
    refine ⟨hd, fun hnone => ?_, hsame, hsame ▸ Verdict.blamesNode_ofDocument hd⟩
    exact absurd (hplaces _ hnone).1 (by decide)

/-- A branch whose condition is an alias of the number that a variable starts with. -/
def aliasedCondition : Node :=
  .sequence ⟨1, 1⟩ "!!seq" [
    .mapping ⟨1, 3⟩ "!!map" [(word ⟨1, 3⟩ "let", word ⟨1, 8⟩ "x"), (word ⟨2, 3⟩ "value", one)],
    .mapping ⟨3, 3⟩ "!!map" [(word ⟨3, 3⟩ "if", .alias ⟨3, 7⟩ "a" one),
      (word ⟨4, 3⟩ "then", .sequence ⟨4, 9⟩ "!!seq" [])]]
where
  word (pos : Pos) (text : String) : Node := .scalar pos "!!str" .plain text
  one : Node := .scalar ⟨2, 10⟩ "!!int" .plain "1"

def plainTarget : RunOptions := { detector := .baseline .x86_64 }

theorem diagnostic_placed_aliasAndBlank :
    (∃ d, (Verdict.ofDocument .written "a" aliasedCondition plainTarget).diagnostics = [d] ∧
      d.severity = .error ∧ d.pos ∈ aliasedCondition.places) ∧
    ∃ document d, Yaml.document "-" = .ok (some document) ∧
      (Verdict.ofSource .written "b" "-" plainTarget).diagnostics = [d] ∧
      d.severity = .error ∧ d.pos ∈ document.places := by
  constructor
  · have hd : aliasedCondition.Anchored := by
      simp [Node.Anchored, aliasedCondition, Node.nodes, Node.nodesIn, Node.nodesOf, Node.target?,
        aliasedCondition.word, aliasedCondition.one]
    have hfailed :
        (Verdict.ofDocument .written "a" aliasedCondition plainTarget).isOk = false := by
      decide +kernel
    exact ((diagnostic_placed .written "a" plainTarget).1 aliasedCondition hd).1 hfailed
  · have present : ((Yaml.document "-").toOption.any Option.isSome) = true := by decide +kernel
    have hfailed : (Verdict.ofSource .written "b" "-" plainTarget).isOk = false := by
      decide +kernel
    rcases hread : Yaml.document "-" with fault | _ | document
    · simp [hread, Except.toOption] at present
    · simp [hread, Except.toOption] at present
    · obtain ⟨-, -, -, hblames⟩ :=
        (diagnostic_placed .written "b" plainTarget).2 "-" document hread
      obtain ⟨d, hd⟩ := hblames hfailed
      exact ⟨document, d, rfl, hd⟩

end Lanewise
