import Lanewise.Proofs.Complete.Fixture
import Mathlib.Data.List.Nodup
import Mathlib.Logic.Relation

/-!
# What the nodes of a document are read as

Reading a document as a program asks for its nodes as parts of a program: statements, expressions,
parameters and lists of these. `Asks` says which nodes are asked for as what, and `Decoded` takes
this from the document down to all of its nodes. A reading succeeds only if all that is asked for
can be read (`Decoded.reads`).
-/

namespace Lanewise.Fixture

open Yaml (Node)

inductive Part
  | program | statements | statement | expressions | expression | params | param
  deriving DecidableEq

def Category.part : Category → Part
  | .statement => .statement
  | .expression => .expression

/-- What the values in a mapping are asked for as, by the form of the mapping and the key. The head
stands under the name of the form. Values that are not here are texts and booleans. -/
def Category.parts : Category → List (String × String × Part)
  | .statement => [
    ("fn", "params", .params), ("fn", "body", .statements),
    ("let", "value", .expression),
    ("return", "return", .expression),
    ("block", "block", .statements),
    ("if", "if", .expression), ("if", "then", .statements), ("if", "else", .statements),
    ("while", "while", .expression), ("while", "body", .statements),
    ("for", "init", .statement), ("for", "cond", .expression), ("for", "step", .expression),
    ("for", "body", .statements),
    ("expr", "expr", .expression)]
  | .expression => [
    ("binary", "left", .expression), ("binary", "right", .expression),
    ("unary", "operand", .expression),
    ("call", "call", .expression), ("call", "args", .expressions),
    ("group", "group", .expression),
    ("index", "index", .expression), ("index", "at", .expression),
    ("field", "of", .expression),
    ("vector", "vector", .expressions),
    ("simd", "left", .expression), ("simd", "right", .expression),
    ("broadcast", "scalar", .expression), ("broadcast", "across", .expression),
    ("reduce", "operand", .expression),
    ("dot", "dot", .expressions),
    ("swizzle", "of", .expression),
    ("load", "load", .expression),
    ("store", "store", .expression), ("store", "value", .expression)]

/-- To read the first node as its part, the second is asked for as its part. Nothing is asked for
where a value is null. -/
inductive Asks : Part × Node → Part × Node → Prop
  | target : Asks (part, .alias pos name target) (part, target)
  | list : Asks (.program, .sequence pos tag items) (.statements, .sequence pos tag items)
  | body (hfield : (key, value) ∈ fields) (hkey : key.keyText = "statements") :
    Asks (.program, .mapping pos tag fields) (.statements, value)
  | statement (hitem : n ∈ items) : Asks (.statements, .sequence pos tag items) (.statement, n)
  | expression (hitem : n ∈ items) : Asks (.expressions, .sequence pos tag items) (.expression, n)
  | param (hitem : n ∈ items) : Asks (.params, .sequence pos tag items) (.param, n)
  | field (category : Category) (hform : Form.head? category.grammar fields = some (form, head))
    (hfield : (key, value) ∈ fields) (hpart : (form.keyText, key.keyText, part) ∈ category.parts)
    (hnull : value.resolve.isNull = false) :
    Asks (category.part, .mapping pos tag fields) (part, value)

def Decoded (document : Node) (part : Part) (n : Node) : Prop :=
  Relation.ReflTransGen Asks (.program, document) (part, n)

def Reading.Reads (order : KeyOrder) (r : Reading) : Part → Prop
  | .program => ∃ name p, program order name r.node = .ok p
  | .statements => ∃ body, r.stmts = .ok body
  | .statement => ∃ s, r.stmt = .ok s
  | .expressions => ∃ es, r.exprs = .ok es
  | .expression => ∃ e, r.expr = .ok e
  | .params =>
    ∃ pos tag items, r.node = .sequence pos tag items ∧
      ∀ item ∈ items, ∃ p, Fixture.param item = .ok p
  | .param => ∃ p, Fixture.param r.node = .ok p

theorem Reading.block_reads {r : Reading} (h : r.block = .ok found) :
    r.Reads order .statements := by
  obtain ⟨body, hbody, -⟩ := bind_ok.mp h
  exact ⟨body, hbody⟩

-- ---------------------------------------------------------------------------
-- Forms
-- ---------------------------------------------------------------------------

namespace Form

variable {α : Type} {order : KeyOrder} {f : Form α} {fields : List (Node × α)} {place : Pos}

theorem repeatedKey?_eq_none :
    repeatedKey? seen fields = none ↔ (keys fields).Nodup ∧ ∀ key ∈ keys fields, key ∉ seen := by
  induction fields generalizing seen with
  | nil => simp [repeatedKey?, keys]
  | cons field rest ih =>
    have hkeys : keys (field :: rest) = field.1.keyText :: keys rest := rfl
    rw [repeatedKey?, hkeys, List.nodup_cons]
    split
    case isTrue hseen =>
      simp [List.contains_iff_mem.mp hseen]
    case isFalse hseen =>
      rw [List.contains_iff_mem] at hseen
      rw [ih]
      grind

theorem lookup_of_mem {entries : List (String × α)} (hnodup : (entries.map (·.1)).Nodup)
    (h : (key, value) ∈ entries) : entries.lookup key = some value := by
  obtain ⟨before, after, rfl⟩ := List.append_of_mem h
  rw [List.map_append, List.map_cons, List.nodup_append] at hnodup
  refine List.lookup_eq_some_iff.mpr ⟨before, after, rfl, fun entry hentry => ?_⟩
  exact bne_iff_ne.mpr (hnodup.2.2 entry.1 (List.mem_map_of_mem hentry) key (by simp)).symm

/-- The value under a key, that of the head included. -/
def value? (f : Form α) (key : String) : Option α :=
  if key = f.name then some f.head else f.field? key

theorem ofFields_ok (h : ofFields order category place fields = .ok f) :
    (keys fields).Nodup ∧ ∃ key, head? category.grammar fields = some (key, f.head) ∧
      f.name = key.keyText ∧
      f.fields = (others f.name fields).map fun field => (field.1.keyText, field.2) := by
  unfold ofFields at h
  split at h
  · cases h
  rename_i hrepeated
  split at h
  · cases h
  rename_i key head hhead
  dsimp only at h
  split at h
  · cases h
  obtain rfl := Except.ok.inj h
  exact ⟨(repeatedKey?_eq_none.mp hrepeated).1, key, hhead, rfl, rfl⟩

theorem ofFields_name (h : ofFields order category place fields = .ok f)
    (hhead : head? category.grammar fields = some (key, value)) : f.name = key.keyText := by
  obtain ⟨-, first, hfirst, hname, -⟩ := ofFields_ok h
  obtain ⟨rfl, -⟩ := Prod.mk.inj (Option.some.inj (hfirst.symm.trans hhead))
  exact hname

theorem value?_of_mem (h : ofFields order category place fields = .ok f)
    (hfield : (key, value) ∈ fields) : f.value? key.keyText = some value := by
  obtain ⟨hnodup, first, hhead, hname, hfields⟩ := ofFields_ok h
  unfold value?
  split
  · rename_i hkey
    have hsame := List.inj_on_of_nodup_map hnodup hfield (List.mem_of_find?_eq_some hhead)
      (hkey.trans hname)
    rw [(Prod.mk.inj hsame).2]
  · rename_i hkey
    have hentries : (f.fields.map (·.1)).Nodup := by
      have hsub : (keys (others f.name fields)).Sublist (keys fields) :=
        List.filter_sublist.map _
      simpa [hfields, keys, Function.comp_def] using hnodup.sublist hsub
    refine lookup_of_mem hentries ?_
    rw [hfields]
    exact List.mem_map.mpr ⟨(key, value), List.mem_filter.mpr ⟨hfield, by simpa using hkey⟩, rfl⟩

section
variable {f : Form Reading} {r : Reading}

theorem head_of_value? (hr : f.value? key = some r) (hkey : f.name = key) : f.head = r := by
  simpa [value?, hkey] using hr

theorem field?_of_value? (hr : f.value? key = some r) (hkey : f.name ≠ key) :
    f.field? key = some r := by
  simpa [value?, hkey.symm] using hr

theorem given?_of_field? (hr : f.field? key = some r) (hnull : r.isNull = false) :
    f.given? key = some r := by
  simp [given?, hr, hnull]

theorem require_reads (h : f.require key = .ok found) (hr : f.field? key = some r) : found = r := by
  unfold require at h
  split at h
  · rename_i given hgiven
    rw [given?, Option.filter_eq_some_iff, hr] at hgiven
    exact (Except.ok.inj h).symm.trans (Option.some.inj hgiven.1).symm
  · cases h

theorem operand_reads (h : f.operand key = .ok e) (hr : f.field? key = some r) :
    r.Reads order .expression := by
  obtain ⟨found, hfound, he⟩ := bind_ok.mp h
  obtain rfl := require_reads hfound hr
  exact ⟨e, he⟩

theorem optionalExpr_reads (h : f.optionalExpr key = .ok e) (hr : f.field? key = some r)
    (hnull : r.isNull = false) : r.Reads order .expression := by
  rw [optionalExpr, given?_of_field? hr hnull] at h
  exact ⟨e, h⟩

theorem exprs_reads (h : f.exprs key = .ok es) (hr : f.field? key = some r) :
    r.Reads order .expressions := by
  rw [exprs, hr] at h
  exact ⟨es, h⟩

theorem blockOr_reads (h : f.blockOr key other = .ok s) (hr : f.field? key = some r) :
    r.Reads order .statements := by
  simp only [blockOr, hr, bind_ok] at h
  obtain ⟨found, hfound, -⟩ := h
  exact r.block_reads hfound

end

end Form

-- ---------------------------------------------------------------------------
-- Expressions and statements
-- ---------------------------------------------------------------------------

section
variable {order : KeyOrder} {f : Form Reading} {r : Reading}

-- The last form of each category has no pattern of its own, so the match does not simplify.
theorem compound_store (hname : f.name = "store") :
    compound f = do return .store f.pos (← f.head.expr) (← f.operand "value") := by
  rw [compound, hname]
  rfl

theorem statement_expr (hname : f.name = "expr") :
    statement f = do return .expr f.pos (← f.head.expr) := by
  rw [statement, hname]
  rfl

theorem statement_for (hname : f.name = "for") (h : statement f = .ok s) :
    ∃ init, loopStart f = .ok init ∧ ∃ condition, f.optionalExpr "cond" = .ok condition ∧
      ∃ step, f.optionalExpr "step" = .ok step ∧
      ∃ body, f.blockOr "body" (.block f.pos []) = .ok body := by
  simp only [statement, hname] at h
  split at h
  · cases h
  · simp only [bind_ok] at h
    obtain ⟨init, hinit, condition, hcondition, step, hstep, body, hbody, -⟩ := h
    exact ⟨init, hinit, condition, hcondition, step, hstep, body, hbody⟩

theorem compound_reads (h : compound f = .ok e)
    (hpart : (f.name, key, part) ∈ Category.expression.parts) (hr : f.value? key = some r) :
    r.Reads order part := by
  have head : f.name = key → f.head = r := f.head_of_value? hr
  have field : f.name ≠ key → f.field? key = some r := f.field?_of_value? hr
  -- One case for each row of the table.
  simp only [Category.parts, List.mem_cons, Prod.mk.injEq, List.not_mem_nil, or_false] at hpart
  rcases hpart with ⟨hname, rfl, rfl⟩ | ⟨hname, rfl, rfl⟩ | ⟨hname, rfl, rfl⟩ | ⟨hname, rfl, rfl⟩ |
    ⟨hname, rfl, rfl⟩ | ⟨hname, rfl, rfl⟩ | ⟨hname, rfl, rfl⟩ | ⟨hname, rfl, rfl⟩ |
    ⟨hname, rfl, rfl⟩ | ⟨hname, rfl, rfl⟩ | ⟨hname, rfl, rfl⟩ | ⟨hname, rfl, rfl⟩ |
    ⟨hname, rfl, rfl⟩ | ⟨hname, rfl, rfl⟩ | ⟨hname, rfl, rfl⟩ | ⟨hname, rfl, rfl⟩ |
    ⟨hname, rfl, rfl⟩ | ⟨hname, rfl, rfl⟩ | ⟨hname, rfl, rfl⟩ | ⟨hname, rfl, rfl⟩
  · simp only [compound, hname, bind_ok, pure_ok] at h
    obtain ⟨op, -, left, hleft, -⟩ := h
    exact f.operand_reads hleft (field (by simp [hname]))
  · simp only [compound, hname, bind_ok, pure_ok] at h
    obtain ⟨op, -, left, -, right, hright, -⟩ := h
    exact f.operand_reads hright (field (by simp [hname]))
  · simp only [compound, hname, bind_ok, pure_ok] at h
    obtain ⟨op, -, inner, hinner, -⟩ := h
    exact f.operand_reads hinner (field (by simp [hname]))
  · simp only [compound, hname, bind_ok, pure_ok] at h
    obtain ⟨callee, hcallee, -⟩ := h
    exact head hname ▸ ⟨_, hcallee⟩
  · simp only [compound, hname, bind_ok, pure_ok] at h
    obtain ⟨callee, -, args, hargs, -⟩ := h
    exact f.exprs_reads hargs (field (by simp [hname]))
  · simp only [compound, hname, bind_ok, pure_ok] at h
    obtain ⟨inner, hinner, -⟩ := h
    exact head hname ▸ ⟨_, hinner⟩
  · simp only [compound, hname, bind_ok, pure_ok] at h
    obtain ⟨object, hobject, -⟩ := h
    exact head hname ▸ ⟨_, hobject⟩
  · simp only [compound, hname, bind_ok, pure_ok] at h
    obtain ⟨object, -, i, hi, -⟩ := h
    exact f.operand_reads hi (field (by simp [hname]))
  · simp only [compound, hname, bind_ok, pure_ok] at h
    obtain ⟨name, -, object, hobject, -⟩ := h
    exact f.operand_reads hobject (field (by simp [hname]))
  · simp only [compound, hname, bind_ok, pure_ok] at h
    obtain ⟨es, hes, -⟩ := h
    exact head hname ▸ ⟨_, hes⟩
  · simp only [compound, hname, bind_ok, pure_ok] at h
    obtain ⟨op, -, left, hleft, -⟩ := h
    exact f.operand_reads hleft (field (by simp [hname]))
  · simp only [compound, hname, bind_ok, pure_ok] at h
    obtain ⟨op, -, left, -, right, hright, -⟩ := h
    exact f.operand_reads hright (field (by simp [hname]))
  · simp only [compound, hname, bind_ok, pure_ok] at h
    obtain ⟨op, -, scalar, hscalar, -⟩ := h
    exact f.operand_reads hscalar (field (by simp [hname]))
  · simp only [compound, hname, bind_ok, pure_ok] at h
    obtain ⟨op, -, scalar, -, across, hacross, -⟩ := h
    exact f.operand_reads hacross (field (by simp [hname]))
  · simp only [compound, hname, bind_ok, pure_ok] at h
    obtain ⟨op, -, inner, hinner, -⟩ := h
    exact f.operand_reads hinner (field (by simp [hname]))
  · simp only [compound, hname, bind_ok, pure_ok] at h
    obtain ⟨es, hes, -⟩ := h
    exact head hname ▸ ⟨_, hes⟩
  · simp only [compound, hname, bind_ok, pure_ok] at h
    obtain ⟨pattern, -, inner, hinner, -⟩ := h
    exact f.operand_reads hinner (field (by simp [hname]))
  · simp only [compound, hname, bind_ok, pure_ok] at h
    obtain ⟨address, haddress, -⟩ := h
    exact head hname ▸ ⟨_, haddress⟩
  · simp only [compound_store hname, bind_ok, pure_ok] at h
    obtain ⟨address, haddress, -⟩ := h
    exact head hname ▸ ⟨_, haddress⟩
  · simp only [compound_store hname, bind_ok, pure_ok] at h
    obtain ⟨address, -, value, hvalue, -⟩ := h
    exact f.operand_reads hvalue (field (by simp [hname]))

theorem params_reads (h : params f = .ok found) (hr : f.field? "params" = some r)
    (hnull : r.isNull = false) : r.Reads order .params := by
  rw [params, f.given?_of_field? hr hnull] at h
  dsimp only at h
  split at h
  · rename_i pos tag items hitems
    exact ⟨pos, tag, items, hitems, fun item hitem => mapM_ok_of_mem h hitem⟩
  · cases h

theorem body_reads (h : body f = .ok found) (hr : f.field? "body" = some r) :
    r.Reads order .statements := by
  rw [body, hr] at h
  exact r.block_reads h

theorem loopStart_reads (h : loopStart f = .ok s) (hr : f.field? "init" = some r)
    (hnull : r.isNull = false) : r.Reads order .statement := by
  rw [loopStart, f.given?_of_field? hr hnull] at h
  exact ⟨s, h⟩

theorem statement_reads (h : statement f = .ok s)
    (hpart : (f.name, key, part) ∈ Category.statement.parts) (hr : f.value? key = some r)
    (hnull : r.isNull = false) : r.Reads order part := by
  have head : f.name = key → f.head = r := f.head_of_value? hr
  have field : f.name ≠ key → f.field? key = some r := f.field?_of_value? hr
  -- One case for each row of the table.
  simp only [Category.parts, List.mem_cons, Prod.mk.injEq, List.not_mem_nil, or_false] at hpart
  rcases hpart with ⟨hname, rfl, rfl⟩ | ⟨hname, rfl, rfl⟩ | ⟨hname, rfl, rfl⟩ | ⟨hname, rfl, rfl⟩ |
    ⟨hname, rfl, rfl⟩ | ⟨hname, rfl, rfl⟩ | ⟨hname, rfl, rfl⟩ | ⟨hname, rfl, rfl⟩ |
    ⟨hname, rfl, rfl⟩ | ⟨hname, rfl, rfl⟩ | ⟨hname, rfl, rfl⟩ | ⟨hname, rfl, rfl⟩ |
    ⟨hname, rfl, rfl⟩ | ⟨hname, rfl, rfl⟩ | ⟨hname, rfl, rfl⟩
  · simp only [statement, hname, bind_ok, pure_ok] at h
    obtain ⟨name, -, found, hparams, -⟩ := h
    exact params_reads hparams (field (by simp [hname])) hnull
  · simp only [statement, hname, bind_ok, pure_ok] at h
    obtain ⟨name, -, found, -, returns, -, found, hbody, -⟩ := h
    exact body_reads hbody (field (by simp [hname]))
  · simp only [statement, hname, bind_ok, pure_ok] at h
    obtain ⟨name, -, written, -, isMut, -, value, hvalue, -⟩ := h
    exact f.optionalExpr_reads hvalue (field (by simp [hname])) hnull
  · obtain rfl := head hname
    simp only [statement, hname, hnull, Bool.false_eq_true, if_false, bind_ok, pure_ok] at h
    obtain ⟨value, hvalue, -⟩ := h
    exact ⟨value, hvalue⟩
  · simp only [statement, hname, bind_ok, pure_ok] at h
    obtain ⟨found, hfound, -⟩ := h
    exact head hname ▸ f.head.block_reads hfound
  · simp only [statement, hname, bind_ok, pure_ok] at h
    obtain ⟨condition, hcondition, -⟩ := h
    exact head hname ▸ ⟨_, hcondition⟩
  · simp only [statement, hname, bind_ok, pure_ok] at h
    obtain ⟨condition, -, yes, hyes, found, hfound, -⟩ := h
    exact f.require_reads hyes (field (by simp [hname])) ▸ yes.block_reads hfound
  · simp only [statement, hname, bind_ok, pure_ok] at h
    obtain ⟨condition, -, yes, -, found, -, no, hno, -⟩ := h
    exact f.blockOr_reads hno (field (by simp [hname]))
  · simp only [statement, hname, bind_ok, pure_ok] at h
    obtain ⟨condition, hcondition, -⟩ := h
    exact head hname ▸ ⟨_, hcondition⟩
  · simp only [statement, hname, bind_ok, pure_ok] at h
    obtain ⟨condition, -, body, hbody, -⟩ := h
    exact f.blockOr_reads hbody (field (by simp [hname]))
  · obtain ⟨init, hinit, -⟩ := statement_for hname h
    exact loopStart_reads hinit (field (by simp [hname])) hnull
  · obtain ⟨init, -, condition, hcondition, -⟩ := statement_for hname h
    exact f.optionalExpr_reads hcondition (field (by simp [hname])) hnull
  · obtain ⟨init, -, condition, -, step, hstep, -⟩ := statement_for hname h
    exact f.optionalExpr_reads hstep (field (by simp [hname])) hnull
  · obtain ⟨init, -, condition, -, step, -, body, hbody⟩ := statement_for hname h
    exact f.blockOr_reads hbody (field (by simp [hname]))
  · simp only [statement_expr hname, bind_ok, pure_ok] at h
    obtain ⟨e, he, -⟩ := h
    exact head hname ▸ ⟨_, he⟩

end

-- ---------------------------------------------------------------------------
-- Documents
-- ---------------------------------------------------------------------------

section
variable {order : KeyOrder}

theorem program_resolve (n : Node) : program order name n.resolve = program order name n :=
  Node.apply_resolve (fun _ _ _ => rfl) n

theorem param_resolve (n : Node) : param n.resolve = param n :=
  Node.apply_resolve (fun _ _ _ => rfl) n

theorem readStmts_resolve (n : Node) : readStmts order n.resolve = readStmts order n :=
  Node.apply_resolve (fun _ _ _ => by rw [readStmts]) n

theorem mem_readValues (order : KeyOrder) (hfield : (key, value) ∈ fields) :
    (key, .ofNode order value) ∈ readValues order fields := by
  rw [readValues_eq_map]
  exact List.mem_map_of_mem hfield

theorem head?_readValues (order : KeyOrder) {g : Grammar}
    (h : Form.head? g fields = some (key, value)) :
    Form.head? g (readValues order fields) = some (key, .ofNode order value) := by
  rw [Form.head?, readValues_eq_map, List.find?_map]
  exact congrArg (Option.map _) h

theorem Asks.reads (h : Asks x y) (hx : (Reading.ofNode order x.2).Reads order x.1) :
    (Reading.ofNode order y.2).Reads order y.1 := by
  cases h with
  | target => exact hx
  | list =>
    obtain ⟨name, p, hp⟩ := hx
    simp only [Reading.ofNode, program, Node.resolve, bind_ok] at hp
    obtain ⟨body, hbody, -⟩ := hp
    exact ⟨body, hbody⟩
  | body hfield hkey =>
    obtain ⟨name, p, hp⟩ := hx
    simp only [Reading.ofNode, program, Node.resolve] at hp
    obtain ⟨p, q, hq⟩ := foldlM_ok_of_mem hp hfield
    simp only [takeField, hkey, bind_ok, readStmts_resolve] at hq
    obtain ⟨body, hbody, -⟩ := hq
    exact ⟨body, hbody⟩
  | statement hitem =>
    obtain ⟨body, hbody⟩ := hx
    simp only [Reading.stmts, Reading.ofNode, readStmts, readEachStmt_eq_mapM] at hbody
    obtain ⟨s, hs⟩ := mapM_ok_of_mem hbody hitem
    exact ⟨s, hs⟩
  | expression hitem =>
    obtain ⟨es, hes⟩ := hx
    simp only [Reading.exprs, Reading.ofNode, readExprs, readEachExpr_eq_mapM] at hes
    obtain ⟨e, he⟩ := mapM_ok_of_mem hes hitem
    exact ⟨e, he⟩
  | param hitem =>
    obtain ⟨_, _, _, hitems, hparams⟩ := hx
    cases hitems
    obtain ⟨p, hp⟩ := hparams _ hitem
    exact ⟨p, (param_resolve _).trans hp⟩
  | field category hform hfield hpart hnull =>
    have hvalue := mem_readValues order hfield
    have hhead := head?_readValues order hform
    cases category with
    | statement =>
      obtain ⟨s, hs⟩ := hx
      obtain ⟨f, hf, hs⟩ := bind_ok.mp hs
      have hfield := Form.value?_of_mem hf hvalue
      exact statement_reads hs (Form.ofFields_name hf hhead ▸ hpart) hfield hnull
    | expression =>
      obtain ⟨e, he⟩ := hx
      obtain ⟨f, hf, he⟩ := bind_ok.mp he
      have hfield := Form.value?_of_mem hf hvalue
      exact compound_reads he (Form.ofFields_name hf hhead ▸ hpart) hfield

/-- All that is asked for in a document that is read as a program can be read. -/
theorem Decoded.reads (h : Decoded document part n) (hp : program order name document = .ok p) :
    (Reading.ofNode order n).Reads order part := by
  have hall : ∀ y, Relation.ReflTransGen Asks (.program, document) y →
      (Reading.ofNode order y.2).Reads order y.1 := by
    intro y hy
    induction hy with
    | refl => exact ⟨name, p, (program_resolve document).trans hp⟩
    | tail _ step ih => exact step.reads ih
  exact hall (part, n) h

end

end Lanewise.Fixture
