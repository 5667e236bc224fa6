import Lanewise.Proofs.Fixture.Part
import Mathlib.Data.List.Forall2

/-!
# Documents that are read alike

Two readings are alike if every part of a program that one of them gives is given by the other, and
if they fail together. How much of a flaw has to be the same is left to `view`: with all of it shown
the two fail in the same way, with none of it they only both fail. In the second case the keys of
mappings may be gone through in different orders (`Comparable`).

Nodes are read alike if what stands below them is (`Reading.ofItems_alike`,
`Reading.ofFields_alike`), so that a change to documents can be followed from the leaves up.
-/

namespace Lanewise.Yaml.Node

def face : Node → Node
  | .sequence pos tag _ => .sequence pos tag []
  | .mapping pos tag _ => .mapping pos tag []
  | n => n

theorem pos_face (n : Node) : n.face.pos = n.pos := by cases n <;> rfl

theorem isNull_face (n : Node) : n.face.isNull = n.isNull := by cases n <;> rfl

theorem resolve_pos_face (n : Node) : n.face.resolve.pos = n.resolve.pos := by cases n <;> rfl

mutual
/-- The fields of each mapping in a tree, keys and what aliases stand for included. -/
def mappings : Node → List (List (Node × Node))
  | .scalar .. => []
  | .sequence _ _ items => mappingsIn items
  | .mapping _ _ fields => fields :: mappingsOf fields
  | .alias _ _ target => target.mappings
def mappingsIn : List Node → List (List (Node × Node))
  | [] => []
  | n :: rest => n.mappings ++ mappingsIn rest
def mappingsOf : List (Node × Node) → List (List (Node × Node))
  | [] => []
  | (key, value) :: rest => key.mappings ++ (value.mappings ++ mappingsOf rest)
end

theorem mem_mappingsIn : fields ∈ mappingsIn items ↔ ∃ n ∈ items, fields ∈ n.mappings := by
  induction items with
  | nil => simp [mappingsIn]
  | cons n rest ih => simp [mappingsIn, ih]

theorem mem_mappingsOf : found ∈ mappingsOf fields ↔
    ∃ field ∈ fields, found ∈ field.1.mappings ∨ found ∈ field.2.mappings := by
  induction fields with
  | nil => simp [mappingsOf]
  | cons field rest ih => simp [mappingsOf, ih, or_assoc]

def wordAt (line column : Nat) (text : String) : Node := .scalar ⟨line, column⟩ "!!str" .plain text

end Lanewise.Yaml.Node

namespace Lanewise.Fixture

open Yaml (Node)

variable {view : Flaw → γ} {order order' order'' : KeyOrder}

/-- Flaws can be compared: keys are gone through in one order, or nothing is seen of flaws. -/
def Comparable (view : Flaw → γ) (order order' : KeyOrder) : Prop :=
  order = order' ∨ ∀ flaw flaw', view flaw = view flaw'

-- ---------------------------------------------------------------------------
-- Outcomes side by side
-- ---------------------------------------------------------------------------

/-- Both succeed, with results in the relation, or both fail, with flaws that look the same. -/
inductive Matches (view : Flaw → γ) (R : α → α → Prop) : Read α → Read α → Prop
  | ok (h : R a b) : Matches view R (.ok a) (.ok b)
  | error (h : view flaw = view flaw') : Matches view R (.error flaw) (.error flaw')

namespace Matches

variable {R : α → α → Prop} {S : β → β → Prop} {m m' : Read α}

theorem of_eq (h : m = m') : Matches view Eq m m' := by
  subst h
  cases m with
  | ok a => exact .ok rfl
  | error flaw => exact .error rfl

theorem trans {m'' : Read α} (h : Matches view Eq m m') (h' : Matches view Eq m' m'') :
    Matches view Eq m m'' := by
  cases h with
  | ok h => cases h' with | ok h' => exact .ok (h.trans h')
  | error h => cases h' with | error h' => exact .error (h.trans h')

theorem bind {f f' : α → Read β} (h : Matches view R m m')
    (hf : ∀ a b, R a b → Matches view S (f a) (f' b)) : Matches view S (m >>= f) (m' >>= f') := by
  cases h with
  | ok h => exact hf _ _ h
  | error h => exact .error h

theorem andThen {f f' : α → Read β} (h : Matches view Eq m m')
    (hf : ∀ a, Matches view S (f a) (f' a)) : Matches view S (m >>= f) (m' >>= f') :=
  h.bind fun a _ hab => hab ▸ hf a

theorem mapM {f f' : α → Read β} {items items' : List α}
    (h : List.Forall₂ (fun a b => Matches view Eq (f a) (f' b)) items items') :
    Matches view Eq (items.mapM f) (items'.mapM f') := by
  induction h with
  | nil => exact .of_eq rfl
  | cons first _ ih =>
    simp only [List.mapM_cons]
    exact first.andThen fun b => ih.andThen fun rest => .of_eq rfl

theorem foldlM {step step' : β → α → Read β} {items items' : List α} {b : β}
    (h : List.Forall₂ (fun x y => ∀ b, Matches view Eq (step b x) (step' b y)) items items') :
    Matches view Eq (items.foldlM step b) (items'.foldlM step' b) := by
  induction h generalizing b with
  | nil => exact .of_eq rfl
  | cons first _ ih =>
    simp only [List.foldlM_cons]
    exact (first b).andThen fun _ => ih

theorem eq (h : Matches id Eq m m') : m = m' := by
  cases h with
  | ok h => rw [h]
  | error h => exact congrArg Except.error h

theorem ok_iff (h : Matches view Eq m m') : m = .ok a ↔ m' = .ok a := by
  cases h with
  | ok h => rw [h]
  | error => simp

theorem of_ok_iff (h : ∀ a, m = .ok a ↔ m' = .ok a) : Matches (fun _ => ()) Eq m m' := by
  cases m with
  | ok a => exact .of_eq ((h a).mp rfl).symm
  | error flaw =>
    cases m' with
    | ok a => exact nomatch (h a).mpr rfl
    | error flaw' => exact .error rfl

end Matches

-- ---------------------------------------------------------------------------
-- Readings side by side
-- ---------------------------------------------------------------------------

theorem scalarText_face (n : Node) : scalarText n.face = scalarText n := by cases n <;> rfl

theorem boolean_face (n : Node) : boolean n.face = boolean n := by cases n <;> rfl

theorem writtenType_face (n : Node) : writtenType n.face = writtenType n := by
  rw [writtenType, scalarText_face, Node.pos_face]
  rfl

def paramList : Node → Read (List Param)
  | .sequence _ _ items => items.mapM param
  | other => .error ⟨other.pos, .notParams⟩

/-- The readings agree on every part of a program, and show the same of the nodes. -/
structure Reading.Alike (view : Flaw → γ) (order order' : KeyOrder) (r r' : Reading) : Prop where
  face : r.node.face = r'.node.face
  program : ∀ name,
    Matches view Eq (Fixture.program order name r.node) (Fixture.program order' name r'.node)
  params : Matches view Eq (paramList r.node) (paramList r'.node)
  param : Matches view Eq (Fixture.param r.node) (Fixture.param r'.node)
  expr : Matches view Eq r.expr r'.expr
  stmt : Matches view Eq r.stmt r'.stmt
  exprs : Matches view Eq r.exprs r'.exprs
  stmts : Matches view Eq r.stmts r'.stmts

namespace Reading.Alike

variable {r r' r'' : Reading}

theorem scalar {pos : Pos} : (ofNode order (.scalar pos tag style text)).Alike view order order'
    (ofNode order' (.scalar pos tag style text)) where
  face := rfl
  program _ := .of_eq rfl
  params := .of_eq rfl
  param := .of_eq rfl
  expr := .of_eq rfl
  stmt := .of_eq rfl
  exprs := .of_eq rfl
  stmts := .of_eq rfl

theorem refl (r : Reading) : r.Alike view order order r where
  face := rfl
  program _ := .of_eq rfl
  params := .of_eq rfl
  param := .of_eq rfl
  expr := .of_eq rfl
  stmt := .of_eq rfl
  exprs := .of_eq rfl
  stmts := .of_eq rfl

theorem trans (h : r.Alike view order order' r') (h' : r'.Alike view order' order'' r'') :
    r.Alike view order order'' r'' where
  face := h.face.trans h'.face
  program name := (h.program name).trans (h'.program name)
  params := h.params.trans h'.params
  param := h.param.trans h'.param
  expr := h.expr.trans h'.expr
  stmt := h.stmt.trans h'.stmt
  exprs := h.exprs.trans h'.exprs
  stmts := h.stmts.trans h'.stmts

theorem of_face (h : r.Alike view order order' r') {f : Node → α} (hf : ∀ n, f n.face = f n) :
    f r.node = f r'.node := by
  rw [← hf r.node, h.face, hf]

theorem pos (h : r.Alike view order order' r') : r.pos = r'.pos := h.of_face Node.pos_face

theorem isNull (h : r.Alike view order order' r') : r.isNull = r'.isNull :=
  h.of_face Node.isNull_face

theorem scalarText (h : r.Alike view order order' r') :
    Matches view Eq (Fixture.scalarText r.node) (Fixture.scalarText r'.node) :=
  .of_eq (h.of_face scalarText_face)

theorem boolean (h : r.Alike view order order' r') :
    Matches view Eq (Fixture.boolean r.node) (Fixture.boolean r'.node) :=
  .of_eq (h.of_face boolean_face)

theorem block (h : r.Alike view order order' r') : Matches view Eq r.block r'.block := by
  have hpos := h.of_face (f := fun n => n.resolve.pos) Node.resolve_pos_face
  unfold Reading.block
  simp only [hpos]
  exact h.stmts.andThen fun _ => .of_eq rfl

end Reading.Alike

-- ---------------------------------------------------------------------------
-- Forms
-- ---------------------------------------------------------------------------

structure Form.Alike (view : Flaw → γ) (order order' : KeyOrder) (f f' : Form Reading) : Prop where
  pos : f.pos = f'.pos
  name : f.name = f'.name
  head : f.head.Alike view order order' f'.head
  field : ∀ key, Option.Rel (Reading.Alike view order order') (f.field? key) (f'.field? key)

theorem Matches.optional {o o' : Option Reading} {g g' : Reading → Read α} {d d' : Read α}
    {R : α → α → Prop} : Option.Rel (Reading.Alike view order order') o o' →
    (∀ r r', r.Alike view order order' r' → Matches view R (g r) (g' r')) → Matches view R d d' →
    Matches view R (match o with | some r => g r | none => d)
      (match o' with | some r => g' r | none => d')
  | .some h, hsome, _ => hsome _ _ h
  | .none, _, hnone => hnone

namespace Form.Alike

variable {f f' : Form Reading} {key : String}

theorem given (hf : f.Alike view order order' f') (key : String) :
    Option.Rel (Reading.Alike view order order') (f.given? key) (f'.given? key) := by
  unfold given?
  have h := hf.field key
  generalize f.field? key = o, f'.field? key = o' at h ⊢
  cases h with
  | none => exact .none
  | some h =>
    simp only [Option.filter_some, h.isNull]
    split
    · exact .some h
    · exact .none

theorem require (hf : f.Alike view order order' f') :
    Matches view (Reading.Alike view order order') (f.require key) (f'.require key) := by
  refine .optional (hf.given key) (fun _ _ hr => .ok hr) (.error ?_)
  rw [hf.pos, hf.name]

theorem operand (hf : f.Alike view order order' f') :
    Matches view Eq (f.operand key) (f'.operand key) :=
  hf.require.bind fun _ _ hr => hr.expr

theorem optionalExpr (hf : f.Alike view order order' f') :
    Matches view Eq (f.optionalExpr key) (f'.optionalExpr key) :=
  .optional (hf.given key) (fun _ _ hr => hr.expr) (.ok rfl)

theorem optionalType (hf : f.Alike view order order' f') :
    Matches view Eq (f.optionalType key) (f'.optionalType key) :=
  .optional (hf.given key)
    (fun _ _ hr => .of_eq (congrArg (some <$> ·) (hr.of_face writtenType_face))) (.ok rfl)

theorem optionalKind (hf : f.Alike view order order' f') :
    Matches view Eq f.optionalKind f'.optionalKind :=
  .optional (hf.given "kind") (fun _ _ hr => hr.scalarText) (.ok rfl)

theorem operator (hf : f.Alike view order order' f') :
    Matches view Eq (f.operator operators ofText?) (f'.operator operators ofText?) := by
  refine hf.head.scalarText.andThen fun spelling => ?_
  rw [hf.head.pos]
  exact .of_eq rfl

theorem exprs (hf : f.Alike view order order' f') : Matches view Eq (f.exprs key) (f'.exprs key) :=
  .optional (hf.field key) (fun _ _ hr => hr.exprs) (.ok rfl)

theorem blockOr (hf : f.Alike view order order' f') :
    Matches view Eq (f.blockOr key other) (f'.blockOr key other) := by
  refine .optional (hf.field key) (fun r r' hr => ?_) (.ok rfl)
  exact hr.block.andThen fun _ => .of_eq rfl

theorem params (hf : f.Alike view order order' f') :
    Matches view Eq (params f) (Fixture.params f') := by
  unfold Fixture.params
  have h := hf.given "params"
  generalize f.given? "params" = o, f'.given? "params" = o' at h ⊢
  cases h with
  | none => exact .ok rfl
  | some h => exact h.params

theorem body (hf : f.Alike view order order' f') : Matches view Eq (body f) (Fixture.body f') :=
  .optional (hf.field "body") (fun _ _ hr => hr.block) (.ok (by rw [hf.pos]))

theorem loopStart (hf : f.Alike view order order' f') :
    Matches view Eq (loopStart f) (Fixture.loopStart f') :=
  .optional (hf.given "init") (fun _ _ hr => hr.stmt) (.ok rfl)

theorem mutability (hf : f.Alike view order order' f') :
    Matches view Eq (mutability f) (Fixture.mutability f') :=
  .optional (hf.field "mut") (fun _ _ hr => hr.boolean) (.ok rfl)

theorem compound (hf : f.Alike view order order' f') :
    Matches view Eq (compound f) (Fixture.compound f') := by
  have hhead := hf.head
  obtain ⟨pos, name, head, fields⟩ := f
  obtain ⟨pos', name', head', fields'⟩ := f'
  obtain rfl : pos = pos' := hf.pos
  obtain rfl : name = name' := hf.name
  unfold Fixture.compound
  dsimp only
  split
  · exact hf.operator.andThen fun _ => hf.operand.andThen fun _ => hf.operand.andThen fun _ =>
      .of_eq rfl
  · exact hf.operator.andThen fun _ => hf.operand.andThen fun _ => .of_eq rfl
  · exact hhead.expr.andThen fun _ => hf.exprs.andThen fun _ => .of_eq rfl
  · exact hhead.expr.andThen fun _ => .of_eq rfl
  · exact hhead.expr.andThen fun _ => hf.operand.andThen fun _ => .of_eq rfl
  · exact hhead.scalarText.andThen fun _ => hf.operand.andThen fun _ => .of_eq rfl
  · exact hhead.exprs.andThen fun _ => hf.optionalKind.andThen fun _ => .of_eq rfl
  · exact hf.operator.andThen fun _ => hf.operand.andThen fun _ => hf.operand.andThen fun _ =>
      .of_eq rfl
  · exact hf.operator.andThen fun _ => hf.operand.andThen fun _ => hf.operand.andThen fun _ =>
      .of_eq rfl
  · exact hf.operator.andThen fun _ => hf.operand.andThen fun _ => .of_eq rfl
  · refine hhead.exprs.andThen fun _ => ?_
    rw [hhead.pos]
    exact .of_eq rfl
  · exact hhead.scalarText.andThen fun _ => hf.operand.andThen fun _ => .of_eq rfl
  · exact hhead.expr.andThen fun _ => hf.optionalKind.andThen fun _ => .of_eq rfl
  · exact hhead.expr.andThen fun _ => hf.operand.andThen fun _ => .of_eq rfl

theorem statement (hf : f.Alike view order order' f') :
    Matches view Eq (statement f) (Fixture.statement f') := by
  have hhead := hf.head
  obtain ⟨pos, name, head, fields⟩ := f
  obtain ⟨pos', name', head', fields'⟩ := f'
  obtain rfl : pos = pos' := hf.pos
  obtain rfl : name = name' := hf.name
  unfold Fixture.statement
  dsimp only
  split
  · exact hhead.scalarText.andThen fun _ => hf.params.andThen fun _ =>
      hf.optionalType.andThen fun _ => hf.body.andThen fun _ => .of_eq rfl
  · exact hhead.scalarText.andThen fun _ => hf.optionalType.andThen fun _ =>
      hf.mutability.andThen fun _ => hf.optionalExpr.andThen fun _ => .of_eq rfl
  · rw [show head.isNull = head'.isNull from hhead.isNull]
    split
    · exact .of_eq rfl
    · exact hhead.expr.andThen fun _ => .of_eq rfl
  · exact hhead.block.andThen fun _ => .of_eq rfl
  · exact hhead.expr.andThen fun _ => hf.require.bind fun _ _ hyes => hyes.block.andThen fun _ =>
      hf.blockOr.andThen fun _ => .of_eq rfl
  · exact hhead.expr.andThen fun _ => hf.blockOr.andThen fun _ => .of_eq rfl
  · rw [show head.isNull = head'.isNull from hhead.isNull, hhead.pos]
    split
    · exact .error rfl
    · exact hf.loopStart.andThen fun _ => hf.optionalExpr.andThen fun _ =>
        hf.optionalExpr.andThen fun _ => hf.blockOr.andThen fun _ => .of_eq rfl
  · exact hhead.expr.andThen fun _ => .of_eq rfl

end Form.Alike

-- ---------------------------------------------------------------------------
-- Fields
-- ---------------------------------------------------------------------------

structure FieldAlike (view : Flaw → γ) (order order' : KeyOrder) (field field' : Node × Reading) :
    Prop where
  text : field.1.keyText = field'.1.keyText
  pos : field.1.pos = field'.1.pos
  value : field.2.Alike view order order' field'.2

namespace Form

variable {fields fields' : List (Node × Reading)}

theorem repeatedKey?_alike (h : List.Forall₂ (FieldAlike view order order') fields fields')
    (seen : List String) :
    Option.Rel (fun key key' => key.keyText = key'.keyText ∧ key.pos = key'.pos)
      (repeatedKey? seen fields) (repeatedKey? seen fields') := by
  induction h generalizing seen with
  | nil => exact .none
  | cons hfield _ ih =>
    simp only [repeatedKey?, hfield.text]
    split
    · exact .some ⟨hfield.text, hfield.pos⟩
    · exact ih _

theorem find?_alike (h : List.Forall₂ (FieldAlike view order order') fields fields')
    (p : String → Bool) :
    Option.Rel (FieldAlike view order order') (fields.find? (p ·.1.keyText))
      (fields'.find? (p ·.1.keyText)) := by
  induction h with
  | nil => exact .none
  | cons hfield _ ih =>
    simp only [List.find?_cons, hfield.text]
    split
    · exact .some hfield
    · exact ih

theorem others_alike (h : List.Forall₂ (FieldAlike view order order') fields fields')
    (name : String) :
    List.Forall₂ (FieldAlike view order order') (others name fields) (others name fields') := by
  induction h with
  | nil => exact .nil
  | cons hfield _ ih =>
    simp only [others, List.filter_cons, hfield.text]
    split
    · exact .cons hfield ih
    · exact ih

theorem lookup_alike (h : List.Forall₂ (FieldAlike view order order') fields fields')
    (key : String) :
    Option.Rel (Reading.Alike view order order')
      ((fields.map fun field => (field.1.keyText, field.2)).lookup key)
      ((fields'.map fun field => (field.1.keyText, field.2)).lookup key) := by
  induction h with
  | nil => exact .none
  | cons hfield _ ih =>
    simp only [List.map_cons, List.lookup_cons, hfield.text]
    split
    · exact .some hfield.value
    · exact ih

theorem keys_alike (h : List.Forall₂ (FieldAlike view order order') fields fields') :
    keys fields = keys fields' := by
  induction h with
  | nil => rfl
  | cons hfield _ ih =>
    simp only [keys, List.map_cons, hfield.text]
    exact congrArg _ ih

/-- The strange keys that are reported look the same as flaws. In one order it is the same key, and
in any two orders there is a strange key or none. -/
theorem strangeKey?_alike (hview : Comparable view order order')
    (h : List.Forall₂ (FieldAlike view order order') fields fields') (allowed : List String)
    (flaw : Pos → String → Flaw) :
    Option.Rel (fun key key' => view (flaw key.pos key.keyText) = view (flaw key'.pos key'.keyText))
      (strangeKey? order allowed fields) (strangeKey? order' allowed fields') := by
  have hkeys := keys_alike h
  rcases hview with rfl | hview
  · unfold strangeKey?
    rw [hkeys]
    split
    case h_1 name hname =>
      have hfound := find?_alike h (· == name)
      generalize fields.find? _ = found, fields'.find? _ = found' at hfound ⊢
      cases hfound with
      | none => exact .none
      | some hfield => exact .some (by rw [hfield.text, hfield.pos])
    case h_2 => exact .none
  · have hnone : strangeKey? order allowed fields = none ↔
        strangeKey? order' allowed fields' = none := by
      simp only [strangeKey?_eq_none, hkeys]
    generalize strangeKey? order allowed fields = strange, strangeKey? order' _ _ = strange'
      at hnone ⊢
    cases strange with
    | none =>
      rw [hnone.mp rfl]
      exact .none
    | some key =>
      cases strange' with
      | none => cases hnone.mpr rfl
      | some key' => exact .some (hview _ _)

theorem ofFields_alike (hview : Comparable view order order')
    (h : List.Forall₂ (FieldAlike view order order') fields fields') {place : Pos} :
    Matches view (Form.Alike view order order') (ofFields order category place fields)
      (ofFields order' category place fields') := by
  have hrepeated := repeatedKey?_alike h []
  have hhead := find?_alike h fun name => (category.grammar.fields? name).isSome
  unfold ofFields head?
  generalize repeatedKey? [] fields = repeated, repeatedKey? [] fields' = repeated' at hrepeated ⊢
  cases hrepeated with
  | some hkey => exact .error (by rw [hkey.1, hkey.2])
  | none =>
    dsimp only
    generalize fields.find? _ = first, fields'.find? _ = first' at hhead ⊢
    cases hhead with
    | none => exact .error rfl
    | @some field field' hfield =>
      obtain ⟨key, head⟩ := field
      obtain ⟨key', head'⟩ := field'
      have hname : key.keyText = key'.keyText := hfield.text
      dsimp only
      rw [hname]
      have hrest := others_alike h key'.keyText
      have hstrange := strangeKey?_alike hview hrest
        ((category.grammar.fields? key'.keyText).getD [])
        fun pos text => ⟨pos, .unknownField text category key'.keyText⟩
      generalize strangeKey? order _ _ = strange, strangeKey? order' _ _ = strange' at hstrange ⊢
      cases hstrange with
      | some hkey => exact .error hkey
      | none => exact .ok ⟨rfl, rfl, hfield.value, lookup_alike hrest⟩

end Form

-- ---------------------------------------------------------------------------
-- Nodes
-- ---------------------------------------------------------------------------

section
variable {key key' value value' : Node}

/-- The node of a reading is the one that an alias stands for, and fields are read from there. -/
theorem of_face_resolve
    (h : (Reading.ofNode order value).Alike view order order' (.ofNode order' value'))
    {f : Node → α} (hf : ∀ n, f n.face = f n) : f value.resolve = f value'.resolve :=
  h.of_face hf

theorem takeField_alike (h : FieldAlike view order order' (key, .ofNode order value)
      (key', .ofNode order' value')) (p : Program) :
    Matches view Eq (takeField order p (key, value)) (takeField order' p (key', value')) := by
  have htext : key.keyText = key'.keyText := h.text
  have hpos : key.pos = key'.pos := h.pos
  have hstmts : Matches view Eq (readStmts order value) (readStmts order' value') := h.value.stmts
  unfold takeField
  simp only [htext, hpos, of_face_resolve h.value scalarText_face, readStmts_resolve]
  split
  · exact .of_eq rfl
  · exact hstmts.andThen fun _ => .of_eq rfl
  · exact .of_eq rfl

theorem ParamDraft.take_alike (h : FieldAlike view order order' (key, .ofNode order value)
      (key', .ofNode order' value')) (draft : ParamDraft) :
    draft.take (key, value) = draft.take (key', value') := by
  have htext : key.keyText = key'.keyText := h.text
  have hpos : key.pos = key'.pos := h.pos
  simp only [take, htext, hpos, of_face_resolve h.value scalarText_face,
    of_face_resolve h.value boolean_face, of_face_resolve h.value writtenType_face]

end

namespace Reading

theorem ofItems_alike {items items' : List Node}
    (h : List.Forall₂ (fun n n' => (ofNode order n).Alike view order order' (ofNode order' n'))
      items items') (pos : Pos) (tag : String) :
    (ofNode order (.sequence pos tag items)).Alike view order order'
      (ofNode order' (.sequence pos tag items')) := by
  have hstmts : Matches view Eq (readEachStmt order items) (readEachStmt order' items') := by
    simp only [readEachStmt_eq_mapM]
    exact .mapM (h.imp fun _ _ hn => hn.stmt)
  exact {
    face := rfl
    program _ := hstmts.andThen fun _ => .of_eq rfl
    params := .mapM (h.imp fun n n' hn => by
      simpa only [ofNode, param_resolve] using hn.param)
    param := .error rfl
    expr := .error rfl
    stmt := .error rfl
    exprs := by
      simp only [exprs, ofNode, readExprs, readEachExpr_eq_mapM]
      exact .mapM (h.imp fun _ _ hn => hn.expr)
    stmts := hstmts }

theorem ofFields_alike (hview : Comparable view order order') {fields fields' : List (Node × Node)}
    (h : List.Forall₂ (fun field field' => FieldAlike view order order'
      (field.1, ofNode order field.2) (field'.1, ofNode order' field'.2)) fields fields')
    (pos : Pos) (tag : String) :
    (ofNode order (.mapping pos tag fields)).Alike view order order'
      (ofNode order' (.mapping pos tag fields')) := by
  have hvalues : List.Forall₂ (FieldAlike view order order') (readValues order fields)
      (readValues order' fields') := by
    simpa [readValues_eq_map] using h
  have hdraft : Matches view Eq (fields.foldlM ParamDraft.take {})
      (fields'.foldlM ParamDraft.take {}) :=
    .foldlM (h.imp fun _ _ hfield draft => .of_eq (ParamDraft.take_alike hfield draft))
  exact {
    face := rfl
    program _ := by
      simp only [ofNode, Node.resolve, Fixture.program]
      exact .foldlM (h.imp fun _ _ hfield => takeField_alike hfield)
    params := .error rfl
    param := hdraft.andThen fun _ => .of_eq rfl
    expr := (Form.ofFields_alike hview hvalues).bind fun _ _ hf => hf.compound
    stmt := (Form.ofFields_alike hview hvalues).bind fun _ _ hf => hf.statement
    exprs := .error rfl
    stmts := .error rfl }

end Reading

end Lanewise.Fixture
