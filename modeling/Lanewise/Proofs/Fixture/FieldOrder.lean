import Lanewise.Proofs.Fixture.Alike
import Lanewise.Proofs.Fixture.RepeatedKey

/-!
# The order of fields

`program_reordered`: the fields of the mappings in a document may stand in any order. A statement or
an expression is split by its one key that names a form, and since no form allows a field with the
name of a form, that key does not depend on the order. Programs and parameters are read field by
field, and what fields of different keys put in does not overlap. Nor does it matter in which order
the keys are gone through.
-/

namespace Lanewise.Yaml

mutual
/-- The second node is the first one with the fields of mappings in another order. Every node keeps
its place. -/
inductive Reordered : Node → Node → Prop
  | scalar : Reordered (.scalar pos tag style text) (.scalar pos tag style text)
  | sequence (hitems : ReorderedItems items items') :
    Reordered (.sequence pos tag items) (.sequence pos tag items')
  | mapping (hfields : ReorderedFields fields moved) (horder : moved.Perm fields') :
    Reordered (.mapping pos tag fields) (.mapping pos tag fields')
  | target (htarget : Reordered target target') :
    Reordered (.alias pos name target) (.alias pos name target')
inductive ReorderedItems : List Node → List Node → Prop
  | nil : ReorderedItems [] []
  | cons (hn : Reordered n n') (hrest : ReorderedItems rest rest') :
    ReorderedItems (n :: rest) (n' :: rest')
inductive ReorderedFields : List (Node × Node) → List (Node × Node) → Prop
  | nil : ReorderedFields [] []
  | cons (hkey : Reordered key key') (hvalue : Reordered value value')
    (hrest : ReorderedFields rest rest') :
    ReorderedFields ((key, value) :: rest) ((key', value') :: rest')
end

theorem Reordered.keyText (h : Reordered n n') : n.keyText = n'.keyText := by cases h <;> rfl

theorem Reordered.pos (h : Reordered n n') : n.pos = n'.pos := by cases h <;> rfl

end Lanewise.Yaml

namespace Lanewise.Fixture

open Yaml (Node Reordered ReorderedItems ReorderedFields)

-- ---------------------------------------------------------------------------
-- Forms
-- ---------------------------------------------------------------------------

namespace Form

variable {α : Type} {order : KeyOrder} {f : Form α} {fields fields' : List (Node × α)} {head : α}
  {name : String} {place : Pos} {category : Category}

theorem fields?_of_allowed (hform : category.grammar.fields? form = some allowed)
    (hname : name ∈ allowed) : category.grammar.fields? name = none := by
  have apart : ∀ entry ∈ category.grammar, ∀ name ∈ entry.2,
      category.grammar.fields? name = none := by
    cases category <;> decide
  obtain ⟨before, after, hentries, -⟩ := List.lookup_eq_some_iff.mp hform
  exact apart (form, allowed) (by simp [hentries]) name hname

/-- The key names a form, and all other fields are allowed by it. Nothing here depends on the order
of the fields. -/
structure Splits (category : Category) (fields : List (Node × α)) (key : Node) (head : α) :
    Prop where
  nodup : (keys fields).Nodup
  mem : (key, head) ∈ fields
  allowed : ∃ allowed, category.grammar.fields? key.keyText = some allowed ∧
    ∀ field ∈ fields, field.1.keyText ≠ key.keyText → field.1.keyText ∈ allowed

theorem Splits.perm (h : Splits category fields key head) (hperm : fields.Perm fields') :
    Splits category fields' key head := by
  obtain ⟨allowed, hform, hothers⟩ := h.allowed
  refine ⟨(hperm.map _).nodup h.nodup, hperm.mem_iff.mp h.mem, allowed, hform, ?_⟩
  intro field hfield
  exact hothers field (hperm.mem_iff.mpr hfield)

theorem Splits.head? (h : Splits category fields key head) :
    Form.head? category.grammar fields = some (key, head) := by
  obtain ⟨allowed, hform, hothers⟩ := h.allowed
  cases hfound : Form.head? category.grammar fields with
  | none =>
    have hnone := List.find?_eq_none.mp hfound _ h.mem
    simp [hform] at hnone
  | some field =>
    have hmem := List.mem_of_find?_eq_some hfound
    have hnames := List.find?_some hfound
    have hkey : field.1.keyText = key.keyText := by
      by_contra hother
      simp [fields?_of_allowed hform (hothers field hmem hother)] at hnames
    rw [List.inj_on_of_nodup_map h.nodup hmem h.mem hkey]

theorem ofFields_ok_iff :
    ofFields order category place fields = .ok f ↔ ∃ key head, Splits category fields key head ∧
      f = ⟨place, key.keyText, head,
        (others key.keyText fields).map fun field => (field.1.keyText, field.2)⟩ := by
  constructor
  · intro h
    unfold ofFields at h
    split at h
    · cases h
    rename_i hrepeated
    split at h
    · cases h
    rename_i key head hhead
    dsimp only at h
    split at h
    · cases h
    rename_i hstrange
    have hnames := List.find?_some hhead
    obtain ⟨allowed, hform⟩ := Option.isSome_iff_exists.mp hnames
    refine ⟨key, head, ⟨(repeatedKey?_eq_none.mp hrepeated).1, List.mem_of_find?_eq_some hhead,
      allowed, hform, fun field hfield hother => ?_⟩, (Except.ok.inj h).symm⟩
    have hrest : field ∈ others key.keyText fields :=
      List.mem_filter.mpr ⟨hfield, bne_iff_ne.mpr hother⟩
    simpa [hform] using strangeKey?_eq_none.mp hstrange _ (List.mem_map_of_mem hrest)
  · rintro ⟨key, head, h, rfl⟩
    obtain ⟨allowed, hform, hothers⟩ := h.allowed
    have hrepeated : repeatedKey? [] fields = none :=
      repeatedKey?_eq_none.mpr ⟨h.nodup, by simp⟩
    have hstrange : strangeKey? order allowed (others key.keyText fields) = none := by
      rw [strangeKey?_eq_none, keys, List.forall_mem_map]
      intro field hfield
      obtain ⟨hmem, hother⟩ := List.mem_filter.mp hfield
      exact hothers field hmem (bne_iff_ne.mp hother)
    simp only [ofFields, hrepeated, h.head?, hform, Option.getD_some, hstrange]

theorem lookup_perm {entries entries' : List (String × α)} (hperm : entries.Perm entries')
    (hnodup : (entries.map (·.1)).Nodup) (key : String) :
    entries.lookup key = entries'.lookup key := by
  induction hperm with
  | nil => rfl
  | cons entry _ ih =>
    obtain ⟨name, value⟩ := entry
    simp only [List.map_cons, List.nodup_cons] at hnodup
    simp only [List.lookup_cons, ih hnodup.2]
  | swap first second rest =>
    obtain ⟨name, value⟩ := first
    obtain ⟨name', value'⟩ := second
    have hne : name' ≠ name := by
      simp only [List.map_cons, List.nodup_cons, List.mem_cons, not_or] at hnodup
      exact hnodup.1.1
    simp only [List.lookup_cons]
    by_cases hfirst : key = name
    · have hsecond : (key == name') = false := beq_false_of_ne (hfirst ▸ hne.symm)
      simp only [hsecond]
    · have hfirst : (key == name) = false := beq_false_of_ne hfirst
      simp only [hfirst]
  | trans hfirst _ ih ih' => exact (ih hnodup).trans (ih' ((hfirst.map _).nodup hnodup))

variable {view : Flaw → γ}

theorem ofFields_perm_ok {fields fields' : List (Node × Reading)} {f : Form Reading}
    (hperm : fields.Perm fields') (h : ofFields order category place fields = .ok f) :
    ∃ f', ofFields order category place fields' = .ok f' ∧ f.Alike view order order f' := by
  obtain ⟨key, head, hsplits, rfl⟩ := ofFields_ok_iff.mp h
  refine ⟨_, ofFields_ok_iff.mpr ⟨key, head, hsplits.perm hperm, rfl⟩, rfl, rfl, .refl head, ?_⟩
  intro name
  have hothers : (others key.keyText fields).Perm (others key.keyText fields') := hperm.filter _
  have hnodup : (keys (others key.keyText fields)).Nodup :=
    hsplits.nodup.sublist (List.filter_sublist.map _)
  have hsame := lookup_perm (hothers.map fun field => (field.1.keyText, field.2))
    (by simpa [keys, Function.comp_def] using hnodup) name
  simp only [field?, hsame]
  cases List.lookup name _ with
  | none => exact .none
  | some r => exact .some (.refl r)

theorem ofFields_perm {fields fields' : List (Node × Reading)} (hperm : fields.Perm fields') :
    Matches (fun _ => ()) (Form.Alike (fun _ => ()) order order)
      (ofFields order category place fields) (ofFields order category place fields') := by
  cases h : ofFields order category place fields with
  | ok f =>
    obtain ⟨f', hf', hsame⟩ := ofFields_perm_ok hperm h
    rw [hf']
    exact .ok hsame
  | error flaw =>
    cases h' : ofFields order category place fields' with
    | ok f' =>
      obtain ⟨f, hf, -⟩ :
          ∃ f, ofFields order category place fields = .ok f ∧ f'.Alike id order order f :=
        ofFields_perm_ok hperm.symm h'
      exact nomatch h.symm.trans hf
    | error flaw' => exact .error rfl

end Form

-- ---------------------------------------------------------------------------
-- Programs and parameters
-- ---------------------------------------------------------------------------

theorem FillsPlaces.foldlM_perm {take : α → Node × Node → Read α}
    {puts : Node × Node → (α → α) → Prop} (h : FillsPlaces take puts)
    (hperm : fields.Perm fields') (hnodup : (Form.keys fields).Nodup) :
    fields.foldlM take a = .ok b ↔ fields'.foldlM take a = .ok b := by
  induction hperm generalizing a with
  | nil => rfl
  | cons field _ ih =>
    simp only [List.foldlM_cons, bind_ok]
    exact exists_congr fun _ => and_congr_right fun _ => ih (List.nodup_cons.mp hnodup).2
  | swap field later rest =>
    have hne : later.1.keyText ≠ field.1.keyText := by
      simp only [Form.keys, List.map_cons, List.nodup_cons, List.mem_cons, not_or] at hnodup
      exact hnodup.1.1
    simp only [List.foldlM_cons, bind_ok, h.take_ok, exists_exists_and_eq_and]
    constructor
    · rintro ⟨put, hput, put', hput', hrest⟩
      exact ⟨put', hput', put, hput, h.other hput hput' hne.symm ▸ hrest⟩
    · rintro ⟨put, hput, put', hput', hrest⟩
      exact ⟨put', hput', put, hput, h.other hput hput' hne ▸ hrest⟩
  | trans hfirst _ ih ih' => exact (ih hnodup).trans (ih' ((hfirst.map _).nodup hnodup))

namespace Reading

variable {order order' : KeyOrder}

theorem ofFields_perm {fields fields' : List (Node × Node)} (hperm : fields.Perm fields')
    (hnodup : (Form.keys fields).Nodup) (pos : Pos) (tag : String) :
    (ofNode order (.mapping pos tag fields)).Alike (fun _ => ()) order order
      (ofNode order (.mapping pos tag fields')) := by
  have hvalues : (readValues order fields).Perm (readValues order fields') := by
    simpa only [readValues_eq_map] using hperm.map _
  have hdraft : Matches (fun _ => ()) Eq (fields.foldlM ParamDraft.take {})
      (fields'.foldlM ParamDraft.take {}) :=
    .of_ok_iff fun _ => ParamDraft.fillsPlaces_take.foldlM_perm hperm hnodup
  exact {
    face := rfl
    program _ := .of_ok_iff fun _ => (fillsPlaces_takeField order).foldlM_perm hperm hnodup
    params := .error rfl
    param := hdraft.andThen fun _ => .of_eq rfl
    expr := (Form.ofFields_perm hvalues).bind fun _ _ hf => hf.compound
    stmt := (Form.ofFields_perm hvalues).bind fun _ _ hf => hf.statement
    exprs := .error rfl
    stmts := .error rfl }

-- ---------------------------------------------------------------------------
-- Documents
-- ---------------------------------------------------------------------------

theorem keys_reordered (fields : List (Node × Node)) {moved : List (Node × Node)}
    (h : ReorderedFields fields moved) : Form.keys fields = Form.keys moved := by
  induction fields generalizing moved with
  | nil =>
    cases h
    rfl
  | cons _ rest ih =>
    cases h with
    | cons hkey _ hrest =>
      simp only [Form.keys, List.map_cons, hkey.keyText]
      exact congrArg _ (ih hrest)

mutual
theorem ofNode_reordered : (n : Node) → {n' : Node} → Reordered n n' →
    (∀ fields ∈ n.mappings, (Form.keys fields).Nodup) →
    (ofNode order n).Alike (fun _ => ()) order order' (ofNode order' n')
  | .scalar .., _, .scalar, _ => .scalar
  | .sequence pos tag items, _, .sequence hitems, hdistinct => by
    simp only [Node.mappings] at hdistinct
    exact ofItems_alike (ofNodes_reordered items hitems hdistinct) pos tag
  | .mapping pos tag fields, _, .mapping hfields horder, hdistinct => by
    simp only [Node.mappings, List.forall_mem_cons] at hdistinct
    have hpointwise := ofValues_reordered fields hfields hdistinct.2
    have hnodup := keys_reordered fields hfields ▸ hdistinct.1
    exact (ofFields_alike (.inr fun _ _ => rfl) hpointwise pos tag).trans
      (ofFields_perm horder hnodup pos tag)
  | .alias _ _ target, _, .target htarget, hdistinct => by
    simp only [Node.mappings] at hdistinct
    simp only [ofNode_alias]
    exact ofNode_reordered target htarget hdistinct
theorem ofNodes_reordered : (items : List Node) → {items' : List Node} →
    ReorderedItems items items' →
    (∀ fields ∈ Node.mappingsIn items, (Form.keys fields).Nodup) →
    List.Forall₂ (fun n n' =>
      (ofNode order n).Alike (fun _ => ()) order order' (ofNode order' n')) items items'
  | [], _, .nil, _ => .nil
  | n :: rest, _, .cons hn hrest, hdistinct => by
    simp only [Node.mappingsIn, List.forall_mem_append] at hdistinct
    exact .cons (ofNode_reordered n hn hdistinct.1) (ofNodes_reordered rest hrest hdistinct.2)
theorem ofValues_reordered : (fields : List (Node × Node)) → {fields' : List (Node × Node)} →
    ReorderedFields fields fields' →
    (∀ inner ∈ Node.mappingsOf fields, (Form.keys inner).Nodup) →
    List.Forall₂ (fun field field' => FieldAlike (fun _ => ()) order order'
      (field.1, ofNode order field.2) (field'.1, ofNode order' field'.2)) fields fields'
  | [], _, .nil, _ => .nil
  | (_, value) :: rest, _, .cons hkey hvalue hrest, hdistinct => by
    simp only [Node.mappingsOf, List.forall_mem_append] at hdistinct
    have hfirst := ofNode_reordered value hvalue hdistinct.2.1
    exact .cons ⟨hkey.keyText, hkey.pos, hfirst⟩ (ofValues_reordered rest hrest hdistinct.2.2)
end

end Reading

/-- The fields of the mappings in a document can be put in any order: if no mapping has a key twice,
the same program is read, or none from either document. -/
theorem program_reordered (order order' : KeyOrder) (name : String) (document document' : Node)
    (hdistinct : ∀ fields ∈ document.mappings, (Form.keys fields).Nodup)
    (h : Reordered document document') (p : Program) :
    program order name document = .ok p ↔ program order' name document' = .ok p := by
  have halike : (Reading.ofNode order document).Alike _ order order' (.ofNode order' document') :=
    Reading.ofNode_reordered document h hdistinct
  have hprogram := halike.program name
  simp only [Reading.ofNode, program_resolve] at hprogram
  exact hprogram.ok_iff

/-- A program with one function, with `order` applied to the fields of its mappings. -/
def kernel (order : List (Node × Node) → List (Node × Node)) : Node :=
  .mapping ⟨1, 1⟩ "!!map" (order [
    (.wordAt 1 1 "name", .wordAt 1 7 "total"),
    (.wordAt 2 1 "statements", .sequence ⟨3, 1⟩ "!!seq" [function])])
where
  param : Node := .mapping ⟨4, 12⟩ "!!map" (order [
    (.wordAt 4 13 "name", .wordAt 4 19 "v"),
    (.wordAt 4 22 "type", .wordAt 4 28 "f32x4"),
    (.wordAt 4 35 "mut", .wordAt 4 40 "yes")])
  result : Node := .mapping ⟨6, 19⟩ "!!map" (order [
    (.wordAt 6 20 "reduce", .wordAt 6 28 "sum"),
    (.wordAt 6 33 "operand", .wordAt 6 42 "v")])
  function : Node := .mapping ⟨3, 3⟩ "!!map" (order [
    (.wordAt 3 3 "fn", .wordAt 3 7 "total"),
    (.wordAt 4 3 "params", .sequence ⟨4, 11⟩ "!!seq" [param]),
    (.wordAt 5 3 "returns", .wordAt 5 12 "f32"),
    (.wordAt 6 3 "body", .sequence ⟨6, 9⟩ "!!seq" [
      .mapping ⟨6, 10⟩ "!!map" [(.wordAt 6 11 "return", result)]])])

theorem reordered_kernel : Reordered (kernel id) (kernel List.reverse) := by
  have hparam : Reordered (kernel.param id) (kernel.param List.reverse) :=
    .mapping (.cons .scalar .scalar (.cons .scalar .scalar (.cons .scalar .scalar .nil)))
      (List.reverse_perm _).symm
  have hresult : Reordered (kernel.result id) (kernel.result List.reverse) :=
    .mapping (.cons .scalar .scalar (.cons .scalar .scalar .nil)) (List.reverse_perm _).symm
  have hparams : Reordered (.sequence ⟨4, 11⟩ "!!seq" [kernel.param id])
      (.sequence ⟨4, 11⟩ "!!seq" [kernel.param List.reverse]) := .sequence (.cons hparam .nil)
  have hbody : Reordered
      (.sequence ⟨6, 9⟩ "!!seq" [
        .mapping ⟨6, 10⟩ "!!map" [(.wordAt 6 11 "return", kernel.result id)]])
      (.sequence ⟨6, 9⟩ "!!seq" [
        .mapping ⟨6, 10⟩ "!!map" [(.wordAt 6 11 "return", kernel.result List.reverse)]]) :=
    .sequence (.cons (.mapping (.cons .scalar hresult .nil) (.refl _)) .nil)
  have hfunction : Reordered (kernel.function id) (kernel.function List.reverse) :=
    .mapping (.cons .scalar .scalar (.cons .scalar hparams (.cons .scalar .scalar
      (.cons .scalar hbody .nil)))) (List.reverse_perm _).symm
  exact .mapping (.cons .scalar .scalar (.cons .scalar (.sequence (.cons hfunction .nil)) .nil))
    (List.reverse_perm _).symm

theorem program_reordered_kernel :
    (∀ fields ∈ (kernel id).mappings, (Form.keys fields).Nodup) ∧
    Reordered (kernel id) (kernel List.reverse) ∧
    ∃ p, program .written "p" (kernel id) = .ok p ∧
      program ⟨List.reverse, List.reverse_perm⟩ "p" (kernel List.reverse) = .ok p := by
  have hdistinct : ∀ fields ∈ (kernel id).mappings, (Form.keys fields).Nodup := by decide
  refine ⟨hdistinct, reordered_kernel, _, rfl, ?_⟩
  exact (program_reordered .written _ "p" _ _ hdistinct reordered_kernel _).mp rfl

end Lanewise.Fixture
