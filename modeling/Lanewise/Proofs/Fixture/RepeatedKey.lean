import Lanewise.Proofs.Fixture.Part

/-!
# Repeated keys

A statement or an expression with a repeated key is refused, wherever it stands in a document. The
mapping of a program and those of parameters are read field by field, and there a field that is
given again later is dropped once its value has been read.
-/

namespace Lanewise.Fixture

open Yaml (Node)

-- ---------------------------------------------------------------------------
-- Mappings read field by field
-- ---------------------------------------------------------------------------

/-- `puts` says what each field puts into what has been read before it. Fields of one key put it in
the same place, those of different keys in different places. -/
structure FillsPlaces (take : α → Node × Node → Read α) (puts : Node × Node → (α → α) → Prop) :
    Prop where
  take_ok : take a field = .ok b ↔ ∃ put, puts field put ∧ put a = b
  same : puts field put → puts later put' → later.1.keyText = field.1.keyText →
    put' (put a) = put' a
  other : puts field put → puts later put' → later.1.keyText ≠ field.1.keyText →
    put' (put a) = put (put' a)

namespace FillsPlaces

variable {take : α → Node × Node → Read α} {puts : Node × Node → (α → α) → Prop}
  {before after : List (Node × Node)} {a b : α} {put : α → α}

theorem reads (h : FillsPlaces take puts) :
    (∃ b, take a field = .ok b) ↔ ∃ put, puts field put := by
  simp only [h.take_ok]
  exact ⟨fun ⟨_, put, hput, _⟩ => ⟨put, hput⟩, fun ⟨put, hput⟩ => ⟨put a, put, hput, rfl⟩⟩

/-- What a field has put in is passed on over the fields of other keys, until one of its own key
replaces it. -/
theorem foldlM_put (h : FillsPlaces take puts) (hput : puts field put)
    (hagain : field.1.keyText ∈ Form.keys after) :
    after.foldlM take (put a) = .ok b ↔ after.foldlM take a = .ok b := by
  induction after generalizing a with
  | nil => cases hagain
  | cons later rest ih =>
    simp only [List.foldlM_cons, bind_ok, h.take_ok, exists_exists_and_eq_and]
    refine exists_congr fun put' => and_congr_right fun hput' => ?_
    by_cases hkey : later.1.keyText = field.1.keyText
    · rw [h.same hput hput' hkey]
    · have hrest : field.1.keyText ∈ Form.keys rest :=
        (List.mem_cons.mp hagain).resolve_left (Ne.symm hkey)
      rw [h.other hput hput' hkey]
      exact ih hrest

/-- A field whose key is given again counts only in that its value has to be read. -/
theorem foldlM_again (h : FillsPlaces take puts) (hagain : field.1.keyText ∈ Form.keys after) :
    (before ++ field :: after).foldlM take a = .ok b ↔
      (∃ put, puts field put) ∧ (before ++ after).foldlM take a = .ok b := by
  simp only [List.foldlM_append, List.foldlM_cons, bind_ok, h.take_ok, exists_exists_and_eq_and]
  constructor
  · rintro ⟨c, hc, put, hput, hafter⟩
    exact ⟨⟨put, hput⟩, c, hc, (h.foldlM_put hput hagain).mp hafter⟩
  · rintro ⟨⟨put, hput⟩, c, hc, hafter⟩
    exact ⟨c, hc, put, hput, (h.foldlM_put hput hagain).mpr hafter⟩

end FillsPlaces

-- ---------------------------------------------------------------------------
-- Programs and parameters
-- ---------------------------------------------------------------------------

inductive PutsField (order : KeyOrder) (field : Node × Node) : (Program → Program) → Prop
  | name (hkey : field.1.keyText = "name") (h : scalarText field.2.resolve = .ok name) :
    PutsField order field fun p => { p with name }
  | statements (hkey : field.1.keyText = "statements")
    (h : readStmts order field.2.resolve = .ok statements) :
    PutsField order field fun p => { p with statements }

theorem takeField_ok {p q : Program} {field : Node × Node} :
    takeField order p field = .ok q ↔ ∃ put, PutsField order field put ∧ put p = q := by
  constructor
  · intro h
    unfold takeField at h
    dsimp only at h
    split at h
    · rename_i hkey
      simp only [bind_ok, pure_ok] at h
      obtain ⟨name, hname, rfl⟩ := h
      exact ⟨_, .name hkey hname, rfl⟩
    · rename_i hkey
      simp only [bind_ok, pure_ok] at h
      obtain ⟨statements, hstatements, rfl⟩ := h
      exact ⟨_, .statements hkey hstatements, rfl⟩
    · cases h
  · rintro ⟨put, hput, rfl⟩
    cases hput with
    | name hkey h => rw [takeField, hkey, h]; rfl
    | statements hkey h => rw [takeField, hkey, h]; rfl

theorem fillsPlaces_takeField (order : KeyOrder) :
    FillsPlaces (takeField order) (PutsField order) where
  take_ok := takeField_ok
  same hput hput' hkey := by
    cases hput <;> cases hput' <;> first | rfl | simp_all
  other hput hput' hkey := by
    cases hput <;> cases hput' <;> first | rfl | simp_all

inductive PutsParamField (field : Node × Node) : (ParamDraft → ParamDraft) → Prop
  | name (hkey : field.1.keyText = "name") (h : scalarText field.2.resolve = .ok name) :
    PutsParamField field fun draft => { draft with name }
  | type (hkey : field.1.keyText = "type") (h : writtenType field.2.resolve = .ok written) :
    PutsParamField field fun draft => { draft with written := some written }
  | mutability (hkey : field.1.keyText = "mut") (h : boolean field.2.resolve = .ok isMut) :
    PutsParamField field fun draft => { draft with isMut }

theorem ParamDraft.take_ok {draft draft' : ParamDraft} {field : Node × Node} :
    draft.take field = .ok draft' ↔ ∃ put, PutsParamField field put ∧ put draft = draft' := by
  constructor
  · intro h
    unfold take at h
    dsimp only at h
    split at h
    · rename_i hkey
      simp only [bind_ok, pure_ok] at h
      obtain ⟨name, hname, rfl⟩ := h
      exact ⟨_, .name hkey hname, rfl⟩
    · rename_i hkey
      simp only [bind_ok, pure_ok] at h
      obtain ⟨written, hwritten, rfl⟩ := h
      exact ⟨_, .type hkey hwritten, rfl⟩
    · rename_i hkey
      simp only [bind_ok, pure_ok] at h
      obtain ⟨isMut, hisMut, rfl⟩ := h
      exact ⟨_, .mutability hkey hisMut, rfl⟩
    · cases h
  · rintro ⟨put, hput, rfl⟩
    cases hput with
    | name hkey h => rw [take, hkey, h]; rfl
    | type hkey h => rw [take, hkey, h]; rfl
    | mutability hkey h => rw [take, hkey, h]; rfl

theorem ParamDraft.fillsPlaces_take : FillsPlaces take PutsParamField where
  take_ok := take_ok
  same hput hput' hkey := by
    cases hput <;> cases hput' <;> first | rfl | simp_all
  other hput hput' hkey := by
    cases hput <;> cases hput' <;> first | rfl | simp_all

section
variable {order : KeyOrder} {pos : Pos} {field : Node × Node} {before after : List (Node × Node)}

theorem program_again (hagain : field.1.keyText ∈ Form.keys after) :
    program order name (.mapping pos tag (before ++ field :: after)) = .ok p ↔
      (∃ q, takeField order { name, statements := [] } field = .ok q) ∧
        program order name (.mapping pos tag (before ++ after)) = .ok p := by
  rw [(fillsPlaces_takeField order).reads]
  exact (fillsPlaces_takeField order).foldlM_again hagain

theorem param_again (hagain : field.1.keyText ∈ Form.keys after) :
    param (.mapping pos tag (before ++ field :: after)) = .ok p ↔
      (∃ draft, ParamDraft.take {} field = .ok draft) ∧
        param (.mapping pos tag (before ++ after)) = .ok p := by
  simp only [param, Node.resolve, bind_ok, ParamDraft.fillsPlaces_take.reads,
    ParamDraft.fillsPlaces_take.foldlM_again hagain, and_assoc, exists_and_left]

end

-- ---------------------------------------------------------------------------
-- Documents
-- ---------------------------------------------------------------------------

theorem keys_readValues (order : KeyOrder) (fields : List (Node × Node)) :
    Form.keys (readValues order fields) = Form.keys fields := by
  simp [Form.keys, readValues_eq_map, Function.comp_def]

theorem Decoded.nodup_keys {pos : Pos} {category : Category}
    (h : Decoded document category.part (.mapping pos tag fields))
    (hp : program order name document = .ok p) : (Form.keys fields).Nodup := by
  have hread := h.reads hp
  rw [← keys_readValues order]
  cases category with
  | statement =>
    obtain ⟨s, hs⟩ := hread
    obtain ⟨f, hf, -⟩ := bind_ok.mp hs
    exact (Form.ofFields_ok hf).1
  | expression =>
    obtain ⟨e, he⟩ := hread
    obtain ⟨f, hf, -⟩ := bind_ok.mp he
    exact (Form.ofFields_ok hf).1

/-- A document with a repeated key in a statement or an expression holds no program. In the mapping
of a program and in that of a parameter, a field whose key comes again later has to be readable, and
is then as good as not there. -/
theorem repeatedKey_outcome (order : KeyOrder) (name : String) :
    (∀ (document : Node) (category : Category) (pos : Pos) (tag : String)
      (fields : List (Node × Node)),
      Decoded document category.part (.mapping pos tag fields) → ¬ (Form.keys fields).Nodup →
        ∃ flaw, program order name document = .error flaw) ∧
    ∀ (pos : Pos) (tag : String) (field : Node × Node) (before after : List (Node × Node)),
      field.1.keyText ∈ Form.keys after →
      (∀ p, program order name (.mapping pos tag (before ++ field :: after)) = .ok p ↔
        (∃ q, takeField order { name, statements := [] } field = .ok q) ∧
          program order name (.mapping pos tag (before ++ after)) = .ok p) ∧
      ∀ p, param (.mapping pos tag (before ++ field :: after)) = .ok p ↔
        (∃ draft, ParamDraft.take {} field = .ok draft) ∧
          param (.mapping pos tag (before ++ after)) = .ok p := by
  refine ⟨fun document category pos tag fields hdecoded hrepeated => ?_,
    fun pos tag field before after hagain =>
      ⟨fun p => program_again hagain, fun p => param_again hagain⟩⟩
  cases hprogram : program order name document with
  | error flaw => exact ⟨flaw, rfl⟩
  | ok p => exact absurd (hdecoded.nodup_keys hprogram) hrepeated

def word (text : String) : Node := .scalar ⟨1, 1⟩ "!!str" .plain text

def listOf (items : List (List (Node × Node))) : Node :=
  .sequence ⟨1, 1⟩ "!!seq" (items.map (.mapping ⟨1, 3⟩ "!!map"))

def repeatedExpr : List (Node × Node) := [(word "expr", word "a"), (word "expr", word "b")]

def repeatedStatements : List (Node × Node) :=
  [(word "statements", listOf [[(word "expr", word "a")]]), (word "statements", listOf [])]

def repeatedType : List (Node × Node) :=
  [(word "name", word "x"), (word "type", word "i32"), (word "type", word "f32")]

theorem repeatedKey_outcome_blockAndFields :
    (∃ flaw,
      program .written "p" (listOf [[(word "block", listOf [repeatedExpr])]]) = .error flaw) ∧
    program .written "p" (.mapping ⟨1, 1⟩ "!!map" repeatedStatements) =
      .ok { name := "p", statements := [] } ∧
    (param (.mapping ⟨1, 1⟩ "!!map" repeatedType)).map (·.written) =
      .ok (some { name := "f32", isMut := false, pos := ⟨1, 1⟩ }) := by
  obtain ⟨refused, kept⟩ := repeatedKey_outcome .written "p"
  refine ⟨refused _ .statement ⟨1, 3⟩ "!!map" repeatedExpr ?_ (by decide), ?_, ?_⟩
  · exact .tail (.tail (.tail (.single .list) (.statement (.head _)))
      (.field .statement rfl (.head _) (by decide) rfl)) (.statement (.head _))
  · have hagain := kept ⟨1, 1⟩ "!!map" (word "statements", listOf [[(word "expr", word "a")]]) []
      [(word "statements", listOf [])] (by decide)
    exact (hagain.1 _).mpr ⟨⟨_, rfl⟩, rfl⟩
  · have hagain := kept ⟨1, 1⟩ "!!map" (word "type", word "i32") [(word "name", word "x")]
      [(word "type", word "f32")] (by decide)
    exact congrArg (Except.map _) ((hagain.2 _).mpr ⟨⟨_, rfl⟩, rfl⟩)

def functionOfRepeatedType : Node :=
  listOf [[(word "fn", word "f"), (word "params", listOf [repeatedType])]]

/-- Repeated keys are accepted in the mapping of a program and in that of a parameter, and what is
given first is lost. -/
theorem repeatedKey_accepted :
    (¬ (Form.keys repeatedStatements).Nodup ∧
      program .written "p" (.mapping ⟨1, 1⟩ "!!map" repeatedStatements) =
        .ok { name := "p", statements := [] }) ∧
    (¬ (Form.keys repeatedType).Nodup ∧
      Decoded functionOfRepeatedType .param (.mapping ⟨1, 3⟩ "!!map" repeatedType) ∧
      ∃ p, program .written "p" functionOfRepeatedType = .ok p) ∧
    (parse .written "p.ea.yaml" "statements:\n- expr: a\nstatements: []\n").toOption.map
      (·.statements.length) = some 0 := by
  refine ⟨⟨by decide, rfl⟩, ⟨by decide, ?_, ⟨_, rfl⟩⟩, by decide +kernel⟩
  exact .tail (.tail (.tail (.single .list) (.statement (.head _)))
    (.field .statement rfl (.tail _ (.head _)) (by decide) rfl)) (.param (.head _))

end Lanewise.Fixture
