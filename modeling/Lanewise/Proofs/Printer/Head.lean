import Lanewise.Program.Stmt
import Lanewise.Proofs.Printer.Label

/-!
# Heads of functions in their outlines

A parameter is one line, with its name up to the first colon. Below the line of a function stand the
parameters and the type it returns, and neither is taken for the other or for the body
(`FnHead.unplaced_eq_of_outline`).
-/

namespace Lanewise

-- ---------------------------------------------------------------------------
-- Written types
-- ---------------------------------------------------------------------------

namespace WrittenType

def unplaced (a : WrittenType) : WrittenType := { a with pos := .none }

def isTidy (a : WrittenType) : Bool := isTidyTypeName a.name

def spelling (a : WrittenType) : Spelling := (a.isMut, a.name)

theorem text_inj {a a' : WrittenType} (h : a.isTidy = true) (h' : a'.isTidy = true)
    (heq : a.text = a'.text) : a.unplaced = a'.unplaced := by
  obtain ⟨hmark, hname⟩ := marked_inj (not_prefix_of_isTidyTypeName h)
    (not_prefix_of_isTidyTypeName h') heq
  rw [unplaced, unplaced, hmark, hname]

theorem newline_notMem_text {a : WrittenType} (h : a.isTidy = true) : '\n' ∉ a.text.toList :=
  newline_notMem_marked (notMem_of_isTidyTypeName h (.inl rfl))

theorem text_ne_none {a : WrittenType} (h : a.isTidy = true) : a.text ≠ "<none>" := by
  have hname : '<' ∉ a.name.toList := notMem_of_isTidyTypeName h (.inr rfl)
  intro heq
  have hopen : '<' ∈ a.text.toList := by simp [heq]
  cases hmut : a.isMut <;> simp [text, hmut, hname] at hopen

end WrittenType

section
variable {written written' : Option WrittenType}

theorem writtenText_inj (h : written.all WrittenType.isTidy = true)
    (h' : written'.all WrittenType.isTidy = true)
    (heq : writtenText written = writtenText written') :
    written.map WrittenType.unplaced = written'.map WrittenType.unplaced := by
  cases written with
  | none =>
    cases written' with
    | none => rfl
    | some a' => exact absurd heq.symm (WrittenType.text_ne_none h')
  | some a =>
    cases written' with
    | none => exact absurd heq (WrittenType.text_ne_none h)
    | some a' => exact congrArg some (WrittenType.text_inj h h' heq)

theorem newline_notMem_writtenText (h : written.all WrittenType.isTidy = true) :
    '\n' ∉ (writtenText written).toList := by
  cases written with
  | none => decide
  | some a => exact WrittenType.newline_notMem_text h

theorem map_unplaced_of_spelling
    (h : written.map WrittenType.spelling = written'.map WrittenType.spelling) :
    written.map WrittenType.unplaced = written'.map WrittenType.unplaced := by
  cases written <;> cases written' <;> simp_all [WrittenType.spelling, WrittenType.unplaced]

end

-- ---------------------------------------------------------------------------
-- Parameters and heads of functions
-- ---------------------------------------------------------------------------

namespace Param

def unplaced (p : Param) : Param :=
  { p with written := p.written.map WrittenType.unplaced, pos := .none }

def isTidy (p : Param) : Bool := isTidyName p.name && p.written.all WrittenType.isTidy

def outline (p : Param) : Outline := .node (p.name ++ ": " ++ writtenText p.written) []

theorem print_unplaced (level : Nat) (p : Param) : p.unplaced.print level = p.print level := by
  obtain ⟨name, written, pos⟩ := p
  cases written <;> rfl

/-- The name ends at the first colon. -/
theorem unplaced_eq_of_outline {p p' : Param} (h : p.isTidy = true) (h' : p'.isTidy = true)
    (heq : p.outline = p'.outline) : p.unplaced = p'.unplaced := by
  rw [isTidy, Bool.and_eq_true] at h h'
  have hchars : p.name.toList ++ ':' :: ' ' :: (writtenText p.written).toList =
      p'.name.toList ++ ':' :: ' ' :: (writtenText p'.written).toList := by
    simpa using congrArg String.toList (Outline.node.inj heq).1
  obtain ⟨hname, htail⟩ := append_separator_inj (notMem_of_isTidyName h.1 rfl)
    (notMem_of_isTidyName h'.1 rfl) hchars
  have htype := String.toList_injective (List.cons.inj htail).2
  rw [unplaced, unplaced, String.toList_injective hname, writtenText_inj h.2 h'.2 htype]

theorem isLined_outline {p : Param} (h : p.isTidy = true) : p.outline.IsLined := by
  rw [isTidy, Bool.and_eq_true] at h
  have hnewline : '\n' ∉ p.name.toList := notMem_of_isTidyName h.1 rfl
  have hspace : ' ' ∉ p.name.toList := notMem_of_isTidyName h.1 rfl
  refine ⟨⟨by simp [hnewline, newline_notMem_writtenText h.2], ?_⟩, trivial⟩
  intro hhead
  cases hname : p.name.toList with
  | nil => simp [hname] at hhead
  | cons c rest =>
    obtain rfl : c = ' ' := by simpa [hname] using hhead
    exact hspace (hname ▸ List.mem_cons_self)

theorem print_outline (level : Nat) (p : Param) : p.outline.print level = p.print level := by
  simp [outline, Outline.print, Outline.printAll, print]

theorem join_print (level : Nat) (params : List Param) :
    String.join (params.map (·.print level)) = Outline.printAll level (params.map outline) := by
  induction params with
  | nil => rfl
  | cons p rest ih => simp [Outline.printAll, print_outline, ← ih]

end Param

namespace FnHead

def unplaced (head : FnHead) : FnHead where
  pos := .none
  name := head.name
  params := head.params.map Param.unplaced
  returns := head.returns.map WrittenType.unplaced

def isTidy (head : FnHead) : Bool :=
  isTidyName head.name && head.params.all Param.isTidy && head.returns.all WrittenType.isTidy

def paramsOutline (head : FnHead) : Outline :=
  if head.params.isEmpty then .node "Params: none" []
  else .node "Params:" (head.params.map Param.outline)

def returnsOutlines (head : FnHead) : List Outline :=
  head.returns.toList.map fun a => .node ("Returns: " ++ a.text) []

def outline (head : FnHead) (below : List Outline) : Outline :=
  .node ("Function: " ++ head.name) (head.paramsOutline :: head.returnsOutlines ++ below)

theorem print_unplaced (level : Nat) (head : FnHead) :
    head.unplaced.print level = head.print level := by
  obtain ⟨pos, name, params, returns⟩ := head
  simp only [print, unplaced, List.isEmpty_map, List.map_map, Function.comp_def,
    Param.print_unplaced]
  cases returns <;> rfl

theorem print_outline (level : Nat) (head : FnHead) (below : List Outline) :
    (head.outline below).print level = head.print level ++ Outline.printAll (level + 1) below := by
  obtain ⟨pos, name, params, returns⟩ := head
  cases params <;> cases returns <;>
    simp [outline, paramsOutline, returnsOutlines, print, Outline.print, Outline.printAll,
      Param.join_print, Param.print_outline, String.append_assoc]

section
variable {head head' : FnHead}

theorem paramsOutline_inj (h : ∀ p ∈ head.params, p.isTidy = true)
    (h' : ∀ p ∈ head'.params, p.isTidy = true) (heq : head.paramsOutline = head'.paramsOutline) :
    head.params.map Param.unplaced = head'.params.map Param.unplaced := by
  unfold paramsOutline at heq
  split at heq <;> split at heq
  · simp_all
  · simp at heq
  · simp at heq
  · exact map_eq_map_of_imp (Outline.node.inj heq).2 fun p hp p' hp' =>
      Param.unplaced_eq_of_outline (h p hp) (h' p' hp')

/-- A type that is returned is not taken for the body. -/
theorem returnsOutlines_append_inj {rest rest' : List Outline}
    (h : head.returns.all WrittenType.isTidy = true)
    (h' : head'.returns.all WrittenType.isTidy = true)
    (heq : head.returnsOutlines ++ [.node "Body:" rest] =
      head'.returnsOutlines ++ [.node "Body:" rest']) :
    head.returns.map WrittenType.unplaced = head'.returns.map WrittenType.unplaced ∧
      rest = rest' := by
  unfold returnsOutlines at heq
  cases hr : head.returns with
  | none =>
    cases hr' : head'.returns with
    | none => simpa [hr, hr'] using heq
    | some a' => simp [hr, hr', ← String.toList_inj] at heq
  | some a =>
    cases hr' : head'.returns with
    | none => simp [hr, hr', ← String.toList_inj] at heq
    | some a' =>
      rw [hr] at h heq
      rw [hr'] at h' heq
      obtain ⟨htext, hrest⟩ : a.text = a'.text ∧ rest = rest' := by simpa using heq
      exact ⟨congrArg some (WrittenType.text_inj h h' htext), hrest⟩

theorem unplaced_eq_of_outline {rest rest' : List Outline} (h : head.isTidy = true)
    (h' : head'.isTidy = true)
    (heq : head.outline [.node "Body:" rest] = head'.outline [.node "Body:" rest']) :
    head.unplaced = head'.unplaced ∧ rest = rest' := by
  simp only [isTidy, Bool.and_eq_true, List.all_eq_true] at h h'
  obtain ⟨hname, hbelow⟩ := Outline.node.inj heq
  obtain ⟨hparams, hrows⟩ := List.cons.inj hbelow
  obtain ⟨hreturns, hrest⟩ := returnsOutlines_append_inj h.2 h'.2 hrows
  refine ⟨?_, hrest⟩
  rw [unplaced, unplaced, (String.append_right_inj _).mp hname, hreturns,
    paramsOutline_inj h.1.2 h'.1.2 hparams]

theorem isLined_outline {below : List Outline} (h : head.isTidy = true)
    (hbelow : Outline.AllLined below) : (head.outline below).IsLined := by
  simp only [isTidy, Bool.and_eq_true, List.all_eq_true] at h
  have hname : Label.IsClear ⟨.function, head.name⟩ := h.1.1
  have hparams : head.paramsOutline.IsLined := by
    unfold paramsOutline
    split
    · exact ⟨by decide, trivial⟩
    · refine ⟨by decide, Outline.allLined_iff.mpr ?_⟩
      rw [List.forall_mem_map]
      exact fun p hp => Param.isLined_outline (h.1.2 p hp)
  have hreturns : Outline.AllLined head.returnsOutlines := by
    unfold returnsOutlines
    cases hr : head.returns with
    | none => trivial
    | some a =>
      rw [hr] at h
      have hnewline := WrittenType.newline_notMem_text h.2
      exact ⟨⟨⟨by simp [hnewline], by simp⟩, trivial⟩, trivial⟩
  exact ⟨hname.isLine, hparams, Outline.allLined_append.mpr ⟨hreturns, hbelow⟩⟩

end

end FnHead

end Lanewise
