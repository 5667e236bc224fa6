import Lanewise.Proofs.Complete.Tree
import Lanewise.Proofs.Printer.Label

/-!
# Expressions in their outlines

A complete expression is known from its label and its operands (`unplaced_eq`), and its print is
that of an outline with the label above the outlines of the operands. So expressions with the same
outline differ in their positions at most (`unplaced_eq_of_outline`).
-/

namespace Lanewise

namespace Expr

-- ---------------------------------------------------------------------------
-- Positions
-- ---------------------------------------------------------------------------

mutual
def unplaced : Expr → Expr
  | .absent => .absent
  | .int _ value => .int .none value
  | .float _ value => .float .none value
  | .bool _ value => .bool .none value
  | .string _ value => .string .none value
  | .ident _ name => .ident .none name
  | .binary _ op left right => .binary .none op left.unplaced right.unplaced
  | .unary _ op operand => .unary .none op operand.unplaced
  | .call _ callee args => .call .none callee.unplaced (unplacedAll args)
  | .group _ inner => .group .none inner.unplaced
  | .index _ object offset => .index .none object.unplaced offset.unplaced
  | .field _ object name => .field .none object.unplaced name
  | .vector _ elements kind => .vector .none (unplacedAll elements) kind
  | .lanewise _ op left right => .lanewise .none op left.unplaced right.unplaced
  | .broadcast _ op one across => .broadcast .none op one.unplaced across.unplaced
  | .reduce _ op operand => .reduce .none op operand.unplaced
  | .dot _ left right => .dot .none left.unplaced right.unplaced
  | .swizzle _ operand pattern => .swizzle .none operand.unplaced pattern
  | .load _ address kind => .load .none address.unplaced kind
  | .store _ address value => .store .none address.unplaced value.unplaced
def unplacedAll : List Expr → List Expr
  | [] => []
  | e :: es => e.unplaced :: unplacedAll es
end

theorem unplacedAll_eq_map (es : List Expr) : unplacedAll es = es.map unplaced := by
  induction es with
  | nil => rfl
  | cons e es ih => rw [unplacedAll, ih, List.map_cons]

theorem isAbsent_unplaced (e : Expr) : e.unplaced.isAbsent = e.isAbsent := by
  cases e <;> simp only [unplaced, isAbsent]

mutual
theorem print_unplaced (level : Nat) : (e : Expr) → e.unplaced.print level = e.print level
  | .absent | .int .. | .float .. | .bool .. | .string .. | .ident .. => by
    simp only [unplaced, print]
  | .binary _ _ l r | .lanewise _ _ l r | .broadcast _ _ l r | .dot _ l r | .store _ l r
  | .index _ l r => by
    simp only [unplaced, print, print_unplaced _ l, print_unplaced _ r]
  | .unary _ _ e | .group _ e | .field _ e _ | .reduce _ _ e | .swizzle _ e _ | .load _ e _ => by
    simp only [unplaced, print, print_unplaced _ e]
  | .call _ f args => by
    simp only [unplaced, print, print_unplaced _ f, printAll_unplaced _ args]
    cases args <;> rfl
  | .vector _ es _ => by
    have hlength : (unplacedAll es).length = es.length := by
      rw [unplacedAll_eq_map, List.length_map]
    simp only [unplaced, print, printAll_unplaced _ es, hlength]
theorem printAll_unplaced (level : Nat) : (es : List Expr) →
    printAll level (unplacedAll es) = printAll level es
  | [] => by simp only [unplacedAll]
  | e :: es => by
    simp only [unplacedAll, printAll, print_unplaced _ e, printAll_unplaced _ es]
end

-- ---------------------------------------------------------------------------
-- Tidy expressions
-- ---------------------------------------------------------------------------

mutual
/-- All names, patterns and kinds in the expression are tidy, and no literal is not a number. -/
def isTidy : Expr → Bool
  | .absent | .int .. | .bool .. | .string .. => true
  | .float _ value => value.view != .nan
  | .ident _ name => isTidyName name
  | .binary _ _ l r | .lanewise _ _ l r | .broadcast _ _ l r | .dot _ l r | .store _ l r
  | .index _ l r => l.isTidy && r.isTidy
  | .unary _ _ e | .group _ e | .reduce _ _ e => e.isTidy
  | .field _ e name => isTidyName name && e.isTidy
  | .swizzle _ e text | .load _ e text => isTidyText text && e.isTidy
  | .call _ f args => f.isTidy && allTidy args
  | .vector _ es kind => isTidyText kind && allTidy es
def allTidy : List Expr → Bool
  | [] => true
  | e :: es => e.isTidy && allTidy es
end

theorem allTidy_eq_true {es : List Expr} : allTidy es = true ↔ ∀ e ∈ es, e.isTidy = true := by
  induction es with
  | nil => simp [allTidy]
  | cons e es ih => simp [allTidy, ih]

-- ---------------------------------------------------------------------------
-- Labels and operands
-- ---------------------------------------------------------------------------

def label : Expr → Label
  | .absent => ⟨.absent, ()⟩
  | .int _ value => ⟨.int, value⟩
  | .float _ value => ⟨.float, value⟩
  | .bool _ value => ⟨.bool, value⟩
  | .string _ value => ⟨.string, value⟩
  | .ident _ name => ⟨.ident, name⟩
  | .binary _ op _ _ => ⟨.binary, op⟩
  | .unary _ op _ => ⟨.unary, op⟩
  | .call .. => ⟨.call, ()⟩
  | .group .. => ⟨.group, ()⟩
  | .index .. => ⟨.index, ()⟩
  | .field _ _ name => ⟨.field, name⟩
  | .vector _ elements kind => ⟨.vector, kind, elements.length⟩
  | .lanewise _ op _ _ => ⟨.lanewise, op⟩
  | .broadcast _ op _ _ => ⟨.broadcast, op⟩
  | .reduce _ op _ => ⟨.reduce, op⟩
  | .dot .. => ⟨.dot, ()⟩
  | .swizzle _ _ pattern => ⟨.swizzle, pattern⟩
  | .load _ _ kind => ⟨.load, kind⟩
  | .store .. => ⟨.store, ()⟩

end Expr

def Label.expr : Label → List Expr → Expr
  | ⟨.int, value⟩, _ => .int .none value
  | ⟨.float, value⟩, _ => .float .none value
  | ⟨.bool, value⟩, _ => .bool .none value
  | ⟨.string, value⟩, _ => .string .none value
  | ⟨.ident, name⟩, _ => .ident .none name
  | ⟨.binary, op⟩, [l, r] => .binary .none op l r
  | ⟨.unary, op⟩, [e] => .unary .none op e
  | ⟨.call, _⟩, f :: args => .call .none f args
  | ⟨.group, _⟩, [e] => .group .none e
  | ⟨.index, _⟩, [l, r] => .index .none l r
  | ⟨.field, name⟩, [e] => .field .none e name
  | ⟨.vector, kind, _⟩, es => .vector .none es kind
  | ⟨.lanewise, op⟩, [l, r] => .lanewise .none op l r
  | ⟨.broadcast, op⟩, [l, r] => .broadcast .none op l r
  | ⟨.reduce, op⟩, [e] => .reduce .none op e
  | ⟨.dot, _⟩, [l, r] => .dot .none l r
  | ⟨.swizzle, pattern⟩, [e] => .swizzle .none e pattern
  | ⟨.load, kind⟩, [e] => .load .none e kind
  | ⟨.store, _⟩, [l, r] => .store .none l r
  | _, _ => .absent

namespace Expr

/-- But for its position, an expression is its label with its operands. -/
theorem unplaced_eq (e : Expr) : e.unplaced = e.label.expr (e.children.map unplaced) := by
  cases e <;> simp only [unplaced, label, children, List.map_cons, List.map_nil, unplacedAll_eq_map,
    Label.expr]

theorem sizeOf_child {e c : Expr} (h : c ∈ e.children) : sizeOf c < sizeOf e := by
  have smaller (es : List Expr) (hc : c ∈ es) : sizeOf c < sizeOf es := List.sizeOf_lt_of_mem hc
  cases e <;> grind [children]

theorem Complete.children {e : Expr} (h : e.Complete) : ∀ c ∈ e.children, c.Complete := by
  cases h <;> simp_all [Expr.children]

theorem isTidy_children {e : Expr} (h : e.isTidy = true) : ∀ c ∈ e.children, c.isTidy = true := by
  cases e <;> simp_all [Expr.children, isTidy, allTidy_eq_true]

theorem Complete.isClear_label {e : Expr} (h : e.Complete) (ht : e.isTidy = true) :
    e.label.IsClear := by
  cases h with
  | binary hop | unary hop | lanewise hop | broadcast hop | reduce hop => exact hop
  | float =>
    simp only [isTidy, bne_iff_ne] at ht
    exact ht
  | ident =>
    rw [isTidy] at ht
    exact ht
  | field | swizzle | load | vector =>
    rw [isTidy, Bool.and_eq_true] at ht
    exact ht.1
  | int | bool | string | call | group | index | dot | store => trivial

end Expr

-- ---------------------------------------------------------------------------
-- Outlines
-- ---------------------------------------------------------------------------

open Outline (under)

def Label.arrange (l : Label) (operands : List Outline) : List Outline :=
  match l.word, operands with
  | .call, callee :: args => .node "Callee:" [callee] :: under "Args:" args
  | _, operands => operands

theorem Label.arrange_injective {l : Label} {ts us : List Outline}
    (h : l.arrange ts = l.arrange us) : ts = us := by
  obtain ⟨word, detail⟩ := l
  cases word with
  | call =>
    cases ts with
    | nil =>
      cases us with
      | nil => rfl
      | cons u us => cases h
    | cons t ts =>
      cases us with
      | nil => cases h
      | cons u us =>
        obtain ⟨hcallee, hargs⟩ := List.cons.inj h
        obtain rfl := Outline.under_injective hargs
        cases hcallee
        rfl
  | _ => exact h

theorem Label.allLined_arrange (l : Label) {ts : List Outline} (h : Outline.AllLined ts) :
    Outline.AllLined (l.arrange ts) := by
  unfold arrange
  split
  · exact ⟨⟨by decide, h.1, trivial⟩, .under (by decide) h.2⟩
  · exact h

namespace Expr

def outline (e : Expr) : Outline :=
  .node e.label.text (e.label.arrange (e.children.attach.map fun ⟨c, _⟩ => c.outline))
termination_by sizeOf e
decreasing_by
  rename_i h
  exact sizeOf_child h

theorem outline_eq (e : Expr) :
    e.outline = .node e.label.text (e.label.arrange (e.children.map outline)) := by
  rw [outline, List.map_subtype (fun _ _ => rfl), List.unattach_attach]

theorem printAll_outlines {es : List Expr} (level : Nat)
    (h : ∀ e ∈ es, e.outline.print level = e.print level) :
    Outline.printAll level (es.map outline) = printAll level es := by
  induction es with
  | nil => simp only [List.map_nil, Outline.printAll, printAll]
  | cons e es ih =>
    rw [List.forall_mem_cons] at h
    simp only [List.map_cons, Outline.printAll, printAll, h.1, ih h.2]

theorem print_outline {e : Expr} (h : e.Complete) (level : Nat) :
    e.outline.print level = e.print level := by
  induction h generalizing level with
  | @call f args p _ _ hf hargs =>
    have hbelow := printAll_outlines (level + 2) fun e he => hargs e he (level + 2)
    rw [outline_eq]
    simp [label, children, Label.arrange, Outline.print, Outline.printAll, Outline.printAll_under,
      print, Label.text, Word.text, Word.write, hf, hbelow, String.append_assoc]
  | vector _ hes =>
    have hbelow := printAll_outlines (level + 1) fun e he => hes e he (level + 1)
    rw [outline_eq]
    simp [label, children, Label.arrange, Outline.print, print, Label.text,
      Word.text, Word.write, hbelow, kindText, String.append_assoc]
  | _ =>
    rw [outline_eq]
    simp [label, children, Label.arrange, Outline.print, Outline.printAll, print,
      Label.text, Word.text, Word.write, String.append_assoc, *]

theorem isLined_outline {e : Expr} (h : e.Complete) (ht : e.isTidy = true) :
    e.outline.IsLined := by
  have hbelow : ∀ t ∈ e.children.map outline, t.IsLined := by
    rw [List.forall_mem_map]
    intro c hc
    exact isLined_outline (h.children c hc) (isTidy_children ht c hc)
  rw [outline_eq]
  exact ⟨(h.isClear_label ht).isLine, e.label.allLined_arrange (Outline.allLined_iff.mpr hbelow)⟩
termination_by sizeOf e
decreasing_by exact sizeOf_child hc

/-- The label is known from the first line, and the operands from what stands below it. -/
theorem unplaced_eq_of_outline {e e' : Expr} (h : e.Complete) (h' : e'.Complete)
    (ht : e.isTidy = true) (ht' : e'.isTidy = true) (heq : e.outline = e'.outline) :
    e.unplaced = e'.unplaced := by
  rw [outline_eq, outline_eq] at heq
  obtain ⟨htext, hbelow⟩ := Outline.node.inj heq
  have hlabel : e.label = e'.label :=
    Label.text_injective (h.isClear_label ht) (h'.isClear_label ht') htext
  rw [hlabel] at hbelow
  have hchildren : e.children.map unplaced = e'.children.map unplaced :=
    map_eq_map_of_imp (Label.arrange_injective hbelow) fun c hc c' hc' =>
      unplaced_eq_of_outline (h.children c hc) (h'.children c' hc') (isTidy_children ht c hc)
        (isTidy_children ht' c' hc')
  rw [unplaced_eq e, unplaced_eq e', hlabel, hchildren]
termination_by sizeOf e
decreasing_by exact sizeOf_child hc

-- ---------------------------------------------------------------------------
-- Expressions that may be left out
-- ---------------------------------------------------------------------------

def outlineIfAny (e : Expr) : List Outline := if e.isAbsent then [] else [e.outline]

theorem Complete.not_isAbsent {e : Expr} (h : e.Complete) : e.isAbsent = false := by
  cases h <;> rfl

theorem Complete.outlineIfAny {e : Expr} (h : e.Complete) : e.outlineIfAny = [e.outline] := by
  rw [Expr.outlineIfAny, h.not_isAbsent]
  rfl

theorem CompleteIfAny.cases {e : Expr} (h : e.CompleteIfAny) : e = .absent ∨ e.Complete :=
  or_iff_not_imp_left.mpr h

theorem printAll_outlineIfAny {e : Expr} (h : e.CompleteIfAny) (level : Nat) :
    Outline.printAll level e.outlineIfAny = e.print level := by
  rcases h.cases with rfl | he
  · simp [outlineIfAny, isAbsent, Outline.printAll, print]
  · simp [he.outlineIfAny, Outline.printAll, print_outline he]

theorem printAll_under {e : Expr} (h : e.CompleteIfAny) (level : Nat) (heading : String) :
    Outline.printAll (level + 1) (under heading e.outlineIfAny) = e.printUnder level heading := by
  rcases h.cases with rfl | he
  · rfl
  · simp [he.outlineIfAny, under, Outline.printAll, Outline.print, printUnder, he.not_isAbsent,
      print_outline he]

theorem allLined_outlineIfAny {e : Expr} (h : e.CompleteIfAny) (ht : e.isTidy = true) :
    Outline.AllLined e.outlineIfAny := by
  rcases h.cases with rfl | he
  · trivial
  · rw [he.outlineIfAny]
    exact ⟨isLined_outline he ht, trivial⟩

theorem unplaced_eq_of_outlineIfAny {e e' : Expr} (h : e.CompleteIfAny) (h' : e'.CompleteIfAny)
    (ht : e.isTidy = true) (ht' : e'.isTidy = true) (heq : e.outlineIfAny = e'.outlineIfAny) :
    e.unplaced = e'.unplaced := by
  rcases h.cases with rfl | he
  · rcases h'.cases with rfl | he'
    · rfl
    · rw [he'.outlineIfAny] at heq
      cases heq
  · rw [he.outlineIfAny] at heq
    rcases h'.cases with rfl | he'
    · cases heq
    · rw [he'.outlineIfAny] at heq
      exact unplaced_eq_of_outline he he' ht ht' (List.cons.inj heq).1

end Expr

end Lanewise
