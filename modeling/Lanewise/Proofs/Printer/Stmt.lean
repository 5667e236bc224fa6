import Lanewise.Proofs.Printer.Expr
import Lanewise.Proofs.Printer.Head

/-!
# Statements in their outlines

The print of a complete statement is that of an outline: its line, and below it what it is made of,
under headings where there is more than one part. Statements with the same outline differ in their
positions at most (`unplaced_eq_of_outline`).
-/

namespace Lanewise

open Outline (under)

namespace Stmt

-- ---------------------------------------------------------------------------
-- Positions
-- ---------------------------------------------------------------------------

mutual
def unplaced : Stmt → Stmt
  | .absent => .absent
  | .fn head _ body => .fn head.unplaced .none (unplacedAll body)
  | .prototype head => .prototype head.unplaced
  | .letDecl _ name isMut written value =>
    .letDecl .none name isMut (written.map WrittenType.unplaced) value.unplaced
  | .ret _ value => .ret .none value.unplaced
  | .block _ body => .block .none (unplacedAll body)
  | .ifElse _ condition yes no => .ifElse .none condition.unplaced yes.unplaced no.unplaced
  | .whileLoop _ condition body => .whileLoop .none condition.unplaced body.unplaced
  | .forLoop _ init condition step body =>
    .forLoop .none init.unplaced condition.unplaced step.unplaced body.unplaced
  | .expr _ value => .expr .none value.unplaced
def unplacedAll : List Stmt → List Stmt
  | [] => []
  | s :: rest => s.unplaced :: unplacedAll rest
end

theorem unplacedAll_eq_map (body : List Stmt) : unplacedAll body = body.map unplaced := by
  induction body with
  | nil => rfl
  | cons s rest ih => rw [unplacedAll, ih, List.map_cons]

theorem isAbsent_unplaced (s : Stmt) : s.unplaced.isAbsent = s.isAbsent := by
  cases s <;> simp only [unplaced, isAbsent]

mutual
theorem print_unplaced (level : Nat) : (s : Stmt) → s.unplaced.print level = s.print level
  | .absent => rfl
  | .fn head _ body => by
    simp only [unplaced, print, head.print_unplaced, printAll_unplaced _ body]
  | .prototype head => by simp only [unplaced, print, head.print_unplaced]
  | .letDecl _ name isMut written value => by
    cases written <;> simp only [unplaced, print, value.print_unplaced, Option.map,
      WrittenType.unplaced, WrittenType.text]
  | .ret _ value | .expr _ value => by simp only [unplaced, print, value.print_unplaced]
  | .block _ body => by simp only [unplaced, print, printAll_unplaced _ body]
  | .ifElse _ condition yes no => by
    simp only [unplaced, print, condition.print_unplaced, print_unplaced _ yes,
      print_unplaced _ no, isAbsent_unplaced]
  | .whileLoop _ condition body => by
    simp only [unplaced, print, condition.print_unplaced, print_unplaced _ body]
  | .forLoop _ init condition step body => by
    simp only [unplaced, print, Expr.printUnder, Expr.print_unplaced, Expr.isAbsent_unplaced,
      print_unplaced _ init, isAbsent_unplaced, print_unplaced _ body]
theorem printAll_unplaced (level : Nat) : (body : List Stmt) →
    printAll level (unplacedAll body) = printAll level body
  | [] => rfl
  | s :: rest => by
    simp only [unplacedAll, printAll, print_unplaced _ s, printAll_unplaced _ rest]
end

-- ---------------------------------------------------------------------------
-- Tidy statements
-- ---------------------------------------------------------------------------

mutual
def isTidy : Stmt → Bool
  | .absent => true
  | .fn head _ body => head.isTidy && allTidy body
  | .prototype head => head.isTidy
  | .letDecl _ name _ written value =>
    isTidyName name && written.all WrittenType.isTidy && value.isTidy
  | .ret _ value | .expr _ value => value.isTidy
  | .block _ body => allTidy body
  | .ifElse _ condition yes no => condition.isTidy && yes.isTidy && no.isTidy
  | .whileLoop _ condition body => condition.isTidy && body.isTidy
  | .forLoop _ init condition step body =>
    init.isTidy && condition.isTidy && step.isTidy && body.isTidy
def allTidy : List Stmt → Bool
  | [] => true
  | s :: rest => s.isTidy && allTidy rest
end

theorem allTidy_eq_true {body : List Stmt} :
    allTidy body = true ↔ ∀ s ∈ body, s.isTidy = true := by
  induction body with
  | nil => simp [allTidy]
  | cons s rest ih => simp [allTidy, ih]

-- ---------------------------------------------------------------------------
-- Labels and outlines
-- ---------------------------------------------------------------------------

def label : Stmt → Label
  | .absent => ⟨.absent, ()⟩
  | .fn head _ _ | .prototype head => ⟨.function, head.name⟩
  | .letDecl _ name isMut written _ => ⟨.letDecl, isMut, name, written.map WrittenType.spelling⟩
  | .ret .. => ⟨.ret, ()⟩
  | .block .. => ⟨.block, ()⟩
  | .ifElse .. => ⟨.branch, ()⟩
  | .whileLoop .. => ⟨.whileLoop, ()⟩
  | .forLoop .. => ⟨.forLoop, ()⟩
  | .expr .. => ⟨.effect, ()⟩

theorem Complete.isClear_label {s : Stmt} (h : s.Complete) (ht : s.isTidy = true) :
    s.label.IsClear := by
  cases h with
  | fn =>
    simp only [isTidy, FnHead.isTidy, Bool.and_eq_true] at ht
    exact ht.1.1.1
  | letDecl =>
    simp only [isTidy, Bool.and_eq_true] at ht
    refine ⟨ht.1.1, fun a ha => ?_⟩
    obtain ⟨b, hb, rfl⟩ := Option.map_eq_some_iff.mp ha
    exact Option.all_eq_true _ _ |>.mp ht.1.2 b hb
  | ret | block | ifOnly | ifElse | whileLoop | forLoop | expr => trivial

mutual
def outline : Stmt → Outline
  | .absent => .node "" []
  | .fn head _ body => head.outline [.node "Body:" [.node "Block" (outlines body)]]
  | .prototype head => head.outline []
  | .letDecl p name isMut written value =>
    .node (label (.letDecl p name isMut written value)).text value.outlineIfAny
  | .ret _ value => .node "Return" value.outlineIfAny
  | .block _ body => .node "Block" (outlines body)
  | .ifElse _ condition yes no =>
    .node "If" (.node "Condition:" [condition.outline] :: .node "Then:" [yes.outline] ::
      under "Else:" (if no.isAbsent then [] else [no.outline]))
  | .whileLoop _ condition body =>
    .node "While" [.node "Condition:" [condition.outline], .node "Body:" [body.outline]]
  | .forLoop _ init condition step body =>
    .node "For" (under "Init:" (if init.isAbsent then [] else [init.outline]) ++
      (under "Condition:" condition.outlineIfAny ++ (under "Increment:" step.outlineIfAny ++
        [.node "Body:" [body.outline]])))
  | .expr _ value => .node "ExprStmt" [value.outline]
def outlines : List Stmt → List Outline
  | [] => []
  | s :: rest => s.outline :: outlines rest
end

theorem outlines_eq_map (body : List Stmt) : outlines body = body.map outline := by
  induction body with
  | nil => rfl
  | cons s rest ih => rw [outlines, ih, List.map_cons]

theorem text_outline (s : Stmt) : s.outline.text = s.label.text := by
  cases s <;> rfl

theorem printAll_outlines {body : List Stmt} (level : Nat)
    (h : ∀ s ∈ body, s.outline.print level = s.print level) :
    Outline.printAll level (outlines body) = printAll level body := by
  induction body with
  | nil => rfl
  | cons s rest ih =>
    rw [List.forall_mem_cons] at h
    simp only [outlines, Outline.printAll, printAll, h.1, ih h.2]

theorem Complete.not_isAbsent {s : Stmt} (h : s.Complete) : s.isAbsent = false := by
  cases h <;> rfl

def outlineIfAny (s : Stmt) : List Outline := if s.isAbsent then [] else [s.outline]

theorem Complete.outlineIfAny {s : Stmt} (h : s.Complete) : s.outlineIfAny = [s.outline] := by
  rw [Stmt.outlineIfAny, h.not_isAbsent]
  rfl

theorem print_outline {s : Stmt} (h : s.Complete) (level : Nat) :
    s.outline.print level = s.print level := by
  induction h generalizing level with
  | fn _ _ hbody =>
    have hbelow := printAll_outlines (level + 3) fun s hs => hbody s hs (level + 3)
    rw [outline, print, FnHead.print_outline]
    simp [Outline.print, Outline.printAll, hbelow, String.append_assoc]
  | @letDecl _ _ isMut written _ hvalue =>
    simp only [outline, print, Outline.print, Expr.printAll_outlineIfAny hvalue]
    cases isMut <;> cases written <;> simp [label, Label.text, Word.text, Word.write, marked, typed,
      WrittenType.spelling, WrittenType.text, ← String.append_assoc]
  | ret hvalue =>
    rw [outline, print, Outline.print, Expr.printAll_outlineIfAny hvalue]
  | block _ hbody =>
    have hbelow := printAll_outlines (level + 1) fun s hs => hbody s hs (level + 1)
    rw [outline, print, Outline.print, hbelow]
  | ifOnly hc _ hyes =>
    rw [outline, print]
    simp [isAbsent, under, Outline.print, Outline.printAll, Expr.print_outline hc, hyes,
      String.append_assoc]
  | ifElse hc _ _ hyes hno =>
    rw [outline, print]
    simp [isAbsent, under, Outline.print, Outline.printAll, Expr.print_outline hc, hyes, hno,
      String.append_assoc]
  | whileLoop hc _ hbody =>
    rw [outline, print]
    simp [Outline.print, Outline.printAll, Expr.print_outline hc, hbody, String.append_assoc]
  | @forLoop init _ _ _ _ _ hcomplete hc hstep _ hinit hbody =>
    have hstart : Outline.printAll (level + 1) (under "Init:" init.outlineIfAny) =
        if init.isAbsent then "" else treeLine (level + 1) "Init:" ++ init.print (level + 2) := by
      by_cases habsent : init = .absent
      · rw [habsent]
        rfl
      · have hpresent := hcomplete habsent
        simp [hpresent.outlineIfAny, hpresent.not_isAbsent, under, Outline.printAll, Outline.print,
          hinit habsent]
    rw [outline, print, Outline.print, Outline.printAll_append, Outline.printAll_append,
      Outline.printAll_append, Expr.printAll_under hc, Expr.printAll_under hstep]
    simp [Outline.print, Outline.printAll, hbody, String.append_assoc, ← hstart, outlineIfAny]
  | expr he =>
    rw [outline, print]
    simp [Outline.print, Outline.printAll, Expr.print_outline he]

-- ---------------------------------------------------------------------------
-- Statements by their outlines
-- ---------------------------------------------------------------------------

theorem allLined_outlines {body : List Stmt} (h : ∀ s ∈ body, s.outline.IsLined) :
    Outline.AllLined (outlines body) := by
  rw [outlines_eq_map, Outline.allLined_iff, List.forall_mem_map]
  exact h

theorem allLined_outlineIfAny {s : Stmt} (h : s ≠ .absent → s.outline.IsLined) :
    Outline.AllLined s.outlineIfAny := by
  unfold outlineIfAny
  split
  · trivial
  · rename_i hpresent
    refine ⟨h ?_, trivial⟩
    rintro rfl
    exact hpresent rfl

theorem isLined_outline {s : Stmt} (h : s.Complete) (ht : s.isTidy = true) :
    s.outline.IsLined := by
  induction h with
  | fn _ _ hbody =>
    simp only [isTidy, Bool.and_eq_true, allTidy_eq_true] at ht
    have hbelow := allLined_outlines fun s hs => hbody s hs (ht.2 s hs)
    rw [outline]
    exact FnHead.isLined_outline ht.1
      ⟨⟨by decide, ⟨by decide, hbelow⟩, trivial⟩, trivial⟩
  | letDecl hvalue =>
    have hline := ((Complete.letDecl hvalue).isClear_label ht).isLine
    simp only [isTidy, Bool.and_eq_true] at ht
    rw [outline]
    exact ⟨hline, Expr.allLined_outlineIfAny hvalue ht.2⟩
  | ret hvalue =>
    rw [isTidy] at ht
    rw [outline]
    exact ⟨by decide, Expr.allLined_outlineIfAny hvalue ht⟩
  | block _ hbody =>
    rw [isTidy, allTidy_eq_true] at ht
    rw [outline]
    exact ⟨by decide, allLined_outlines fun s hs => hbody s hs (ht s hs)⟩
  | ifOnly hc _ hyes =>
    rw [isTidy, Bool.and_eq_true, Bool.and_eq_true] at ht
    rw [outline]
    exact ⟨by decide, ⟨by decide, Expr.isLined_outline hc ht.1.1, trivial⟩,
      ⟨by decide, hyes ht.1.2, trivial⟩, trivial⟩
  | ifElse hc _ _ hyes hno =>
    rw [isTidy, Bool.and_eq_true, Bool.and_eq_true] at ht
    rw [outline]
    exact ⟨by decide, ⟨by decide, Expr.isLined_outline hc ht.1.1, trivial⟩,
      ⟨by decide, hyes ht.1.2, trivial⟩, ⟨by decide, hno ht.2, trivial⟩, trivial⟩
  | whileLoop hc _ hbody =>
    rw [isTidy, Bool.and_eq_true] at ht
    rw [outline]
    exact ⟨by decide, ⟨by decide, Expr.isLined_outline hc ht.1, trivial⟩,
      ⟨by decide, hbody ht.2, trivial⟩, trivial⟩
  | forLoop _ hc hstep _ hinit hbody =>
    rw [isTidy, Bool.and_eq_true, Bool.and_eq_true, Bool.and_eq_true] at ht
    obtain ⟨⟨⟨hi, hct⟩, hst⟩, hbt⟩ := ht
    have hstart := allLined_outlineIfAny fun hne => hinit hne hi
    have hcondition := Expr.allLined_outlineIfAny hc hct
    have hincrement := Expr.allLined_outlineIfAny hstep hst
    rw [outline]
    refine ⟨by decide, ?_⟩
    simp only [Outline.allLined_append]
    exact ⟨.under (by decide) hstart, .under (by decide) hcondition, .under (by decide) hincrement,
      ⟨by decide, hbody hbt, trivial⟩, trivial⟩
  | expr he =>
    rw [isTidy] at ht
    rw [outline]
    exact ⟨by decide, Expr.isLined_outline he ht, trivial⟩

theorem unplaced_eq_of_outlineIfAny {s s' : Stmt} (h : s ≠ .absent → s.Complete)
    (h' : s' ≠ .absent → s'.Complete) (heq : s.outlineIfAny = s'.outlineIfAny)
    (himp : s ≠ .absent → s' ≠ .absent → s.outline = s'.outline → s.unplaced = s'.unplaced) :
    s.unplaced = s'.unplaced := by
  by_cases hs : s = .absent
  · subst hs
    by_cases hs' : s' = .absent
    · rw [hs']
    · rw [(h' hs').outlineIfAny] at heq
      cases heq
  · rw [(h hs).outlineIfAny] at heq
    by_cases hs' : s' = .absent
    · subst hs'
      cases heq
    · rw [(h' hs').outlineIfAny] at heq
      exact himp hs hs' (List.cons.inj heq).1

theorem unplacedAll_eq_of_outlines {body body' : List Stmt} (heq : outlines body = outlines body')
    (himp : ∀ s ∈ body, ∀ s' ∈ body', s.outline = s'.outline → s.unplaced = s'.unplaced) :
    unplacedAll body = unplacedAll body' := by
  rw [outlines_eq_map, outlines_eq_map] at heq
  rw [unplacedAll_eq_map, unplacedAll_eq_map]
  exact map_eq_map_of_imp heq himp

theorem label_eq_of_outline {s s' : Stmt} (h : s.Complete) (h' : s'.Complete)
    (ht : s.isTidy = true) (ht' : s'.isTidy = true) (heq : s.outline = s'.outline) :
    s.label = s'.label := by
  apply Label.text_injective (h.isClear_label ht) (h'.isClear_label ht')
  rw [← text_outline, ← text_outline, heq]

section
variable {e e' step step' : Expr} {yes yes' no no' init init' body body' : Stmt}

theorem unplaced_ifElse (heq : (ifElse p e yes no).outline = (ifElse p' e' yes' no').outline)
    (hc : e.outline = e'.outline → e.unplaced = e'.unplaced)
    (hyes : yes.outline = yes'.outline → yes.unplaced = yes'.unplaced)
    (hno : no.outlineIfAny = no'.outlineIfAny → no.unplaced = no'.unplaced) :
    (ifElse p e yes no).unplaced = (ifElse p' e' yes' no').unplaced := by
  rw [outline, outline] at heq
  simp only [Outline.node.injEq, List.cons.injEq, true_and, and_true] at heq
  obtain ⟨hcondition, hthen, helse⟩ := heq
  rw [unplaced, unplaced, hc hcondition, hyes hthen, hno (Outline.under_injective helse)]

theorem unplaced_whileLoop (heq : (whileLoop p e body).outline = (whileLoop p' e' body').outline)
    (hc : e.outline = e'.outline → e.unplaced = e'.unplaced)
    (hbody : body.outline = body'.outline → body.unplaced = body'.unplaced) :
    (whileLoop p e body).unplaced = (whileLoop p' e' body').unplaced := by
  rw [outline, outline] at heq
  simp only [Outline.node.injEq, List.cons.injEq, true_and, and_true] at heq
  rw [unplaced, unplaced, hc heq.1, hbody heq.2]

/-- The clauses come in one order under headings of their own, and the body ends them. -/
theorem unplaced_forLoop
    (heq : (forLoop p init e step body).outline = (forLoop p' init' e' step' body').outline)
    (hinit : init.outlineIfAny = init'.outlineIfAny → init.unplaced = init'.unplaced)
    (hc : e.outlineIfAny = e'.outlineIfAny → e.unplaced = e'.unplaced)
    (hstep : step.outlineIfAny = step'.outlineIfAny → step.unplaced = step'.unplaced)
    (hbody : body.outline = body'.outline → body.unplaced = body'.unplaced) :
    (forLoop p init e step body).unplaced = (forLoop p' init' e' step' body').unplaced := by
  have last {heading : String} (hne : "Body:" ≠ heading) (t : Outline) :
      Outline.Avoids heading [.node "Body:" [t]] := Outline.avoids_singleton hne
  rw [outline, outline] at heq
  obtain ⟨hfirst, hrest⟩ := Outline.under_append_inj
    (.under (by decide) (.under (by decide) (last (by decide) _) _) _)
    (.under (by decide) (.under (by decide) (last (by decide) _) _) _) (Outline.node.inj heq).2
  obtain ⟨hsecond, hrest⟩ := Outline.under_append_inj (.under (by decide) (last (by decide) _) _)
    (.under (by decide) (last (by decide) _) _) hrest
  obtain ⟨hthird, hrest⟩ := Outline.under_append_inj (last (by decide) _) (last (by decide) _) hrest
  simp only [Outline.node.injEq, List.cons.injEq, true_and, and_true] at hrest
  rw [unplaced, unplaced, hinit hfirst, hc hsecond, hstep hthird, hbody hrest]

end

/-- The form is known from the first line, and the parts from what stands below it. -/
theorem unplaced_eq_of_outline {s s' : Stmt} (h : s.Complete) (h' : s'.Complete)
    (ht : s.isTidy = true) (ht' : s'.isTidy = true) (heq : s.outline = s'.outline) :
    s.unplaced = s'.unplaced := by
  have hlabel := label_eq_of_outline h h' ht ht' heq
  cases h with
  | fn _ hbody =>
    cases h' with
    | fn _ hbody' =>
      simp only [isTidy, Bool.and_eq_true, allTidy_eq_true] at ht ht'
      rw [outline, outline] at heq
      obtain ⟨hhead, hblock⟩ := FnHead.unplaced_eq_of_outline ht.1 ht'.1 heq
      have hbelow := (Outline.node.inj (List.cons.inj hblock).1).2
      have hsame := unplacedAll_eq_of_outlines hbelow fun s hs s' hs' =>
        unplaced_eq_of_outline (hbody s hs) (hbody' s' hs') (ht.2 s hs) (ht'.2 s' hs')
      rw [unplaced, unplaced, hhead, hsame]
    | _ => cases hlabel
  | letDecl hvalue =>
    cases h' with
    | letDecl hvalue' =>
      simp only [isTidy, Bool.and_eq_true] at ht ht'
      rw [outline, outline] at heq
      have hsame := Expr.unplaced_eq_of_outlineIfAny hvalue hvalue' ht.2 ht'.2
        (Outline.node.inj heq).2
      obtain ⟨hmut, hrest⟩ := Prod.mk.inj (eq_of_heq (Label.mk.inj hlabel).2)
      obtain ⟨hname, hwritten⟩ := Prod.mk.inj hrest
      rw [unplaced, unplaced, hmut, hname, map_unplaced_of_spelling hwritten, hsame]
    | _ => cases hlabel
  | ret hvalue =>
    cases h' with
    | ret hvalue' =>
      rw [isTidy] at ht ht'
      rw [outline, outline] at heq
      have hsame := Expr.unplaced_eq_of_outlineIfAny hvalue hvalue' ht ht' (Outline.node.inj heq).2
      rw [unplaced, unplaced, hsame]
    | _ => cases hlabel
  | block hbody =>
    cases h' with
    | block hbody' =>
      rw [isTidy, allTidy_eq_true] at ht ht'
      rw [outline, outline] at heq
      have hsame := unplacedAll_eq_of_outlines (Outline.node.inj heq).2 fun s hs s' hs' =>
        unplaced_eq_of_outline (hbody s hs) (hbody' s' hs') (ht s hs) (ht' s' hs')
      rw [unplaced, unplaced, hsame]
    | _ => cases hlabel
  | ifOnly hc hyes =>
    rw [isTidy, Bool.and_eq_true, Bool.and_eq_true] at ht
    cases h' with
    | ifOnly hc' hyes' =>
      rw [isTidy, Bool.and_eq_true, Bool.and_eq_true] at ht'
      exact unplaced_ifElse heq (Expr.unplaced_eq_of_outline hc hc' ht.1.1 ht'.1.1)
        (unplaced_eq_of_outline hyes hyes' ht.1.2 ht'.1.2) fun _ => rfl
    | ifElse hc' hyes' hno' =>
      rw [isTidy, Bool.and_eq_true, Bool.and_eq_true] at ht'
      exact unplaced_ifElse heq (Expr.unplaced_eq_of_outline hc hc' ht.1.1 ht'.1.1)
        (unplaced_eq_of_outline hyes hyes' ht.1.2 ht'.1.2) nofun
    | _ => cases hlabel
  | ifElse hc hyes hno =>
    rw [isTidy, Bool.and_eq_true, Bool.and_eq_true] at ht
    cases h' with
    | ifOnly hc' hyes' =>
      rw [isTidy, Bool.and_eq_true, Bool.and_eq_true] at ht'
      exact unplaced_ifElse heq (Expr.unplaced_eq_of_outline hc hc' ht.1.1 ht'.1.1)
        (unplaced_eq_of_outline hyes hyes' ht.1.2 ht'.1.2) nofun
    | ifElse hc' hyes' hno' =>
      rw [isTidy, Bool.and_eq_true, Bool.and_eq_true] at ht'
      exact unplaced_ifElse heq (Expr.unplaced_eq_of_outline hc hc' ht.1.1 ht'.1.1)
        (unplaced_eq_of_outline hyes hyes' ht.1.2 ht'.1.2) fun hsame =>
          unplaced_eq_of_outline hno hno' ht.2 ht'.2 (List.cons.inj hsame).1
    | _ => cases hlabel
  | whileLoop hc hbody =>
    cases h' with
    | whileLoop hc' hbody' =>
      rw [isTidy, Bool.and_eq_true] at ht ht'
      exact unplaced_whileLoop heq (Expr.unplaced_eq_of_outline hc hc' ht.1 ht'.1)
        (unplaced_eq_of_outline hbody hbody' ht.2 ht'.2)
    | _ => cases hlabel
  | forLoop hinit hc hstep hbody =>
    cases h' with
    | forLoop hinit' hc' hstep' hbody' =>
      rw [isTidy, Bool.and_eq_true, Bool.and_eq_true, Bool.and_eq_true] at ht ht'
      obtain ⟨⟨⟨hit, hct⟩, hst⟩, hbt⟩ := ht
      obtain ⟨⟨⟨hit', hct'⟩, hst'⟩, hbt'⟩ := ht'
      have hstart (hsame : outlineIfAny _ = outlineIfAny _) :=
        unplaced_eq_of_outlineIfAny hinit hinit' hsame fun hne hne' =>
          unplaced_eq_of_outline (hinit hne) (hinit' hne') hit hit'
      exact unplaced_forLoop heq hstart (Expr.unplaced_eq_of_outlineIfAny hc hc' hct hct')
        (Expr.unplaced_eq_of_outlineIfAny hstep hstep' hst hst')
        (unplaced_eq_of_outline hbody hbody' hbt hbt')
    | _ => cases hlabel
  | expr he =>
    cases h' with
    | expr he' =>
      rw [isTidy] at ht ht'
      rw [outline, outline] at heq
      have hbelow := (List.cons.inj (Outline.node.inj heq).2).1
      rw [unplaced, unplaced, Expr.unplaced_eq_of_outline he he' ht ht' hbelow]
    | _ => cases hlabel

end Stmt

end Lanewise
