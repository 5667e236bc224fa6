import Lanewise.Lint.Names
import Lanewise.Proofs.Lint.Walk

/-!
# Names that are read

The names that a body is found to read are those that stand in it other than as what a plain
assignment assigns to (`Stmt.mem_readsOfAll`). The search for them is a walk that passes by those.
-/

namespace Lanewise

namespace ProgramNode

/-- The name is read: it stands somewhere in the node, and not just as what a plain assignment
assigns to. -/
def Reads (n : ProgramNode) (x : String) : Prop :=
  ∃ path pos, n.at? path = some (.expr (.ident pos x)) ∧
    ∀ parent p l r, path = parent ++ [0] → n.at? parent ≠ some (.expr (.binary p .assign l r))

/-- The walk for names that are read passes by what a plain assignment assigns to. -/
def entersRead : ProgramNode → Nat → Bool
  | .expr (.binary _ .assign l _), i => i != 0 || !l.name?.isSome
  | _, _ => true

def namesHere : ProgramNode → List String
  | .expr (.ident _ x) => [x]
  | _ => []

theorem mem_namesHere {m : ProgramNode} : x ∈ m.namesHere ↔ ∃ pos, m = .expr (.ident pos x) := by
  cases m with
  | stmt s => simp [namesHere]
  | expr e => cases e <;> simp [namesHere, eq_comm]

theorem inSight_entersRead {n : ProgramNode} (h : n.at? path = some (.expr (.ident pos x))) :
    n.InSight entersRead path ↔
      ∀ parent p l r, path = parent ++ [0] →
        n.at? parent ≠ some (.expr (.binary p .assign l r)) := by
  constructor
  · rintro hsight parent p l r rfl hparent
    have hl : l = .ident pos x := by
      simpa [at?_append, hparent, at?, children, Expr.children] using h
    have hentered := hsight parent 0 [] _ rfl hparent
    simp [entersRead, hl, Expr.name?] at hentered
  · intro htarget before i after m hpath hm
    unfold entersRead
    split
    · rename_i p l r
      by_contra hpassed
      simp only [Bool.or_eq_true, bne_iff_ne, ne_eq, Bool.not_eq_true', not_or, not_not,
        Bool.not_eq_false] at hpassed
      obtain ⟨rfl, hl⟩ := hpassed
      -- The name that is passed by is where the path ends.
      have hafter : after = [] := by
        rw [hpath, at?_append, hm] at h
        exact at?_name hl h
      exact htarget before p l r (by rw [hpath, hafter]) hm
    · rfl

theorem mem_gather_names {n : ProgramNode} : x ∈ n.gather entersRead namesHere ↔ n.Reads x := by
  rw [mem_gather, Reads]
  constructor
  · rintro ⟨path, m, hm, hsight, hx⟩
    obtain ⟨pos, rfl⟩ := mem_namesHere.mp hx
    exact ⟨path, pos, hm, (inSight_entersRead hm).mp hsight⟩
  · rintro ⟨path, pos, hm, htarget⟩
    exact ⟨path, _, hm, (inSight_entersRead hm).mpr htarget, mem_namesHere.mpr ⟨pos, rfl⟩⟩

end ProgramNode

open ProgramNode

namespace Expr

mutual
theorem reads_eq : (e : Expr) → e.reads = (ProgramNode.expr e).gather entersRead namesHere
  | .absent | .int .. | .float .. | .bool .. | .string .. | .ident .. => by
    rw [gather_all fun _ => rfl]
    rfl
  | .binary p op l r => by
    by_cases htarget : l.name?.isSome = true ∧ op = .assign
    · obtain ⟨hl, rfl⟩ := htarget
      have first : (ProgramNode.expr (.binary p .assign l r)).children = [.expr l, .expr r] := rfl
      rw [gather_tail first (by simp [entersRead, hl])]
      simp [reads, hl, reads_eq r, namesHere]
    · have hall (i : Nat) : entersRead (.expr (.binary p op l r)) i = true := by
        unfold entersRead
        split <;> simp_all
      rw [gather_all hall]
      simp_all [reads, reads_eq l, reads_eq r, namesHere, ProgramNode.children, children]
  | .lanewise _ _ l r | .broadcast _ _ l r | .dot _ l r | .store _ l r | .index _ l r => by
    rw [gather_all fun _ => rfl, reads, reads_eq l, reads_eq r]
    simp [namesHere, ProgramNode.children, children]
  | .unary _ _ e | .group _ e | .field _ e _ | .reduce _ _ e | .swizzle _ e _ | .load _ e _ => by
    rw [gather_all fun _ => rfl, reads, reads_eq e]
    simp [namesHere, ProgramNode.children, children]
  | .call _ f args => by
    rw [gather_all fun _ => rfl, reads, reads_eq f, readsOfAll_eq args]
    simp [namesHere, ProgramNode.children, children]
  | .vector _ es _ => by
    rw [gather_all fun _ => rfl, reads, readsOfAll_eq es]
    simp [namesHere, ProgramNode.children, children]
theorem readsOfAll_eq : (es : List Expr) →
    readsOfAll es = (es.map ProgramNode.expr).flatMap (·.gather entersRead namesHere)
  | [] => rfl
  | e :: es => by rw [readsOfAll, reads_eq e, readsOfAll_eq es, List.map_cons, List.flatMap_cons]
end

end Expr

namespace Stmt

mutual
theorem reads_eq : (s : Stmt) → s.reads = (ProgramNode.stmt s).gather entersRead namesHere
  | .absent | .prototype _ => by
    rw [gather_all fun _ => rfl]
    rfl
  | .fn _ _ body | .block _ body => by
    rw [gather_all fun _ => rfl, reads, readsOfAll_eq body]
    rfl
  | .letDecl _ _ _ _ value | .ret _ value | .expr _ value => by
    rw [gather_all fun _ => rfl, reads, value.reads_eq]
    simp [namesHere, ProgramNode.children]
  | .ifElse _ condition yes no => by
    rw [gather_all fun _ => rfl, reads, condition.reads_eq, reads_eq yes, reads_eq no]
    simp [namesHere, ProgramNode.children]
  | .whileLoop _ condition body => by
    rw [gather_all fun _ => rfl, reads, condition.reads_eq, reads_eq body]
    simp [namesHere, ProgramNode.children]
  | .forLoop _ init condition step body => by
    rw [gather_all fun _ => rfl, reads, reads_eq init, condition.reads_eq, step.reads_eq,
      reads_eq body]
    simp [namesHere, ProgramNode.children]
theorem readsOfAll_eq : (body : List Stmt) →
    readsOfAll body = (body.map ProgramNode.stmt).flatMap (·.gather entersRead namesHere)
  | [] => rfl
  | s :: rest => by
    rw [readsOfAll, reads_eq s, readsOfAll_eq rest, List.map_cons, List.flatMap_cons]
end

theorem mem_readsOfAll {body : List Stmt} :
    x ∈ readsOfAll body ↔ (ProgramNode.ofStmts body).Reads x := by
  rw [← mem_gather_names, ProgramNode.ofStmts, ← reads_eq, reads]

end Stmt

end Lanewise
