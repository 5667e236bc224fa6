import Lanewise.Proofs.Context.Laws

/-!
# Scopes as copies

A reference for contexts: entering a scope copies what is known of names, leaving it throws the
copy away, and going back to a mark restores the maps as they were there. `run_sees` says that a
context, which keeps all bindings in one list and cuts it, cannot be told from the reference, and
that no scope ever starts behind the end of the list.

A mark may be gone back to only in the scope in which it was taken, as long as that scope has not
gone back to an earlier mark. `LiveMarks` keeps count of the marks for which this holds.
-/

namespace Lanewise

/-- What is done to a context. Marks are numbered in the order in which they are taken. -/
inductive ContextOp
  | defineVariable (s : Symbol)
  | defineFunction (name : String) (sig : Option Signature)
  | push
  | enter (ret : Ty)
  | pop
  | declareOpaque (name : String)
  | mark
  | rollback (number : Nat)
  deriving Repr

structure MarkedContext where
  context : Context := .initial
  marks : List Nat := []

def MarkedContext.step (m : MarkedContext) : ContextOp → MarkedContext
  | .defineVariable s => { m with context := m.context.defineVariable s }
  | .defineFunction name sig => { m with context := m.context.defineFunction name sig }
  | .push => { m with context := m.context.push }
  | .enter ret => { m with context := m.context.enter ret }
  | .pop => { m with context := m.context.pop }
  | .declareOpaque name => { m with context := m.context.declareOpaque name }
  | .mark => { m with marks := m.marks ++ [m.context.mark] }
  | .rollback number =>
    match m.marks[number]? with
    | some mark => { m with context := m.context.rollback mark }
    | none => m

def MarkedContext.run (ops : List ContextOp) : MarkedContext := ops.foldl step {}

structure CopiedScope where
  vars : String → Option Symbol := fun _ => none
  fns : String → Option Ty :=
    fun name => (Context.builtins.lookup name).map fun sig => .ofSignature (some sig)
  returns : Option Ty := none

/-- The reference: scopes are copies of the scope around them. -/
structure CopiedContext where
  current : CopiedScope := {}
  around : List CopiedScope := []
  isOpaque : String → Bool := fun _ => false
  marks : List CopiedScope := []

namespace CopiedContext

def step (r : CopiedContext) : ContextOp → CopiedContext
  | .defineVariable s =>
    let bound := if s.kind.isFunction then { s with kind := .variable } else s
    { r with current.vars := Function.update r.current.vars s.name (some bound) }
  | .defineFunction name sig =>
    { r with current.fns := Function.update r.current.fns name (some (.ofSignature sig)) }
  | .push => { r with around := r.current :: r.around }
  | .enter ret =>
    -- Without a return type the scope keeps the one it copied.
    let returns := if ret.isAbsent then r.current.returns else some ret
    { r with current.returns := returns, around := r.current :: r.around }
  | .pop =>
    match r.around with
    | [] => r
    | scope :: around => { r with current := scope, around }
  | .declareOpaque name => { r with isOpaque := Function.update r.isOpaque name true }
  | .mark => { r with marks := r.marks ++ [r.current] }
  | .rollback number =>
    match r.marks[number]? with
    | some scope =>
      { r with current.vars := scope.vars, current.fns := scope.fns }
    | none => r

def run (ops : List ContextOp) : CopiedContext := ops.foldl step {}

def depth (r : CopiedContext) : Nat := r.around.length + 1

end CopiedContext

/-- The numbers of the marks that each open scope may go back to. -/
structure LiveMarks where
  inner : List Nat := []
  around : List (List Nat) := []
  taken : Nat := 0
  deriving DecidableEq, Repr

/-- Nothing comes out for a mark that may not be gone back to. Going back ends the marks taken
since. -/
def LiveMarks.step? (l : LiveMarks) : ContextOp → Option LiveMarks
  | .push | .enter _ => some { l with inner := [], around := l.inner :: l.around }
  | .pop =>
    match l.around with
    | [] => some l
    | inner :: around => some { l with inner, around }
  | .mark => some { l with inner := l.taken :: l.inner, taken := l.taken + 1 }
  | .rollback number =>
    if number ∈ l.inner then some { l with inner := l.inner.filter (· ≤ number) } else none
  | _ => some l

/-- Every mark is gone back to in the scope in which it was taken, and before that scope goes back
to an earlier one. -/
def Disciplined (ops : List ContextOp) : Prop := (ops.foldlM LiveMarks.step? {}).isSome

instance (ops : List ContextOp) : Decidable (Disciplined ops) :=
  inferInstanceAs (Decidable ((ops.foldlM LiveMarks.step? {}).isSome = true))

/-- Whatever can be asked of a context has the same answer in the reference. -/
structure Sees (c : Context) (r : CopiedContext) : Prop where
  variableNamed (name : String) : c.variableNamed? name = r.current.vars name
  functionNamed (name : String) : c.functionNamed? name = r.current.fns name
  visibleVariables : Lists c.visibleVariables fun name => (r.current.vars name).map (·.ty)
  visibleFunctions : Lists c.visibleFunctions r.current.fns
  returns : c.returnType? = r.current.returns
  isOpaque (name : String) : c.isOpaque name = r.isOpaque name
  depth : c.depth = r.depth

namespace Context

def starts (c : Context) : List Nat := 0 :: c.frames.reverse.map (·.start)

/-- Scopes start at or behind the start of the scope around them and not behind the last binding,
so that closing one leaves exactly the bindings it found. -/
structure WellNested (c : Context) : Prop where
  first : c.starts.head? = some 0
  ordered : c.starts.Pairwise (· ≤ ·)
  within (start : Nat) : start ∈ c.starts → start ≤ c.mark
  popped (frame : Frame) (around : List Frame) :
    c.frames = frame :: around → c.pop.mark = frame.start

def scope (c : Context) : CopiedScope := ⟨c.variableNamed?, c.functionNamed?, c.returnType?⟩

def base (c : Context) : Nat :=
  match c.frames with
  | [] => 0
  | frame :: _ => frame.start

theorem scope_initial : initial.scope = {} := by
  simp only [scope, variableNamed?_initial, functionNamed?_initial]
  rfl

theorem scope_defineVariable (c : Context) (s : Symbol) :
    (c.defineVariable s).scope =
      { c.scope with
        vars := Function.update c.scope.vars s.name (some (asVariable s)) } := by
  simp only [scope, variableNamed?_defineVariable, functionNamed?_defineVariable]
  rfl

theorem scope_defineFunction (c : Context) :
    (c.defineFunction name sig).scope =
      { c.scope with
        fns := Function.update c.scope.fns name (some (.ofSignature sig)) } := by
  simp only [scope, variableNamed?_defineFunction, functionNamed?_defineFunction]
  rfl

theorem scope_enter (c : Context) (ret : Ty) :
    (c.enter ret).scope =
      { c.scope with returns := if ret.isAbsent then c.returnType? else some ret } := by
  cases h : ret.isAbsent <;> simp [scope, enter, returnType?, h] <;> exact ⟨rfl, rfl⟩

-- ---------------------------------------------------------------------------
-- Cutting the list of bindings
-- ---------------------------------------------------------------------------

theorem mark_keep {c : Context} (h : n ≤ c.mark) : (c.keep n).mark = n := by
  simp only [keep, mark, List.length_drop] at h ⊢
  omega

theorem keep_keep {c : Context} (hm : m ≤ n) (hn : n ≤ c.mark) :
    (c.keep n).keep m = c.keep m := by
  have cut : (c.keep n).mark - m + (c.mark - n) = c.mark - m := by
    rw [mark_keep hn]
    omega
  simp only [mark, keep] at cut
  simp only [keep, List.drop_drop]
  rw [Nat.add_comm, cut]

theorem keep_define {c : Context} (h : n ≤ c.mark) : (c.define s).keep n = c.keep n := by
  simp only [mark] at h
  have cut : (s :: c.symbols).length - n = c.symbols.length - n + 1 := by
    simp only [List.length_cons]
    omega
  simp only [define, keep, cut, List.drop_succ_cons]

theorem rollback_eq_keep {c : Context} {n : Nat} (h : n ≤ c.mark) : c.rollback n = c.keep n := by
  by_cases all : n = c.mark
  · subst all
    simp [rollback]
  · have ahead : ¬((n : Int) < 0 ∨ (c.mark : Int) ≤ n) := by omega
    simp only [rollback, Bool.or_eq_true, decide_eq_true_eq, if_neg ahead, Int.toNat_natCast]

theorem pop_of_frames {c : Context} (h : c.frames = frame :: around) :
    c.pop = { c.keep frame.start with frames := around } := by
  simp only [pop, h]

/-- Two contexts with the same open scopes look the same once the innermost is closed, if they
have the same bindings before its start. -/
theorem pop_congr {c c' : Context} (hframes : c'.frames = c.frames)
    (hopened : c.frames = frame :: around)
    (hkeep : c'.keep frame.start = c.keep frame.start) : c'.pop = c.pop := by
  rw [pop_of_frames hopened, pop_of_frames (hframes.trans hopened), hkeep]

end Context

open Context

-- ---------------------------------------------------------------------------
-- Marks
-- ---------------------------------------------------------------------------

/-- The mark lies in the innermost scope, and the reference has saved the maps of the bindings in
front of it. -/
def MarkAgrees (marks : List Nat) (saved : List CopiedScope) (c : Context) (number : Nat) : Prop :=
  ∃ mark scope, marks[number]? = some mark ∧ saved[number]? = some scope ∧
    c.base ≤ mark ∧ mark ≤ c.mark ∧
    scope.vars = (c.keep mark).variableNamed? ∧
    scope.fns = (c.keep mark).functionNamed?

structure MarksAgree (marks : List Nat) (saved : List CopiedScope) (c : Context)
    (live : List Nat) : Prop where
  each : ∀ number ∈ live, MarkAgrees marks saved c number
  ordered : ∀ m ∈ live, ∀ n ∈ live, m ≤ n → ∀ u v, marks[m]? = some u → marks[n]? = some v → u ≤ v

section
variable {marks : List Nat} {saved : List CopiedScope} {c c' : Context} {live : List Nat}

theorem MarksAgree.nil : MarksAgree marks saved c [] :=
  ⟨fun _ h => (nomatch h), fun _ h => (nomatch h)⟩

theorem MarkAgrees.congr (h : MarkAgrees marks saved c number) (hbase : c'.base = c.base)
    (hkeep : ∀ mark, marks[number]? = some mark → mark ≤ c'.mark ∧ c'.keep mark = c.keep mark) :
    MarkAgrees marks saved c' number := by
  obtain ⟨mark, scope, hmark, hscope, hlow, -, hvariables, hfunctions⟩ := h
  obtain ⟨hhigh, hsame⟩ := hkeep mark hmark
  refine ⟨mark, scope, hmark, hscope, hbase ▸ hlow, hhigh, ?_, ?_⟩
  · rw [hsame, hvariables]
  · rw [hsame, hfunctions]

theorem MarksAgree.define (h : MarksAgree marks saved c live) :
    MarksAgree marks saved (c.define s) live := by
  refine ⟨fun number hn => (h.each number hn).congr rfl fun mark hmark => ?_, h.ordered⟩
  obtain ⟨mark', _, hmark', -, -, hhigh, -⟩ := h.each number hn
  obtain rfl : mark = mark' := Option.some.inj (hmark.symm.trans hmark')
  exact ⟨Nat.le_succ_of_le hhigh, keep_define hhigh⟩

theorem MarksAgree.rollback (h : MarksAgree marks saved c live) (hn : n ∈ live)
    (hv : marks[n]? = some v) (hhigh : v ≤ c.mark) :
    MarksAgree marks saved (c.keep v) (live.filter (· ≤ n)) := by
  refine ⟨fun number hmem => ?_, fun m hm k hk => ?_⟩
  · obtain ⟨hmem, hle⟩ := List.mem_filter.mp hmem
    refine (h.each number hmem).congr rfl fun mark hmark => ?_
    have before : mark ≤ v := h.ordered number hmem n hn (by simpa using hle) _ _ hmark hv
    exact ⟨by rwa [mark_keep hhigh], keep_keep before hhigh⟩
  · exact h.ordered m (List.mem_filter.mp hm).1 k (List.mem_filter.mp hk).1

theorem getElem?_append_of_some {l : List α} {n : Nat} (h : l[n]? = some a) :
    (l ++ [b])[n]? = some a := by
  rw [List.getElem?_append_left (List.getElem?_eq_some_iff.mp h).1, h]

theorem MarksAgree.append (h : MarksAgree marks saved c live) (new : Nat) (scope : CopiedScope) :
    MarksAgree (marks ++ [new]) (saved ++ [scope]) c live := by
  refine ⟨fun number hn => ?_, fun m hm n hn hle u v hu hv => ?_⟩
  · obtain ⟨_, _, hmark, hscope, rest⟩ := h.each number hn
    exact ⟨_, _, getElem?_append_of_some hmark, getElem?_append_of_some hscope, rest⟩
  · obtain ⟨u', _, hu', -⟩ := h.each m hm
    obtain ⟨v', _, hv', -⟩ := h.each n hn
    rw [getElem?_append_of_some hu'] at hu
    rw [getElem?_append_of_some hv'] at hv
    cases hu
    cases hv
    exact h.ordered m hm n hn hle _ _ hu' hv'

theorem MarksAgree.take (h : MarksAgree marks saved c live) (hbase : c.base ≤ c.mark)
    (hmarks : marks.length = taken) (hsaved : saved.length = taken) :
    MarksAgree (marks ++ [c.mark]) (saved ++ [c.scope]) c (taken :: live) := by
  have last : (marks ++ [c.mark])[taken]? = some c.mark := by simp [← hmarks]
  have old := h.append c.mark c.scope
  refine ⟨?_, ?_⟩
  · intro number hn
    rcases List.mem_cons.mp hn with rfl | hn
    · refine ⟨c.mark, c.scope, last, by simp [← hsaved], hbase, Nat.le_refl _, ?_, ?_⟩
      · rw [keep_mark, Context.scope]
      · rw [keep_mark, Context.scope]
    · exact old.each number hn
  · intro m hm n hn hle u v hu hv
    rcases List.mem_cons.mp hn with rfl | hn'
    · obtain rfl : c.mark = v := Option.some.inj (last.symm.trans hv)
      rcases List.mem_cons.mp hm with rfl | hm'
      · exact Nat.le_of_eq (Option.some.inj (hu.symm.trans hv))
      · obtain ⟨u', _, hu', -, -, hhigh, -⟩ := old.each m hm'
        obtain rfl : u = u' := Option.some.inj (hu.symm.trans hu')
        exact hhigh
    · rcases List.mem_cons.mp hm with rfl | hm'
      -- The new mark has the largest number, so it is not the earlier one of two.
      · obtain ⟨_, _, hv', -⟩ := h.each n hn'
        have := (List.getElem?_eq_some_iff.mp hv').1
        omega
      · exact old.ordered m hm' n hn' hle u v hu hv

end

-- ---------------------------------------------------------------------------
-- Scopes
-- ---------------------------------------------------------------------------

/-- The reference has the scopes that closing one scope after the other brings to light. -/
inductive Agrees (marks : List Nat) (saved : List CopiedScope) :
    Context → List CopiedScope → List (List Nat) → Prop
  | outermost {c live} (hframes : c.frames = []) (hmarks : MarksAgree marks saved c live) :
      Agrees marks saved c [c.scope] [live]
  | nested {c frame around live scopes lives} (hframes : c.frames = frame :: around)
      (hstart : frame.start ≤ c.mark) (hmarks : MarksAgree marks saved c live)
      (haround : Agrees marks saved c.pop scopes lives) :
      Agrees marks saved c (c.scope :: scopes) (live :: lives)

section
variable {marks : List Nat} {saved : List CopiedScope} {c c' : Context} {current : CopiedScope}
  {scopes : List CopiedScope} {live : List Nat} {lives : List (List Nat)}

theorem Agrees.liveMarks (h : Agrees marks saved c scopes (live :: lives)) :
    MarksAgree marks saved c live := by
  cases h with
  | outermost _ hmarks => exact hmarks
  | nested _ _ hmarks _ => exact hmarks

theorem Agrees.base_le (h : Agrees marks saved c scopes lives) : c.base ≤ c.mark := by
  cases h with
  | outermost hframes _ => simp [base, hframes]
  | nested hframes hstart _ _ => simpa [base, hframes] using hstart

theorem Agrees.current_eq (h : Agrees marks saved c (current :: scopes) lives) :
    current = c.scope := by
  cases h <;> rfl

theorem Agrees.inner (h : Agrees marks saved c (current :: scopes) (live :: lives))
    (hframes : c'.frames = c.frames) (hbase : c.base ≤ c'.mark)
    (hkeep : c'.keep c.base = c.keep c.base) (hmarks : MarksAgree marks saved c' live') :
    Agrees marks saved c' (c'.scope :: scopes) (live' :: lives) := by
  cases h with
  | outermost hnone _ => exact .outermost (hframes.trans hnone) hmarks
  | nested hopened _ _ haround =>
    simp only [base, hopened] at hbase hkeep
    refine .nested (hframes.trans hopened) hbase hmarks ?_
    rwa [pop_congr hframes hopened hkeep]

theorem Agrees.append (h : Agrees marks saved c scopes lives) (new : Nat) (scope : CopiedScope) :
    Agrees (marks ++ [new]) (saved ++ [scope]) c scopes lives := by
  induction h with
  | outermost hframes hmarks => exact .outermost hframes (hmarks.append new scope)
  | nested hframes hstart hmarks _ ih => exact .nested hframes hstart (hmarks.append new scope) ih

theorem Agrees.declareOpaque (h : Agrees marks saved c scopes lives) (name : String) :
    Agrees marks saved (c.declareOpaque name) scopes lives := by
  induction h with
  | @outermost c live hframes hmarks =>
    exact .outermost (c := c.declareOpaque name) hframes ⟨hmarks.each, hmarks.ordered⟩
  | @nested c _ _ live _ _ hframes hstart hmarks _ ih =>
    refine .nested (c := c.declareOpaque name) hframes hstart ⟨hmarks.each, hmarks.ordered⟩ ?_
    rw [pop_of_frames hframes] at ih
    rw [pop_of_frames (c := c.declareOpaque name) hframes]
    exact ih

theorem Agrees.push (h : Agrees marks saved c scopes lives) :
    Agrees marks saved c.push (c.push.scope :: scopes) ([] :: lives) := by
  refine .nested (c := c.push) rfl (Nat.le_refl _) .nil ?_
  rwa [pop_push]

theorem Agrees.enter (h : Agrees marks saved c scopes lives) (ret : Ty) :
    Agrees marks saved (c.enter ret) ((c.enter ret).scope :: scopes) ([] :: lives) := by
  refine .nested (c := c.enter ret) rfl (Nat.le_refl _) .nil ?_
  rwa [pop_enter]

theorem Agrees.pop (h : Agrees marks saved c (current :: scopes) (live :: lives)) :
    (scopes = [] ∧ lives = [] ∧ c.pop = c) ∨
      ∃ scope scopes' live' lives', scopes = scope :: scopes' ∧ lives = live' :: lives' ∧
        Agrees marks saved c.pop (scope :: scopes') (live' :: lives') := by
  cases h with
  | outermost hframes _ => exact .inl ⟨rfl, rfl, by simp [Context.pop, hframes]⟩
  | nested _ _ _ haround =>
    cases haround with
    | outermost hframes hmarks => exact .inr ⟨_, _, _, _, rfl, rfl, .outermost hframes hmarks⟩
    | nested hframes hstart hmarks haround =>
      exact .inr ⟨_, _, _, _, rfl, rfl, .nested hframes hstart hmarks haround⟩

theorem Agrees.define (h : Agrees marks saved c (current :: scopes) (live :: lives)) (s : Symbol) :
    Agrees marks saved (c.define s) ((c.define s).scope :: scopes) (live :: lives) :=
  h.inner rfl (Nat.le_succ_of_le h.base_le) (keep_define h.base_le) h.liveMarks.define

theorem Agrees.rollback (h : Agrees marks saved c (current :: scopes) (live :: lives))
    (hn : n ∈ live) :
    ∃ mark scope, marks[n]? = some mark ∧ saved[n]? = some scope ∧
      scope.vars = (c.rollback mark).variableNamed? ∧
      scope.fns = (c.rollback mark).functionNamed? ∧
      (c.rollback mark).returnType? = c.returnType? ∧
      Agrees marks saved (c.rollback mark) ((c.rollback mark).scope :: scopes)
        (live.filter (· ≤ n) :: lives) := by
  obtain ⟨mark, scope, hmark, hscope, hlow, hhigh, hvariables, hfunctions⟩ := h.liveMarks.each n hn
  refine ⟨mark, scope, hmark, hscope, ?_⟩
  rw [rollback_eq_keep hhigh]
  refine ⟨hvariables, hfunctions, rfl, ?_⟩
  exact h.inner rfl (by rwa [mark_keep hhigh]) (keep_keep hlow hhigh)
    (h.liveMarks.rollback hn hmark hhigh)

theorem Agrees.depth_eq (h : Agrees marks saved c scopes lives) : scopes.length = c.depth := by
  induction h with
  | outermost hframes _ => simp [depth, hframes]
  | nested hframes _ _ _ ih =>
    rw [pop_of_frames hframes] at ih
    simpa [depth, hframes] using ih

theorem Agrees.starts (h : Agrees marks saved c scopes lives) :
    (c.frames.map (·.start)).Pairwise (· ≥ ·) ∧ ∀ frame ∈ c.frames, frame.start ≤ c.mark := by
  induction h with
  | outermost hframes _ => simp [hframes]
  | @nested c frame around _ _ _ hframes hstart _ _ ih =>
    -- Closing the scope leaves as many bindings as it started with.
    have cut : c.pop.mark = frame.start := by
      rw [pop_of_frames hframes]
      exact mark_keep hstart
    have hrest : c.pop.frames = around := by rw [pop_of_frames hframes]
    rw [cut, hrest] at ih
    obtain ⟨hordered, hwithin⟩ := ih
    rw [hframes]
    refine ⟨?_, ?_⟩
    · refine List.pairwise_cons.mpr ⟨?_, hordered⟩
      intro start hmem
      obtain ⟨other, hother, rfl⟩ := List.mem_map.mp hmem
      exact hwithin other hother
    · intro other hmem
      rcases List.mem_cons.mp hmem with rfl | hother
      · exact hstart
      · exact Nat.le_trans (hwithin other hother) hstart

theorem Agrees.wellNested (h : Agrees marks saved c scopes lives) : c.WellNested := by
  obtain ⟨hordered, hwithin⟩ := h.starts
  refine ⟨rfl, ?_, ?_, ?_⟩
  · refine List.pairwise_cons.mpr ⟨fun _ _ => Nat.zero_le _, ?_⟩
    rw [List.map_reverse]
    exact List.pairwise_reverse.mpr hordered
  · intro start hmem
    rcases List.mem_cons.mp hmem with rfl | hmem
    · exact Nat.zero_le _
    · obtain ⟨frame, hframe, rfl⟩ := List.mem_map.mp hmem
      exact hwithin frame (List.mem_reverse.mp hframe)
  · intro frame around hframes
    rw [pop_of_frames hframes]
    exact mark_keep (hwithin frame (hframes ▸ List.mem_cons_self))

end

-- ---------------------------------------------------------------------------
-- Runs
-- ---------------------------------------------------------------------------

structure Simulates (m : MarkedContext) (r : CopiedContext) (l : LiveMarks) : Prop where
  scopes : Agrees m.marks r.marks m.context (r.current :: r.around) (l.inner :: l.around)
  marks : m.marks.length = l.taken
  saved : r.marks.length = l.taken
  isOpaque (name : String) : m.context.isOpaque name = r.isOpaque name

theorem Simulates.initial : Simulates {} {} {} :=
  ⟨scope_initial ▸ .outermost rfl .nil, rfl, rfl, fun _ => rfl⟩

theorem Simulates.step (h : Simulates m r l) (hl : l.step? op = some l') :
    Simulates (m.step op) (r.step op) l' := by
  obtain ⟨c, marks⟩ := m
  obtain ⟨current, around, isOpaque, saved⟩ := r
  obtain ⟨inner, lives, taken⟩ := l
  obtain ⟨hscopes, hmarks, hsaved, hopaque⟩ := h
  dsimp only at hscopes hmarks hsaved hopaque
  obtain rfl := hscopes.current_eq
  cases op with
  | defineVariable s =>
    cases hl
    have now : Agrees marks saved (c.defineVariable s) _ _ := hscopes.define (asVariable s)
    rw [← defineVariable_eq, scope_defineVariable] at now
    exact ⟨now, hmarks, hsaved, hopaque⟩
  | defineFunction name sig =>
    cases hl
    have now : Agrees marks saved (c.defineFunction name sig)
      ((c.defineFunction name sig).scope :: around) _ := hscopes.define _
    rw [scope_defineFunction] at now
    exact ⟨now, hmarks, hsaved, hopaque⟩
  | push =>
    cases hl
    exact ⟨hscopes.push, hmarks, hsaved, hopaque⟩
  | enter ret =>
    cases hl
    have now := hscopes.enter ret
    rw [scope_enter] at now
    exact ⟨now, hmarks, hsaved, hopaque⟩
  | pop =>
    have sameOpaque (name : String) : c.pop.isOpaque name = isOpaque name := by
      rw [Context.isOpaque, opaqueNames_pop]
      exact hopaque name
    rcases hscopes.pop with ⟨rfl, rfl, same⟩ | ⟨scope, scopes', live', lives', rfl, rfl, hpopped⟩
    · cases hl
      refine ⟨?_, hmarks, hsaved, sameOpaque⟩
      simp only [MarkedContext.step, same]
      exact hscopes
    · cases hl
      exact ⟨hpopped, hmarks, hsaved, sameOpaque⟩
  | declareOpaque name =>
    cases hl
    refine ⟨hscopes.declareOpaque name, hmarks, hsaved, fun other => ?_⟩
    by_cases same : other = name
    · simp [MarkedContext.step, CopiedContext.step, Context.isOpaque, Context.declareOpaque, same]
    · have := hopaque other
      simp_all [MarkedContext.step, CopiedContext.step, Context.isOpaque, Context.declareOpaque]
  | mark =>
    cases hl
    have earlier := hscopes.append c.mark c.scope
    have now := earlier.inner rfl hscopes.base_le rfl
      (hscopes.liveMarks.take hscopes.base_le hmarks hsaved)
    exact ⟨now, by simp [MarkedContext.step, hmarks], by simp [CopiedContext.step, hsaved], hopaque⟩
  | rollback n =>
    simp only [LiveMarks.step?] at hl
    split at hl
    · rename_i hn
      cases hl
      obtain ⟨mark, scope, hmark, hscope, hvariables, hfunctions, hreturns, now⟩ :=
        hscopes.rollback hn
      simp only [MarkedContext.step, CopiedContext.step, hmark, hscope]
      refine ⟨?_, hmarks, hsaved, fun name => ?_⟩
      · rw [Context.scope, ← hvariables, ← hfunctions, hreturns] at now
        exact now
      · rw [Context.isOpaque, opaqueNames_rollback]
        exact hopaque name
    · cases hl

theorem Simulates.sees (h : Simulates m r l) : Sees m.context r := by
  have scope := h.scopes.current_eq
  refine ⟨fun name => ?_, fun name => ?_, ?_, ?_, ?_, h.isOpaque, ?_⟩
  · rw [scope, Context.scope]
  · rw [scope, Context.scope]
  · rw [scope]
    exact visibleVariables_lists m.context
  · rw [scope]
    exact visibleFunctions_lists m.context
  · rw [scope, Context.scope]
  · exact h.scopes.depth_eq.symm

theorem Simulates.run {ops : List ContextOp} (h : Simulates m r l)
    (hl : ops.foldlM LiveMarks.step? l = some l') :
    Simulates (ops.foldl MarkedContext.step m) (ops.foldl CopiedContext.step r) l' := by
  induction ops generalizing m r l with
  | nil =>
    cases hl
    exact h
  | cons op rest ih =>
    simp only [List.foldlM_cons, Option.bind_eq_bind, Option.bind_eq_some_iff] at hl
    obtain ⟨next, hnext, hrest⟩ := hl
    exact ih (h.step hnext) hrest

/-- At every point of a run with disciplined marks, a context answers like the reference and its
scopes are well nested. -/
theorem run_sees (before after : List ContextOp) (h : Disciplined (before ++ after)) :
    Sees (MarkedContext.run before).context (CopiedContext.run before) ∧
      (MarkedContext.run before).context.WellNested := by
  rw [Disciplined, List.foldlM_append, Option.isSome_iff_exists] at h
  obtain ⟨_, hl⟩ := h
  obtain ⟨live, hlive, -⟩ := Option.bind_eq_some_iff.mp hl
  have together := Simulates.initial.run hlive
  exact ⟨together.sees, together.scopes.wellNested⟩

/-- A name bound again in a function in a block, given up and bound once more, and one scope
closed too often. -/
def shadowedAndRolledBack : List ContextOp := [
  .defineVariable ⟨"x", .i32, false, .variable⟩, .mark, .push, .defineFunction "x" none,
  .enter .bool, .mark, .defineVariable ⟨"x", .f64, true, .parameter⟩, .rollback 1,
  .defineVariable ⟨"x", .string, false, .builtin⟩, .declareOpaque "Mat", .pop, .pop,
  .defineVariable ⟨"x", .bool, false, .variable⟩, .rollback 0, .pop]

theorem run_sees_shadowedAndRolledBack :
    Disciplined (shadowedAndRolledBack ++ []) ∧
      Sees (MarkedContext.run shadowedAndRolledBack).context
        (CopiedContext.run shadowedAndRolledBack) ∧
      (MarkedContext.run shadowedAndRolledBack).context.WellNested :=
  ⟨by decide, run_sees shadowedAndRolledBack [] (by decide)⟩

end Lanewise
