import Lanewise.Proofs.Check.Effect
import Lanewise.Proofs.Typing.Expr

/-!
# Checks that decide judgements

A check that starts where the rules stand (`InStep`) decides a judgement if it ends well exactly
with what can be judged, and then stands again where the rules do (`Decides`). Most checks leave
the environment alone (`Judges`); they are put together with `Judges.bind`, and scopes with
`Judges.inScope`.
-/

namespace Lanewise

open CheckM

structure InStep (r : Rules) (S : Setting) (c : Context) (Γ : Env) : Prop where
  detector : r.detector = S.detector
  allows : ∀ name, (r.names c).allows name = S.names.allows name
  models : Models c Γ
  wellFormed : Γ.WellFormed

/-- The check ends well exactly with what is judged in `Γ`, and in step with the environment that
the judgement gives. -/
structure Decides (r : Rules) (S : Setting) (m : CheckM α) (Γ : Env) (J : α → Env → Prop) :
    Prop where
  sound : ∀ {c c' : Checker} {a}, InStep r S c.context Γ → m.run c = (.ok a, c') →
    ∃ Γ', J a Γ' ∧ InStep r S c'.context Γ'
  complete : ∀ {c : Checker} {a Γ'}, InStep r S c.context Γ → J a Γ' →
    ∃ c', m.run c = (.ok a, c') ∧ InStep r S c'.context Γ'

def Judges (r : Rules) (S : Setting) (m : CheckM α) (Γ : Env) (P : α → Prop) : Prop :=
  Decides r S m Γ fun a Γ' => P a ∧ Γ' = Γ

section
variable {r : Rules} {S : Setting} {m : CheckM α} {f : α → CheckM β} {Γ Γ' : Env}
  {J J' : α → Env → Prop} {P P' : α → Prop}

-- ---------------------------------------------------------------------------
-- Staying in step
-- ---------------------------------------------------------------------------

namespace InStep

theorem push (h : InStep r S c Γ) : InStep r S c.push Γ :=
  ⟨h.detector, h.allows, ⟨h.models.vars, h.models.fns, h.models.returns⟩, h.wellFormed⟩

theorem enter (h : InStep r S c Γ) (hret : ret.WellFormed) :
    InStep r S (c.enter ret) { Γ with returns := some ret } := by
  refine ⟨h.detector, h.allows, ⟨h.models.vars, h.models.fns, ?_⟩,
    ⟨h.wellFormed.vars, h.wellFormed.fns, ?_⟩⟩
  · simp [Context.returnType?, Context.enter, hret.not_absent]
  · rintro _ ⟨⟩
    exact hret

theorem defineVariable {s : Symbol} (h : InStep r S c Γ) (hs : s.ty.WellFormed) :
    InStep r S (c.defineVariable s) (Γ.bindVariable s.name s.ty) := by
  refine ⟨h.detector, h.allows, ⟨fun name => ?_, fun name => ?_, h.models.returns⟩,
    h.wellFormed.bindVariable hs⟩
  · rw [Context.variableNamed?_defineVariable]
    by_cases same : name = s.name
    · simp [Env.bindVariable, same]
    · simpa [Env.bindVariable, same] using h.models.vars name
  · rw [Context.functionNamed?_defineVariable]
    exact h.models.fns name

theorem defineFunction (h : InStep r S c Γ) (hsig : sig.WellFormed) :
    InStep r S (c.defineFunction name (some sig)) (Γ.bindFunction name sig) := by
  refine ⟨h.detector, h.allows, ⟨fun other => ?_, fun other => ?_, h.models.returns⟩,
    h.wellFormed.bindFunction hsig⟩
  · rw [Context.variableNamed?_defineFunction]
    exact h.models.vars other
  · rw [Context.functionNamed?_defineFunction]
    by_cases same : other = name
    · simp [Env.bindFunction, same]
    · simpa [Env.bindFunction, same] using h.models.fns other

theorem denotes_iff (h : InStep r S c Γ) {a : WrittenType} :
    a.Denotes (r.names c) t ↔ a.Denotes S.names t :=
  ⟨Spells.congr h.allows, Spells.congr fun name => (h.allows name).symm⟩

end InStep

-- ---------------------------------------------------------------------------
-- Putting checks together
-- ---------------------------------------------------------------------------

theorem Decides.congr (hm : Decides r S m Γ J) (h : ∀ a Γ', J a Γ' ↔ J' a Γ') :
    Decides r S m Γ J' := by
  obtain rfl : J = J' := by
    funext a Γ'
    exact propext (h a Γ')
  exact hm

/-- Checks only ever stand where everything known is well formed. -/
theorem Decides.of_wellFormed (h : Γ.WellFormed → Decides r S m Γ J) : Decides r S m Γ J :=
  ⟨fun hc => (h hc.wellFormed).sound hc, fun hc => (h hc.wellFormed).complete hc⟩

theorem Decides.bind {L : α → Env → β → Env → Prop} (hm : Decides r S m Γ J)
    (hf : ∀ a Γ', J a Γ' → Decides r S (f a) Γ' (L a Γ')) :
    Decides r S (m >>= f) Γ fun b Γ'' => ∃ a Γ', J a Γ' ∧ L a Γ' b Γ'' := by
  constructor
  · intro c c' b hc hrun
    obtain ⟨a, next, hfirst, hrest⟩ := bind_ok.mp hrun
    obtain ⟨Γ', ha, hnext⟩ := hm.sound hc hfirst
    obtain ⟨Γ'', hb, hlast⟩ := (hf a Γ' ha).sound hnext hrest
    exact ⟨Γ'', ⟨a, Γ', ha, hb⟩, hlast⟩
  · rintro c b Γ'' hc ⟨a, Γ', ha, hb⟩
    obtain ⟨next, hfirst, hnext⟩ := hm.complete hc ha
    obtain ⟨c', hrest, hlast⟩ := (hf a Γ' ha).complete hnext hb
    exact ⟨c', bind_ok.mpr ⟨a, next, hfirst, hrest⟩, hlast⟩

theorem Decides.below (hm : Decides r S m Γ J) (n : Nat) : Decides r S (below n m) Γ J := by
  constructor
  · intro c c' a hc hrun
    obtain ⟨after, hinner, rfl⟩ := below_ok.mp hrun
    obtain ⟨Γ', ha, hafter⟩ := hm.sound (c := { c with types := [] }) hc hinner
    exact ⟨Γ', ha, hafter⟩
  · intro c a Γ' hc ha
    obtain ⟨after, hrun, hafter⟩ := hm.complete (c := { c with types := [] }) hc ha
    exact ⟨_, below_ok.mpr ⟨after, hrun, rfl⟩, hafter⟩

theorem Decides.atomically (hm : Decides r S m Γ J) : Decides r S (atomically m) Γ J := by
  constructor
  · intro c c' a hc hrun
    exact hm.sound hc (atomically_ok.mp hrun)
  · intro c a Γ' hc ha
    obtain ⟨c', hrun, hc'⟩ := hm.complete hc ha
    exact ⟨c', atomically_ok.mpr hrun, hc'⟩

theorem Decides.bind_context {f : Context → CheckM α}
    (hf : ∀ c, InStep r S c Γ → Decides r S (f c) Γ J) : Decides r S (context >>= f) Γ J := by
  have run_eq : ∀ c, (context >>= f).run c = (f c.context).run c := by
    intro c
    rw [run_bind, run_context]
  constructor
  · intro c c' a hc hrun
    exact (hf c.context hc).sound hc (run_eq c ▸ hrun)
  · intro c a Γ' hc ha
    rw [run_eq]
    exact (hf c.context hc).complete hc ha

theorem Decides.bind_changeContext {change : Context → Context}
    (hchange : ∀ c, InStep r S c Γ → InStep r S (change c) Γ') (hm : Decides r S m Γ' J) :
    Decides r S (changeContext change >>= fun _ => m) Γ J := by
  have run_eq : ∀ c : Checker, (changeContext change >>= fun _ => m).run c =
      m.run { c with context := change c.context } := by
    intro c
    rw [run_bind, run_changeContext]
  constructor
  · intro c c' a hc hrun
    exact hm.sound (c := { c with context := change c.context }) (hchange c.context hc)
      (run_eq c ▸ hrun)
  · intro c a Γ'' hc ha
    rw [run_eq]
    exact hm.complete (c := { c with context := change c.context }) (hchange c.context hc) ha

theorem Decides.changeContext {change : Context → Context}
    (hchange : ∀ c, InStep r S c Γ → InStep r S (change c) Γ') :
    Decides r S (changeContext change) Γ fun _ Γ'' => Γ'' = Γ' := by
  constructor
  · rintro c c' a hc ⟨⟩
    exact ⟨Γ', rfl, hchange c.context hc⟩
  · rintro c a Γ'' hc rfl
    exact ⟨_, rfl, hchange c.context hc⟩

/-- If the context stays, what counts is whether the check ends well. -/
theorem Judges.of_declares (hkeeps : Declares m [])
    (h : ∀ c : Checker, InStep r S c.context Γ → ∀ a, (∃ c', m.run c = (.ok a, c')) ↔ P a) :
    Judges r S m Γ P := by
  have same : ∀ {c c' : Checker} {a}, m.run c = (.ok a, c') → c'.context = c.context := by
    intro c c' a hrun
    have hcontext := declares_nil.mp hkeeps c
    rwa [hrun] at hcontext
  constructor
  · intro c c' a hc hrun
    exact ⟨Γ, ⟨(h c hc a).mp ⟨c', hrun⟩, rfl⟩, same hrun ▸ hc⟩
  · rintro c a _ hc ⟨ha, rfl⟩
    obtain ⟨c', hrun⟩ := (h c hc a).mpr ha
    exact ⟨c', hrun, same hrun ▸ hc⟩

theorem Decides.judges (hm : Decides r S m Γ J) (hkeeps : Declares m []) :
    Judges r S m Γ fun a => ∃ Γ', J a Γ' := by
  refine Judges.of_declares hkeeps fun c hc a => ⟨?_, ?_⟩
  · rintro ⟨c', hrun⟩
    obtain ⟨Γ', ha, -⟩ := hm.sound hc hrun
    exact ⟨Γ', ha⟩
  · rintro ⟨Γ', ha⟩
    obtain ⟨c', hrun, -⟩ := hm.complete hc ha
    exact ⟨c', hrun⟩

/-- What is judged in a scope is thrown away with it. -/
theorem Decides.inScope {opening : Context → Context} (hm : Decides r S m Γ' J)
    (hopening : ∀ c, InStep r S c Γ → InStep r S (opening c) Γ')
    (hkeeps : Declares (inScope opening m) []) :
    Judges r S (inScope opening m) Γ fun a => ∃ Γ'', J a Γ'' := by
  refine Judges.of_declares hkeeps fun c hc a => ⟨?_, ?_⟩
  · rintro ⟨c', hrun⟩
    obtain ⟨after, hinner, rfl⟩ := inScope_ok.mp hrun
    obtain ⟨Γ'', ha, -⟩ :=
      hm.sound (c := { c with context := opening c.context }) (hopening c.context hc) hinner
    exact ⟨Γ'', ha⟩
  · rintro ⟨Γ'', ha⟩
    obtain ⟨after, hrun, -⟩ :=
      hm.complete (c := { c with context := opening c.context }) (hopening c.context hc) ha
    exact ⟨_, inScope_ok.mpr ⟨after, hrun, rfl⟩⟩

theorem Decides.inPush (hm : Decides r S m Γ J) (hgrows : Grows m) :
    Judges r S (CheckM.inScope Context.push m) Γ fun a => ∃ Γ', J a Γ' :=
  hm.inScope (fun _ => InStep.push) hgrows.inPush

namespace Judges

theorem pure (a : α) : Judges r S (pure a) Γ fun b => a = b := by
  refine of_declares (.pure a) fun c _ b => ?_
  simp

theorem fail (h : ∀ a, ¬P a) : Judges r S (fail pos fault) Γ P := by
  refine of_declares .fail fun c _ a => ?_
  simp [h a]

theorem noteFunction : Judges r S (noteFunction name sig) Γ fun _ => True := by
  refine of_declares (declares_nil.mpr fun _ => rfl) fun c _ u => ?_
  simp

theorem failUnless (b : Bool) :
    Judges r S (if !b then CheckM.fail pos fault else Pure.pure ()) Γ fun _ => b = true := by
  cases b with
  | false => exact .fail (by simp)
  | true => exact of_declares (.pure ()) fun c _ u => by simp

theorem below (hm : Judges r S m Γ P) (n : Nat) : Judges r S (below n m) Γ P := Decides.below hm n

theorem congr (hm : Judges r S m Γ P) (h : ∀ a, P a ↔ P' a) : Judges r S m Γ P' :=
  Decides.congr hm fun a _ => and_congr_left fun _ => h a

theorem bind_decides {L : α → β → Env → Prop} (hm : Judges r S m Γ P)
    (hf : ∀ a, P a → Decides r S (f a) Γ (L a)) :
    Decides r S (m >>= f) Γ fun b Γ' => ∃ a, P a ∧ L a b Γ' := by
  refine Decides.congr (Decides.bind (L := fun a _ => L a) hm ?_) fun b Γ' => ?_
  · rintro a _ ⟨ha, rfl⟩
    exact hf a ha
  · constructor
    · rintro ⟨a, _, ⟨ha, rfl⟩, hb⟩
      exact ⟨a, ha, hb⟩
    · rintro ⟨a, ha, hb⟩
      exact ⟨a, Γ, ⟨ha, rfl⟩, hb⟩

theorem bind {Q : α → β → Prop} (hm : Judges r S m Γ P) (hf : ∀ a, P a → Judges r S (f a) Γ (Q a)) :
    Judges r S (m >>= f) Γ fun b => ∃ a, P a ∧ Q a b := by
  refine Decides.congr (hm.bind_decides hf) fun b Γ' => ?_
  simp only [← and_assoc, exists_and_right]

end Judges

theorem Decides.skip : Decides r S (pure ()) Γ fun _ Γ' => Γ' = Γ :=
  .congr (Judges.pure ()) fun _ _ => and_iff_right rfl

end

end Lanewise
