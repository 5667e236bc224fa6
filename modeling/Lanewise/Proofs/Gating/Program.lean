import Lanewise.Proofs.Check.Pairing
import Lanewise.Proofs.Gating.Expr
import Lanewise.Target.Resolve

/-!
# Gates of programs

`check_gated`: a program is accepted for a target exactly if it is accepted for one that runs every
vector and each gate in it was given a kind of vector that the target runs. Both runs then leave
the same checker behind. So a target that can do more accepts more. The run for the target is paired
with the other one, which goes on where the first is stopped (`Pairing.gating`).
-/

namespace Lanewise

open CheckM TypeLog

-- ---------------------------------------------------------------------------
-- Side by side
-- ---------------------------------------------------------------------------

/-- The gates among the recorded types pass as long as the run for the target goes on, and it fails
at the first that does not. -/
def Record.gates (d : Detector) : Record where
  children both places n log := Within 0 n log ∧ (PassesBetween d places 0 n log ↔ both = true)
  whole both places log := Passes d places log.typeAt? ↔ both = true
  children_nil := ⟨.nil, by simp [PassesBetween.empty]⟩
  children_below {_ _ n _ _ inner} := by
    rintro ⟨hwithin, hpass⟩ hinner
    refine ⟨hwithin.append (.below inner n), ?_⟩
    rw [passesBetween_append hwithin (.below inner n), hpass, passesBetween_below, hinner,
      Bool.and_eq_true]
  whole_absent := by
    refine iff_of_true (fun path e he hgate => ?_) rfl
    rw [isGate_of_leaf rfl rfl path e he] at hgate
    cases hgate
  whole_stmt {_ s _} h := by
    rw [passes_iff_passesBetween rfl fun _ _ => s.exprAt?_eq_none]
    exact h.2

/-- The run for a target next to that for one that runs every vector, from the same checker. -/
def Pairing.gating (d : Detector) : Pairing :=
  { Pairing.alike with toRecord := .gates d, inStep := False }

section
variable {d full : Detector}

theorem gating_reflexive : (Pairing.gating d).Reflexive := ⟨rfl, fun _ => rfl, fun _ => trivial⟩

theorem gating_leaves (hfull : full.RunsEveryKind) (r : Rules) :
    (Pairing.gating r.detector).Leaves r { r with detector := full } where
  infer {e e'} he := by
    obtain rfl : e' = e := he
    rintro _ _ c rfl ⟨rfl, hempty⟩
    have hgated (c' t) : (r.infer e').run c = (.ok t, c') ↔
        ({ r with detector := full }.infer e').run c = (.ok t, c') ∧
          Passes r.detector e'.exprAt? c'.types.typeAt? := by
      rw [run_infer_ok hempty, run_infer_ok hempty, infer_gated hfull c.context e']
      exact and_right_comm
    generalize (r.infer e').run c = outcome at hgated ⊢
    generalize ({ r with detector := full }.infer e').run c = outcome' at hgated ⊢
    obtain ⟨result, after⟩ := outcome
    obtain ⟨_ | t, after'⟩ := outcome'
    · cases result with
      | ok t => cases ((hgated after t).mp rfl).1
      | error => exact .error nofun
    · by_cases hpass : Passes r.detector e'.exprAt? after'.types.typeAt?
      · cases (hgated after' t).mpr ⟨rfl, hpass⟩
        exact .ok trivial rfl (iff_of_true hpass rfl)
      · cases result with
        | ok t =>
          obtain ⟨heq, hafter⟩ := (hgated after t).mp rfl
          cases heq
          exact (hpass hafter).elim
        | error => exact .alone nofun trivial rfl (iff_of_false hpass nofun)
  pos {e e'} he := by
    obtain rfl : e' = e := he
    exact ⟨rfl, trivial⟩
  resolve {a} _ _ _ := by
    rintro _ _ c rfl hlog
    rw [Rules.run_resolve, Rules.run_resolve]
    have hnames : Rules.names { r with detector := full } c.context = r.names c.context := rfl
    rw [hnames]
    cases a.resolve (r.names c.context) with
    | ok t => exact .ok trivial rfl hlog
    | error e => exact .error nofun
  errors := nofun

end

-- ---------------------------------------------------------------------------
-- Targets
-- ---------------------------------------------------------------------------

/-- What a target runs, another one of the same architecture with more features runs too. -/
theorem Detector.isSupported_mono {d d' : Detector} (harch : d.arch = d'.arch)
    (hfeatures : ∀ f, d.has f = true → d'.has f = true) (h : d.isSupported k = true) :
    d'.isSupported k = true := by
  simp only [Detector.isSupported, List.any_eq_true, Bool.and_eq_true, FeatureSet.hasAll,
    List.all_eq_true] at h ⊢
  obtain ⟨requirement, hmem, happlies, hall⟩ := h
  exact ⟨requirement, hmem, harch ▸ happlies, fun f hf => hfeatures f (hall f hf)⟩

def Detector.highestLevel : Detector :=
  (Detector.ofFeatures .x86_64 ((Detector.levelFeatures? "x86_64-v4").getD [])).named "x86_64-v4"

theorem Detector.runsEveryKind_highestLevel : highestLevel.RunsEveryKind := by
  intro k hk
  cases k with
  | invalid => cases hk
  | _ => decide

-- ---------------------------------------------------------------------------
-- Programs
-- ---------------------------------------------------------------------------

theorem program_gated (hfull : Detector.RunsEveryKind full) (o : CheckOptions) (p : Program)
    {c : Checker} :
    p.check { o with detector := d } = .ok c ↔ p.check { o with detector := full } = .ok c ∧
      Passes d p.exprAt? c.types.typeAt? := by
  have hends : (Pairing.gating d).Ends _ _ true (p.run { o with detector := d })
      (p.run { o with detector := full }) :=
    (gating_reflexive.body p.statements fun _ _ => trivial).run
      (gating_leaves hfull { detector := d, isLenient := o.isLenient }) rfl
  have hrest : ∀ n path, p.statements.length ≤ n → p.exprAt? (n :: path) = none := by
    intro n path hn
    simp [Program.exprAt?, List.getElem?_eq_none hn]
  rw [Program.check_ok, Program.check_ok, passes_iff_passesBetween rfl hrest]
  generalize p.run { o with detector := d } = outcome at hends ⊢
  generalize p.run { o with detector := full } = outcome' at hends ⊢
  cases hends with
  | ok _ hc hlog =>
    obtain rfl := hc
    refine ⟨fun h => ⟨h, ?_⟩, fun h => h.1⟩
    obtain ⟨-, rfl⟩ := Prod.mk.inj h
    exact hlog.2.mpr rfl
  | error => simp
  | alone _ _ _ hlog =>
    constructor
    · intro h
      cases (Prod.mk.inj h).1
    · rintro ⟨h, hpass⟩
      obtain ⟨-, rfl⟩ := Prod.mk.inj h
      cases hlog.2.mp hpass

/-- A program is accepted for a target exactly if it is accepted for one that runs every kind, with
the same types and names, and the recorded kind of every vector literal and every load runs on the
target. So a target with more features accepts no less, and with the same types and names. -/
theorem check_gated (full : Detector) (hfull : full.RunsEveryKind) (o : CheckOptions)
    (p : Program) :
    (∀ d c, p.check { o with detector := d } = .ok c ↔
      p.check { o with detector := full } = .ok c ∧ Passes d p.exprAt? c.types.typeAt?) ∧
    ∀ d d' : Detector, d.arch = d'.arch → (∀ f, d.has f = true → d'.has f = true) → ∀ c,
      p.check { o with detector := d } = .ok c → p.check { o with detector := d' } = .ok c := by
  refine ⟨fun d c => program_gated hfull o p, fun d d' harch hfeatures c h => ?_⟩
  obtain ⟨haccepted, hpass⟩ := (program_gated hfull o p).mp h
  refine (program_gated hfull o p).mpr ⟨haccepted, fun path e he hgate => ?_⟩
  obtain ⟨k, hk, hd⟩ := hpass path e he hgate
  exact ⟨k, hk, Detector.isSupported_mono harch hfeatures hd⟩

def literalAndLoad : Program where
  name := ""
  statements := [
    .letDecl default "v" false none
      (.vector default [.float default default, .float default default] ""),
    .letDecl default "w" false none
      (.load default (.unary default .ref (.ident default "v")) "")]

theorem check_gated_literalAndLoad :
    ∃ c, literalAndLoad.check { detector := .baseline .x86_64 } = .ok c ∧
      literalAndLoad.check { detector := .highestLevel } = .ok c ∧
      Passes (.baseline .x86_64) literalAndLoad.exprAt? c.types.typeAt? := by
  have accepted : (literalAndLoad.check { detector := .baseline .x86_64 }).toBool = true := by
    decide +kernel
  cases hc : literalAndLoad.check { detector := .baseline .x86_64 } with
  | error e =>
    rw [hc] at accepted
    cases accepted
  | ok c =>
    have gated := check_gated .highestLevel Detector.runsEveryKind_highestLevel
      { detector := .highestLevel } literalAndLoad
    exact ⟨c, rfl, (gated.1 (.baseline .x86_64) c).mp hc⟩

end Lanewise
