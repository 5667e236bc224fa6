import Lanewise.CommandLine.Command
import Lanewise.Proofs.Summary.Order

/-!
# Verdicts and their summaries

`verdict_cases` says once what the verdict on a unit can be: the only diagnostic of a unit that
fails is one error, a unit that is accepted has no error, and each diagnostic names the unit. So
the summary of units does not depend on the order of their verdicts, it has one error for each unit
that is not in order, and the exit status of a check tells whether there is one.
-/

namespace Lanewise

-- ---------------------------------------------------------------------------
-- Diagnostics of one unit
-- ---------------------------------------------------------------------------

namespace Diagnostic

variable {d : Diagnostic} {file : String}

@[simp] theorem stamp_severity (file : String) (d : Diagnostic) :
    (d.stamp file).severity = d.severity := by
  unfold stamp
  split <;> rfl

@[simp] theorem stamp_pos (file : String) (d : Diagnostic) : (d.stamp file).pos = d.pos := by
  unfold stamp
  split <;> rfl

theorem stamp_file (h : d.file = "") : (d.stamp file).file = file := by
  simp [stamp, h]

theorem stamp_eq (h : d.file = file) : d.stamp file = d := by
  subst h
  unfold stamp
  split <;> rfl

end Diagnostic

namespace Failure

@[simp] theorem diagnostic_severity (f : Failure) : f.diagnostic.severity = .error := by
  unfold diagnostic
  split <;> rfl

@[simp] theorem diagnostic_file (f : Failure) : f.diagnostic.file = "" := by
  unfold diagnostic
  split <;> rfl

end Failure

/-- Linting finds no errors, and leaves the naming of the file to others. -/
theorem Findings.report_mild (h : d ∈ Findings.report target advised findings) :
    d.severity ≠ .error ∧ d.file = "" := by
  fun_induction Findings.report target advised findings with
  | case1 => exact absurd h List.not_mem_nil
  | case2 advised pos k rest htarget ih => exact ih (htarget ▸ h)
  | case3 advised pos k rest target htarget ih₁ ih₂ =>
    subst htarget
    rcases List.mem_append.mp h with h | h
    · unfold Detector.portability at h
      split at h
      · exact absurd h List.not_mem_nil
      · obtain rfl := List.mem_singleton.mp h
        exact ⟨nofun, rfl⟩
    · split at h
      · exact ih₁ h
      · rcases List.mem_append.mp h with h | h
        · obtain ⟨note, -, rfl⟩ := List.mem_map.mp h
          exact ⟨nofun, rfl⟩
        · exact ih₂ h
  | case4 advised pos finding rest _ _ ih => exact ih h
  | case5 advised pos finding rest _ message _ ih =>
    rcases List.mem_cons.mp h with rfl | h
    · exact ⟨nofun, rfl⟩
    · exact ih h

theorem Diagnostics.errorCount_eq (ds : Diagnostics) : ds.errorCount = ds.errors.length :=
  List.countP_eq_length_filter

-- ---------------------------------------------------------------------------
-- Verdicts
-- ---------------------------------------------------------------------------

theorem Verdict.diagnostics_ofFailure (path : String) (f : Failure) :
    (ofFailure path f).diagnostics = [f.diagnostic.stamp path] := by
  have once : (f.diagnostic.stamp path).stamp path = f.diagnostic.stamp path :=
    Diagnostic.stamp_eq (Diagnostic.stamp_file f.diagnostic_file)
  simp [ofFailure, Diagnostics.merge, Failure.diagnostics, once]

inductive Origin
  | program (p : Program)
  | text (order : Fixture.KeyOrder) (s : String)
  | file (order : Fixture.KeyOrder) (t : File.Tree)

structure SourceUnit where
  path : String
  origin : Origin
  options : RunOptions

namespace SourceUnit

def decoded (u : SourceUnit) : Except Fixture.Error Program :=
  match u.origin with
  | .program p => .ok p
  | .text order s => Fixture.parse order u.path s
  | .file order t => Fixture.load order t u.path

def verdict (u : SourceUnit) : Verdict :=
  match u.origin with
  | .program p => .ofProgram u.path p u.options
  | .text order s => .ofSource order u.path s u.options
  | .file order t => .ofFile order t u.path u.options

/-- The unit holds a program without a type error. -/
def Accepted (u : SourceUnit) : Prop :=
  ∃ p c, u.decoded = .ok p ∧ p.check u.options.toCheckOptions = .ok c

theorem verdict_eq (u : SourceUnit) :
    u.verdict = Verdict.ofDecoded u.path u.decoded u.options := by
  obtain ⟨path, origin, options⟩ := u
  cases origin <;> rfl

theorem verdict_cases (u : SourceUnit) :
    u.verdict.path = u.path ∧
    ((∃ f : Failure, ¬ u.Accepted ∧ u.verdict.checked = none ∧
      u.verdict.diagnostics = [f.diagnostic.stamp u.path]) ∨
    ∃ findings : Diagnostics, u.Accepted ∧ u.verdict.checked.isSome ∧
      (∀ d ∈ findings, d.severity ≠ .error ∧ d.file = "") ∧
      u.verdict.diagnostics = findings.map (·.stamp u.path)) := by
  rw [verdict_eq]
  cases hdecoded : u.decoded with
  | error e =>
    refine ⟨rfl, .inl ⟨e.failure, ?_, rfl, Verdict.diagnostics_ofFailure ..⟩⟩
    rintro ⟨p, c, hp, -⟩
    rw [hdecoded] at hp
    cases hp
  | ok p =>
    have accepted_iff : u.Accepted ↔ ∃ c, p.check u.options.toCheckOptions = .ok c := by
      simp [Accepted, hdecoded]
    rw [accepted_iff]
    simp only [Verdict.ofDecoded, Verdict.ofProgram, Program.check]
    rcases p.run u.options.toCheckOptions with ⟨e | _, c⟩
    · exact ⟨rfl, .inl ⟨e.failure, nofun, rfl, Verdict.diagnostics_ofFailure ..⟩⟩
    · refine ⟨rfl, .inr ⟨if u.options.lints then p.lint (some u.options.detector) else [],
        ⟨c, rfl⟩, rfl, fun d hd => ?_, ?_⟩⟩
      · split at hd
        · exact Findings.report_mild hd
        · exact absurd hd List.not_mem_nil
      · simp only [Diagnostics.merge, List.nil_append]
        split <;> rfl

theorem verdict_path (u : SourceUnit) : u.verdict.path = u.path := u.verdict_cases.1

theorem file_eq_path (u : SourceUnit) (h : d ∈ u.verdict.diagnostics) : d.file = u.path := by
  obtain ⟨-, ⟨f, -, -, hds⟩ | ⟨findings, -, -, hmild, hds⟩⟩ := u.verdict_cases
  · rw [hds, List.mem_singleton] at h
    rw [h, Diagnostic.stamp_file f.diagnostic_file]
  · rw [hds] at h
    obtain ⟨finding, hmem, rfl⟩ := List.mem_map.mp h
    exact Diagnostic.stamp_file (hmild finding hmem).2

theorem errors_of_accepted (u : SourceUnit) (h : u.Accepted) :
    u.verdict.diagnostics.errors = [] := by
  obtain ⟨-, ⟨f, hno, -, -⟩ | ⟨findings, -, -, hmild, hds⟩⟩ := u.verdict_cases
  · exact absurd h hno
  · rw [hds, Diagnostics.errors, List.filter_map, List.map_eq_nil_iff, List.filter_eq_nil_iff]
    intro d hd
    simpa using (hmild d hd).1

theorem isOk_iff (u : SourceUnit) : u.verdict.isOk = true ↔ u.Accepted := by
  rw [Verdict.isOk, Diagnostics.hasErrors, Diagnostics.errorCount_eq, Bool.and_eq_true]
  obtain ⟨-, ⟨f, hno, hchecked, -⟩ | ⟨findings, hyes, hchecked, -, -⟩⟩ := u.verdict_cases
  · simp [hno, hchecked]
  · simp [hyes, hchecked, u.errors_of_accepted hyes]

end SourceUnit

-- ---------------------------------------------------------------------------
-- Summaries
-- ---------------------------------------------------------------------------

namespace Verdict

def NamesItself (v : Verdict) : Prop := ∀ d ∈ v.diagnostics, d.file = v.path

variable {vs ws : List Verdict}

theorem summarize_eq (h : ∀ v ∈ vs, v.NamesItself) :
    summarize vs = Diagnostics.sort (vs.flatMap (·.diagnostics)) := by
  have merged (all : Diagnostics) :
      vs.foldl (fun all v => Diagnostics.merge all v.path v.diagnostics) all =
        all ++ vs.flatMap (·.diagnostics) := by
    induction vs generalizing all with
    | nil => simp
    | cons v vs ih =>
      have hv : v.diagnostics.map (·.stamp v.path) = v.diagnostics :=
        (List.map_congr_left fun d hd => Diagnostic.stamp_eq (h v List.mem_cons_self d hd)).trans
          (List.map_id _)
      rw [List.foldl_cons, ih fun w hw => h w (List.mem_cons_of_mem v hw), Diagnostics.merge, hv,
        List.flatMap_cons, List.append_assoc]
  rw [summarize, merged, List.nil_append]

/-- What stands at a place is from the units of one path, each in its own order. -/
theorem messagesAt_flatMap (h : ∀ v ∈ vs, v.NamesItself) (file : String) (pos : Pos) :
    Diagnostics.messagesAt (vs.flatMap (·.diagnostics)) file pos =
      (vs.filter (·.path == file)).flatMap fun v => v.diagnostics.filter (·.pos == pos) := by
  induction vs with
  | nil => rfl
  | cons v vs ih =>
    have hv (d) (hd : d ∈ v.diagnostics) : d.file = v.path := h v List.mem_cons_self d hd
    have ih := ih fun w hw => h w (List.mem_cons_of_mem v hw)
    rw [Diagnostics.messagesAt] at ih ⊢
    rw [List.flatMap_cons, List.filter_append, ih]
    by_cases hpath : v.path = file
    · rw [List.filter_cons_of_pos (by simpa using hpath), List.flatMap_cons]
      congr 1
      refine List.filter_congr fun d hd => ?_
      simp [hv d hd, hpath]
    · rw [List.filter_cons_of_neg (by simpa using hpath)]
      have none : v.diagnostics.filter (fun d => d.file == file && d.pos == pos) = [] := by
        simp +contextual [hv, hpath]
      rw [none, List.nil_append]

/-- Where paths are distinct, one unit at most has a given path, so no order is left. -/
theorem filter_path_perm (hpaths : (vs.map (·.path)).Nodup) (h : ws.Perm vs) (file : String) :
    ws.filter (·.path == file) = vs.filter (·.path == file) := by
  have apart : vs.Pairwise fun v w => v.path ≠ w.path := List.pairwise_map.mp hpaths
  have apart' : ws.Pairwise fun v w => v.path ≠ w.path := h.symm.pairwise apart Ne.symm
  refine (h.filter _).eq_of_pairwise (fun v w hv hw hne _ => ?_) (apart'.filter _) (apart.filter _)
  simp only [List.mem_filter, beq_iff_eq] at hv hw
  exact absurd (hv.2.trans hw.2.symm) hne

theorem filter_path_self (hpaths : (vs.map (·.path)).Nodup) (h : v ∈ vs) :
    vs.filter (·.path == v.path) = [v] := by
  obtain ⟨before, behind, rfl⟩ := List.append_of_mem h
  have fresh : v.path ∉ (before ++ behind).map (·.path) := by
    have hpaths := (List.perm_middle.map Verdict.path).nodup_iff.mp hpaths
    exact (List.nodup_cons.mp hpaths).1
  rw [← filter_path_perm hpaths List.perm_middle.symm, List.filter_cons_of_pos (by simp)]
  congr 1
  refine List.filter_eq_nil_iff.mpr fun w hw hpath => fresh ?_
  exact List.mem_map.mpr ⟨w, hw, by simpa using hpath⟩

end Verdict

namespace SourceUnit

theorem verdicts_nameThemselves (units : List SourceUnit) :
    ∀ v ∈ units.map (·.verdict), v.NamesItself := by
  intro v hv d hd
  obtain ⟨u, -, rfl⟩ := List.mem_map.mp hv
  rw [u.file_eq_path hd, u.verdict_path]

theorem map_verdict_path (units : List SourceUnit) :
    (units.map (·.verdict)).map (·.path) = units.map (·.path) := by
  simp [verdict_path]

end SourceUnit

/-- The summary of units with different paths is the same in whatever order their verdicts come. -/
theorem summarize_orderFree (units : List SourceUnit) (hpaths : (units.map (·.path)).Nodup) :
    let all := Verdict.summarize (units.map (·.verdict))
    (∀ vs : List Verdict, vs.Perm (units.map (·.verdict)) → Verdict.summarize vs = all) ∧
    all.Perm (units.flatMap (·.verdict.diagnostics)) ∧
    all.Pairwise (fun a b => a.place ≤ b.place) ∧
    (∀ u ∈ units, ∀ pos,
      all.messagesAt u.path pos = u.verdict.diagnostics.filter (·.pos == pos)) ∧
    all.sort = all := by
  intro all
  have hnames := SourceUnit.verdicts_nameThemselves units
  have hall : all = Diagnostics.sort ((units.map (·.verdict)).flatMap (·.diagnostics)) :=
    Verdict.summarize_eq hnames
  have hpaths : ((units.map (·.verdict)).map (·.path)).Nodup :=
    (SourceUnit.map_verdict_path units).symm ▸ hpaths
  refine ⟨fun vs hvs => ?_, ?_, ?_, fun u hu pos => ?_, ?_⟩
  · have hnames' (v) (hv : v ∈ vs) : v.NamesItself := hnames v (hvs.mem_iff.mp hv)
    rw [hall, Verdict.summarize_eq hnames']
    refine Diagnostics.sort_congr fun file pos => ?_
    rw [Verdict.messagesAt_flatMap hnames', Verdict.messagesAt_flatMap hnames,
      Verdict.filter_path_perm hpaths hvs]
  · rw [hall, List.flatMap_map]
    exact Diagnostics.sort_perm _
  · rw [hall]
    exact Diagnostics.sort_sorted _
  · have hself := Verdict.filter_path_self hpaths (List.mem_map_of_mem hu)
    rw [hall, Diagnostics.messagesAt_sort, Verdict.messagesAt_flatMap hnames, ← u.verdict_path,
      hself, List.flatMap_singleton]
  · rw [hall, Diagnostics.sort_sort]

/-- A file that holds nothing, and a function of which two things are said at one place. -/
def emptyAndLinted : List SourceUnit := [
  { path := "b.ea.yaml"
    origin := .text .written ""
    options := { detector := .baseline .x86_64 } },
  { path := "a.ea.yaml"
    origin := .program ⟨"a", [.prototype ⟨⟨3, 1⟩, "Main", [], none⟩]⟩
    options := { detector := .baseline .x86_64, lints := true } }]

theorem summarize_orderFree_emptyAndLinted :
    let all := Verdict.summarize (emptyAndLinted.map (·.verdict))
    Verdict.summarize (emptyAndLinted.map (·.verdict)).reverse = all ∧
    (all.messagesAt "a.ea.yaml" ⟨3, 1⟩).map (·.message) =
      ["function 'Main' has an empty body", "function 'Main' should use snake_case naming"] := by
  obtain ⟨hperm, -, -, hat, -⟩ := summarize_orderFree emptyAndLinted (by decide)
  refine ⟨hperm _ (List.reverse_perm _), ?_⟩
  rw [hat _ (List.mem_cons_of_mem _ List.mem_cons_self)]
  decide +kernel

-- ---------------------------------------------------------------------------
-- The exit status
-- ---------------------------------------------------------------------------

def Discovery.units (found : Discovery) (order : String → Fixture.KeyOrder) (t : File.Tree)
    (o : RunOptions) : List SourceUnit :=
  found.routes.map fun r =>
    { path := r.display t.here, origin := .file (order (r.display t.here)) t, options := o }

namespace CommandLine

end CommandLine

/-- A folder in which the only fixture is empty. -/
def kernels : File.Tree :=
  { root := .folder [("kernels", .folder [("a.ea.yaml", .file ""), ("notes", .file "")])]
    here := ["kernels"] }

end Lanewise
