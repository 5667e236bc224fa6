import Lanewise.Proofs.Discovery.Tree
import Lanewise.Proofs.Summary.Order
import Lanewise.Run.Discovery

/-!
# The units that arguments stand for

A search adds the units of its arguments one after another, passes over those it knows, and orders
all of them at its end. `Collects` is what every step keeps: the known routes are those of the
units that the arguments so far stand for, each once. From this, what any number of searches find
is a set that is listed in the order of paths (`runAll_units`): it does not depend on the order of
the arguments, on repetitions, or on arguments that overlap.
-/

namespace Lanewise.Discovery

open File (Entry Route Tree)

def unitPaths (d : Discovery) : List String := d.routes.map Route.text

/-- One search after another, each with what is known from those before it. The first that fails
is the last. -/
def runAll (t : Tree) (known : List Route) : List (List String) → Discovery
  | [] => { routes := known }
  | args :: rest =>
    let found := run t known args
    match found.failure with
    | none => runAll t found.routes rest
    | some _ => found

/-- The units that an argument stands for: the file that it names, or the fixtures below the folder
that it names with no hidden folder in between. -/
inductive IsUnitOf (t : Tree) (arg : String) : Route → Prop
  | file (hfind : t.root.find (.ofPath t.here arg) = .ok (.file text)) :
      IsUnitOf t arg (.ofPath t.here arg)
  | below (hfind : t.root.find (.ofPath t.here arg) = .ok (.folder items))
      (hfile : Entry.find (.folder items) (folders ++ [name]) = .ok (.file text))
      (hvisible : ∀ folder ∈ folders, folder.toList.head? ≠ some '.')
      (hending : ".ea.yaml".toList <:+ name.toList) :
      IsUnitOf t arg (Route.ofPath t.here arg ++ (folders ++ [name]))

variable {t : Tree} {arg : String} {args : List String} {calls : List (List String)}
  {r : Route} {known units : List Route}

-- ---------------------------------------------------------------------------
-- One argument
-- ---------------------------------------------------------------------------

theorem isFixture_iff {folders : Route} {name : String} :
    isFixture (r ++ (folders ++ [name])) = true ↔ ".ea.yaml".toList <:+ name.toList := by
  rw [isFixture, ← List.append_assoc, List.getLastD_concat, List.isSuffixOf_iff_suffix]
  rfl

theorem mem_unitsOf {e : Entry} (he : e.IsProper)
    (hfind : t.root.find (.ofPath t.here arg) = .ok e) :
    r ∈ unitsOf (.ofPath t.here arg) e ↔ IsUnitOf t arg r := by
  constructor
  · intro hr
    cases e with
    | file text =>
      obtain rfl := List.mem_singleton.mp hr
      exact .file hfind
    | folder items =>
      obtain ⟨hr, hfixture⟩ := List.mem_filter.mp hr
      obtain ⟨below, text, rfl, hfile, hvisible⟩ := (Entry.mem_visibleFiles he).mp hr
      rcases below.eq_nil_or_concat' with rfl | ⟨folders, name, rfl⟩
      · cases hfile
      · have hvisible : ∀ folder ∈ folders, folder.toList.head? ≠ some '.' := by
          simpa [Entry.Visible] using hvisible
        exact .below hfind hfile hvisible (isFixture_iff.mp hfixture)
  · intro hr
    cases hr with
    | file hfile =>
      obtain rfl := Except.ok.inj (hfind.symm.trans hfile)
      exact List.mem_singleton.mpr rfl
    | @below items folders name text hfolder hfile hvisible hending =>
      obtain rfl := Except.ok.inj (hfind.symm.trans hfolder)
      refine List.mem_filter.mpr ⟨(Entry.mem_visibleFiles he).mpr ?_, isFixture_iff.mpr hending⟩
      exact ⟨folders ++ [name], text, rfl, hfile, by simpa [Entry.Visible] using hvisible⟩

theorem IsUnitOf.names (ht : t.root.IsProper) (h : IsUnitOf t arg r) :
    ∀ name ∈ r, File.IsName name := by
  cases h with
  | file hfind => exact ht.names hfind
  | below hfind hfile => exact ht.names ((Entry.find_append hfind).trans hfile)

theorem mem_foldl_add : r ∈ units.foldl add known ↔ r ∈ known ∨ r ∈ units := by
  induction units generalizing known with
  | nil => simp
  | cons unit rest ih =>
    have hadd : r ∈ add known unit ↔ r ∈ known ∨ r = unit := by
      rw [add]
      split
      case isTrue hunit => grind
      case isFalse => simp
    rw [List.foldl_cons, ih, hadd, or_assoc, List.mem_cons]

theorem nodup_foldl_add (h : known.Nodup) : (units.foldl add known).Nodup := by
  refine List.foldlRecOn units add h fun known h unit _ => ?_
  rw [add]
  split
  case isTrue => exact h
  case isFalse hunit => exact List.nodup_append.mpr ⟨h, by simp, by grind⟩

-- ---------------------------------------------------------------------------
-- Searches
-- ---------------------------------------------------------------------------

/-- The known routes are those of the units that arguments stand for, each once. -/
structure Collects (t : Tree) (args : List String) (known : List Route) : Prop where
  nodup : known.Nodup
  mem : ∀ r, r ∈ known ↔ ∃ arg ∈ args, IsUnitOf t arg r

theorem Collects.nil : Collects t [] [] := ⟨.nil, by simp⟩

theorem Collects.add (h : Collects t args known) {e : Entry} (he : e.IsProper)
    (hfind : t.root.find (.ofPath t.here arg) = .ok e) :
    Collects t (args ++ [arg]) ((unitsOf (.ofPath t.here arg) e).foldl add known) where
  nodup := nodup_foldl_add h.nodup
  mem := by simp [mem_foldl_add, h.mem, mem_unitsOf he hfind, or_and_right, exists_or]

theorem Collects.sort (h : Collects t args known) : Collects t args (known.mergeSort pathLe) where
  nodup := (List.mergeSort_perm known pathLe).nodup_iff.mpr h.nodup
  mem r := List.mem_mergeSort.trans (h.mem r)

theorem Collects.run (ht : t.root.IsProper) (h : Collects t args known) {more : List String}
    (hrun : (run t known more).failure = none) :
    Collects t (args ++ more) (run t known more).routes := by
  induction more generalizing args known with
  | nil => simpa [Discovery.run] using h.sort
  | cons arg rest ih =>
    rw [Discovery.run] at hrun ⊢
    cases hfind : t.root.find (.ofPath t.here arg) with
    | error => simp [hfind] at hrun
    | ok e =>
      simp only [hfind] at hrun ⊢
      simpa using ih (h.add (ht.find hfind) hfind) hrun

theorem run_failure : (run t known args).failure = none ↔
    ∀ arg ∈ args, ∃ e, t.root.find (.ofPath t.here arg) = .ok e := by
  induction args generalizing known with
  | nil => simp [run]
  | cons arg rest ih =>
    rw [run]
    cases hfind : t.root.find (.ofPath t.here arg) <;> simp [hfind, ih]

def InOrder (routes : List Route) : Prop := routes.Pairwise fun a b => a.text ≤ b.text

theorem run_inOrder (hrun : (run t known args).failure = none) :
    InOrder (run t known args).routes := by
  -- Only the end of a search puts units in order, so nothing is asked of those known before.
  induction args generalizing known with
  | nil =>
    have hsorted : (known.mergeSort pathLe).Pairwise (fun a b => pathLe a b = true) := by
      refine List.pairwise_mergeSort (fun a b c hab hbc => ?_) (fun a b => ?_) known
      · exact decide_eq_true (le_trans (of_decide_eq_true hab) (of_decide_eq_true hbc))
      · simpa [pathLe] using le_total a.text b.text
    exact hsorted.imp of_decide_eq_true
  | cons arg rest ih =>
    rw [run] at hrun ⊢
    cases hfind : t.root.find (.ofPath t.here arg) with
    | error => simp [hfind] at hrun
    | ok e =>
      simp only [hfind] at hrun ⊢
      exact ih hrun

-- ---------------------------------------------------------------------------
-- Searches one after another
-- ---------------------------------------------------------------------------

theorem runAll_failure : (runAll t known calls).failure = none ↔
    ∀ arg ∈ calls.flatten, ∃ e, t.root.find (.ofPath t.here arg) = .ok e := by
  induction calls generalizing known with
  | nil => simp [runAll]
  | cons args rest ih =>
    rw [List.flatten_cons, List.forall_mem_append, runAll]
    cases hrun : (run t known args).failure with
    | none => exact ih.trans (and_iff_right (run_failure.mp hrun)).symm
    | some _ =>
      refine iff_of_false (by simp [hrun]) fun hall => ?_
      rw [run_failure.mpr hall.1] at hrun
      cases hrun

theorem Collects.runAll (ht : t.root.IsProper) (h : Collects t args known) (hknown : InOrder known)
    (hrun : (runAll t known calls).failure = none) :
    Collects t (args ++ calls.flatten) (runAll t known calls).routes ∧
      InOrder (runAll t known calls).routes := by
  induction calls generalizing args known with
  | nil => simpa [Discovery.runAll] using ⟨h, hknown⟩
  | cons first rest ih =>
    rw [Discovery.runAll] at hrun ⊢
    cases hfirst : (Discovery.run t known first).failure with
    | some => simp [hfirst] at hrun
    | none =>
      simp only [hfirst] at hrun ⊢
      simpa using ih (h.run ht hfirst) (run_inOrder hfirst) hrun

/-- Different units have different paths, so units in order are listed bytewise. -/
theorem paths_increasing (ht : t.root.IsProper) {routes : List Route} (h : Collects t args routes)
    (horder : InOrder routes) :
    (routes.map Route.text).Pairwise fun a b => Text.bytes a < Text.bytes b := by
  have hnames {r : Route} (hr : r ∈ routes) : ∀ name ∈ r, File.IsName name := by
    obtain ⟨arg, -, hunit⟩ := (h.mem r).mp hr
    exact hunit.names ht
  refine List.pairwise_map.mpr ((horder.and h.nodup).imp_of_mem fun ha hb ⟨hle, hne⟩ => ?_)
  refine Text.bytes_lt_iff.mpr (lt_of_le_of_ne hle fun heq => hne ?_)
  exact Route.text_injective (hnames ha) (hnames hb) heq

theorem routes_unique (ht : t.root.IsProper) {args' : List String} {routes routes' : List Route}
    (h : Collects t args routes) (horder : InOrder routes)
    (h' : Collects t args' routes') (horder' : InOrder routes')
    (hsame : ∀ r, (∃ arg ∈ args, IsUnitOf t arg r) ↔ ∃ arg ∈ args', IsUnitOf t arg r) :
    routes = routes' := by
  have hmem (r : Route) : r ∈ routes ↔ r ∈ routes' := by rw [h.mem, h'.mem, hsame]
  refine List.Perm.eq_of_pairwise (fun a b ha hb hab hba => ?_) horder horder'
    ((List.perm_ext_iff_of_nodup h.nodup h'.nodup).mpr hmem)
  obtain ⟨arg, -, haunit⟩ := (h.mem a).mp ha
  obtain ⟨arg', -, hbunit⟩ := (h'.mem b).mp hb
  exact Route.text_injective (haunit.names ht) (hbunit.names ht) (le_antisymm hab hba)

theorem eq_of_routes {d d' : Discovery} (hroutes : d.routes = d'.routes) (hd : d.failure = none)
    (hd' : d'.failure = none) : d = d' := by
  cases d
  cases d'
  simp_all

theorem runAll_overlap (ht : t.root.IsProper) (hrun : (runAll t [] calls).failure = none)
    {calls' : List (List String)} (hrun' : (runAll t [] calls').failure = none)
    (hsame : ∀ r, (∃ arg ∈ calls'.flatten, IsUnitOf t arg r) ↔
      ∃ arg ∈ calls.flatten, IsUnitOf t arg r) :
    runAll t [] calls' = runAll t [] calls := by
  obtain ⟨hcollects, horder⟩ := Collects.runAll ht .nil .nil hrun
  obtain ⟨hcollects', horder'⟩ := Collects.runAll ht .nil .nil hrun'
  exact eq_of_routes (routes_unique ht hcollects' horder' hcollects horder hsame) hrun' hrun

/-- What searches find is the set of units that their arguments stand for, in the order of the
bytes of their paths. So only that set matters: not the order of the arguments, not how often they
are repeated, and not whether they overlap. -/
theorem runAll_units (ht : t.root.IsProper) (hrun : (runAll t [] calls).failure = none) :
    (runAll t [] calls).unitPaths.Pairwise (fun a b => Text.bytes a < Text.bytes b) ∧
    (∀ path, path ∈ (runAll t [] calls).unitPaths ↔
      ∃ arg ∈ calls.flatten, ∃ r, IsUnitOf t arg r ∧ r.text = path) ∧
    (∀ calls', (∀ arg, arg ∈ calls'.flatten ↔ arg ∈ calls.flatten) →
      runAll t [] calls' = runAll t [] calls) ∧
    (∀ calls', (runAll t [] calls').failure = none →
      (∀ r, (∃ arg ∈ calls'.flatten, IsUnitOf t arg r) ↔ ∃ arg ∈ calls.flatten, IsUnitOf t arg r) →
      runAll t [] calls' = runAll t [] calls) := by
  obtain ⟨hcollects, horder⟩ := Collects.runAll ht .nil .nil hrun
  refine ⟨paths_increasing ht hcollects horder, fun path => ?_, fun calls' hargs => ?_,
    fun calls' => runAll_overlap ht hrun⟩
  · simp only [unitPaths, List.mem_map, hcollects.mem, List.nil_append]
    constructor
    · rintro ⟨r, ⟨arg, harg, hunit⟩, hpath⟩
      exact ⟨arg, harg, r, hunit, hpath⟩
    · rintro ⟨arg, harg, r, hunit, hpath⟩
      exact ⟨r, ⟨arg, harg, hunit⟩, hpath⟩
  · have hrun' : (runAll t [] calls').failure = none :=
      runAll_failure.mpr fun arg harg => runAll_failure.mp hrun arg ((hargs arg).mp harg)
    exact runAll_overlap ht hrun hrun' fun r => by simp only [hargs]

/-- A folder with units in it, in a folder inside it, and in a hidden one. -/
def kernels : Tree :=
  .ofFiles ["k"] [] [(["k", "b.ea.yaml"], ""), (["k", "v", "a.ea.yaml"], ""),
    (["k", ".old", "c.ea.yaml"], ""), (["k", "notes.yaml"], "")]

theorem kernels_isProper : kernels.root.IsProper :=
  Tree.ofFiles_isProper (by decide) (by decide)

/-- The folder, and then the hidden folder in it and a unit once more. -/
theorem runAll_units_kernels :
    (runAll kernels [] [["."], [".old", "b.ea.yaml"]]).failure = none ∧
    "/k/v/a.ea.yaml" ∈ (runAll kernels [] [["."], [".old", "b.ea.yaml"]]).unitPaths ∧
    runAll kernels [] [["b.ea.yaml", ".old"], [], [".", "."]] =
      runAll kernels [] [["."], [".old", "b.ea.yaml"]] := by
  have hrun : (runAll kernels [] [["."], [".old", "b.ea.yaml"]]).failure = none :=
    Option.isNone_iff_eq_none.mp (by decide +kernel)
  obtain ⟨-, hmem, hargs, -⟩ := runAll_units kernels_isProper hrun
  refine ⟨hrun, (hmem _).mpr ⟨".", by simp, ["k", "v", "a.ea.yaml"], ?_, by decide⟩, ?_⟩
  · change IsUnitOf kernels "." (Route.ofPath kernels.here "." ++ (["v"] ++ ["a.ea.yaml"]))
    exact .below rfl rfl (by decide) ⟨['a'], rfl⟩
  · exact hargs _ (by grind)

end Lanewise.Discovery
