import Lanewise.Program.Printer

/-!
# Outlines

An outline is a tree of texts, printed as program trees are: one line for each text, and what stands
below it two spaces further in. Outlines with the same print are the same, provided that every text
is a line that does not begin with a space (`print_injective`). The indentation tells the level of a
line, and a list of outlines goes on up to the first line of a lower level.
-/

namespace Lanewise

-- ---------------------------------------------------------------------------
-- Lists
-- ---------------------------------------------------------------------------

/-- If the members of two lists are told apart by `f` at least as well as by `g`, so are the
lists. -/
theorem map_eq_map_of_imp {xs ys : List α} {f : α → β} {g : α → γ} (h : xs.map f = ys.map f)
    (himp : ∀ x ∈ xs, ∀ y ∈ ys, f x = f y → g x = g y) : xs.map g = ys.map g := by
  induction xs generalizing ys with
  | nil =>
    obtain rfl := List.map_eq_nil_iff.mp h.symm
    rfl
  | cons x xs ih =>
    cases ys with
    | nil => cases h
    | cons y ys =>
      obtain ⟨hfirst, hrest⟩ := List.cons.inj h
      rw [List.map_cons, List.map_cons, himp x List.mem_cons_self y List.mem_cons_self hfirst,
        ih hrest fun x hx y hy => himp x (.tail _ hx) y (.tail _ hy)]

/-- The first occurrence of a separator tells where the part before it ends. -/
theorem append_separator_inj {a b rest rest' : List α} (ha : separator ∉ a) (hb : separator ∉ b)
    (h : a ++ separator :: rest = b ++ separator :: rest') : a = b ∧ rest = rest' := by
  induction a generalizing b with
  | nil =>
    cases b with
    | nil => exact ⟨rfl, (List.cons.inj h).2⟩
    | cons y b =>
      obtain ⟨rfl, -⟩ := List.cons.inj h
      exact absurd List.mem_cons_self hb
  | cons x a ih =>
    cases b with
    | nil =>
      obtain ⟨rfl, -⟩ := List.cons.inj h
      exact absurd List.mem_cons_self ha
    | cons y b =>
      obtain ⟨rfl, htail⟩ := List.cons.inj h
      obtain ⟨rfl, hrest⟩ := ih (List.not_mem_of_not_mem_cons ha) (List.not_mem_of_not_mem_cons hb)
        htail
      exact ⟨rfl, hrest⟩

-- ---------------------------------------------------------------------------
-- Lines
-- ---------------------------------------------------------------------------

/-- A text that stays on its line and does not begin further in. -/
structure IsLine (text : String) : Prop where
  newline_notMem : '\n' ∉ text.toList
  head?_ne : text.toList.head? ≠ some ' '

instance (text : String) : Decidable (IsLine text) :=
  decidable_of_iff ('\n' ∉ text.toList ∧ text.toList.head? ≠ some ' ')
    ⟨fun h => ⟨h.1, h.2⟩, fun h => ⟨h.newline_notMem, h.head?_ne⟩⟩

abbrev Line := Nat × String

theorem toList_treeLine (level : Nat) (text : String) : (treeLine level text).toList =
    List.replicate (2 * level) ' ' ++ text.toList ++ ['\n'] := by
  simp [treeLine]

theorem level_eq {a b : List Char} (ha : a.head? ≠ some ' ') (hb : b.head? ≠ some ' ')
    (h : List.replicate n ' ' ++ a = List.replicate m ' ' ++ b) : n = m ∧ a = b := by
  induction n generalizing m with
  | zero =>
    cases m with
    | zero => simpa using h
    | succ m =>
      rw [List.replicate_zero, List.nil_append] at h
      exact absurd (h ▸ rfl) ha
  | succ n ih =>
    cases m with
    | zero =>
      rw [List.replicate_zero, List.nil_append] at h
      exact absurd (h ▸ rfl) hb
    | succ m =>
      simp only [List.replicate_succ, List.cons_append, List.cons.injEq, true_and] at h
      obtain ⟨rfl, hab⟩ := ih h
      exact ⟨rfl, hab⟩

theorem treeLine_append_inj {rest rest' : List Char} (ha : IsLine a) (hb : IsLine b)
    (h : (treeLine n a).toList ++ rest = (treeLine m b).toList ++ rest') :
    n = m ∧ a = b ∧ rest = rest' := by
  have hspaces (k : Nat) (text : String) (htext : IsLine text) :
      '\n' ∉ List.replicate (2 * k) ' ' ++ text.toList := by
    simp [htext.newline_notMem]
  simp only [toList_treeLine, List.append_assoc, List.singleton_append] at h
  rw [← List.append_assoc, ← List.append_assoc] at h
  obtain ⟨hline, hrest⟩ := append_separator_inj (hspaces n a ha) (hspaces m b hb) h
  obtain ⟨hlevel, htext⟩ := level_eq ha.head?_ne hb.head?_ne hline
  exact ⟨by omega, String.toList_injective htext, hrest⟩

def linesText (lines : List Line) : List Char := lines.flatMap fun l => (treeLine l.1 l.2).toList

theorem linesText_injective {lines lines' : List Line} (hlines : ∀ l ∈ lines, IsLine l.2)
    (hlines' : ∀ l ∈ lines', IsLine l.2) (h : linesText lines = linesText lines') :
    lines = lines' := by
  have nonempty (l : Line) : (treeLine l.1 l.2).toList ≠ [] := by simp [toList_treeLine]
  induction lines generalizing lines' with
  | nil =>
    cases lines' with
    | nil => rfl
    | cons l' lines' => simp [linesText, nonempty] at h
  | cons l lines ih =>
    cases lines' with
    | nil => simp [linesText, nonempty] at h
    | cons l' lines' =>
      rw [List.forall_mem_cons] at hlines hlines'
      simp only [linesText, List.flatMap_cons] at h
      obtain ⟨hlevel, htext, hrest⟩ := treeLine_append_inj hlines.1 hlines'.1 h
      rw [Prod.ext hlevel htext, ih hlines.2 hlines'.2 hrest]

-- ---------------------------------------------------------------------------
-- Outlines
-- ---------------------------------------------------------------------------

inductive Outline
  | node (text : String) (below : List Outline)

namespace Outline

def text : Outline → String
  | node text _ => text

mutual
def print (level : Nat) : Outline → String
  | node text below => treeLine level text ++ printAll (level + 1) below
def printAll (level : Nat) : List Outline → String
  | [] => ""
  | t :: rest => t.print level ++ printAll level rest
end

mutual
def IsLined : Outline → Prop
  | node text below => IsLine text ∧ AllLined below
def AllLined : List Outline → Prop
  | [] => True
  | t :: rest => t.IsLined ∧ AllLined rest
end

mutual
def lines (level : Nat) : Outline → List Line
  | node text below => (level, text) :: linesOfAll (level + 1) below
def linesOfAll (level : Nat) : List Outline → List Line
  | [] => []
  | t :: rest => t.lines level ++ linesOfAll level rest
end

mutual
theorem toList_print (level : Nat) : (t : Outline) →
    (t.print level).toList = linesText (t.lines level)
  | node text below => by
    simp [print, lines, linesText, toList_printAll]
theorem toList_printAll (level : Nat) : (ts : List Outline) →
    (printAll level ts).toList = linesText (linesOfAll level ts)
  | [] => by simp [printAll, linesOfAll, linesText]
  | t :: rest => by
    simp [printAll, linesOfAll, linesText, toList_print, toList_printAll]
end

mutual
theorem IsLined.lines : (t : Outline) → t.IsLined → ∀ l ∈ t.lines level, IsLine l.2
  | node text below, h => by
    rw [Outline.lines, List.forall_mem_cons]
    exact ⟨h.1, AllLined.lines below h.2⟩
theorem AllLined.lines : (ts : List Outline) → AllLined ts → ∀ l ∈ linesOfAll level ts, IsLine l.2
  | [], _ => by simp [linesOfAll]
  | t :: rest, h => by
    rw [linesOfAll, List.forall_mem_append]
    exact ⟨IsLined.lines t h.1, AllLined.lines rest h.2⟩
end

/-- What stands below a level ends in front of these lines. -/
def EndsLevel (level : Nat) (rest : List Line) : Prop := ∀ l ∈ rest.head?, l.1 < level

theorem EndsLevel.below {rest : List Line} (h : EndsLevel level rest) (ts : List Outline) :
    EndsLevel (level + 1) (linesOfAll level ts ++ rest) := by
  cases ts with
  | nil => exact fun l hl => Nat.lt_succ_of_lt (h l hl)
  | cons t ts =>
    obtain ⟨text, below⟩ := t
    rintro _ ⟨⟩
    exact Nat.lt_succ_self level

/-- A list of outlines is found again in its lines, whatever lines of a lower level come behind. -/
theorem linesOfAll_inj : (ts us : List Outline) → {level : Nat} → {rest rest' : List Line} →
    EndsLevel level rest → EndsLevel level rest' →
    linesOfAll level ts ++ rest = linesOfAll level us ++ rest' → ts = us ∧ rest = rest'
  | [], [], _, _, _, _, _, h => ⟨rfl, h⟩
  | [], node text below :: us, level, rest, rest', hrest, _, h => by
    simp only [linesOfAll, lines, List.nil_append, List.cons_append] at h
    exact absurd (hrest (level, text) (by simp [h])) (Nat.lt_irrefl level)
  | node text below :: ts, [], level, rest, rest', _, hrest', h => by
    simp only [linesOfAll, lines, List.nil_append, List.cons_append] at h
    exact absurd (hrest' (level, text) (by simp [← h])) (Nat.lt_irrefl level)
  | node text below :: ts, node text' below' :: us, level, rest, rest', hrest, hrest', h => by
    simp only [linesOfAll, lines, List.cons_append, List.append_assoc, List.cons.injEq,
      Prod.mk.injEq, true_and] at h
    obtain ⟨rfl, htail⟩ := h
    obtain ⟨rfl, hothers⟩ := linesOfAll_inj below below' (hrest.below ts) (hrest'.below us) htail
    obtain ⟨rfl, hsame⟩ := linesOfAll_inj ts us hrest hrest' hothers
    exact ⟨rfl, hsame⟩

theorem printAll_injective {ts us : List Outline} (hts : AllLined ts) (hus : AllLined us)
    (h : printAll level ts = printAll level us) : ts = us := by
  have htext : linesText (linesOfAll level ts) = linesText (linesOfAll level us) := by
    rw [← toList_printAll, ← toList_printAll, h]
  have hlines := linesText_injective (AllLined.lines ts hts) (AllLined.lines us hus) htext
  have hend : EndsLevel level [] := nofun
  exact (linesOfAll_inj ts us hend hend (by simpa using hlines)).1

theorem print_injective {t u : Outline} (ht : t.IsLined) (hu : u.IsLined)
    (h : t.print level = u.print level) : t = u := by
  have hts : AllLined [t] := ⟨ht, trivial⟩
  have hus : AllLined [u] := ⟨hu, trivial⟩
  have hall : printAll level [t] = printAll level [u] := by simp only [printAll, h]
  exact (List.cons.inj (printAll_injective hts hus hall)).1

-- ---------------------------------------------------------------------------
-- Headings
-- ---------------------------------------------------------------------------

/-- Outlines under a heading, which is left out if there are none. -/
def under (heading : String) : List Outline → List Outline
  | [] => []
  | below => [node heading below]

theorem printAll_append (ts us : List Outline) :
    printAll level (ts ++ us) = printAll level ts ++ printAll level us := by
  induction ts with
  | nil => simp [printAll]
  | cons t ts ih => simp [printAll, ih, String.append_assoc]

theorem printAll_under (heading : String) (ts : List Outline) :
    printAll level (under heading ts) =
      if ts.isEmpty then "" else treeLine level heading ++ printAll (level + 1) ts := by
  cases ts with
  | nil => simp [under, printAll]
  | cons t ts => simp [under, printAll, print]

theorem allLined_iff {ts : List Outline} : AllLined ts ↔ ∀ t ∈ ts, t.IsLined := by
  induction ts with
  | nil => simp [AllLined]
  | cons t ts ih => simp [AllLined, ih]

theorem allLined_append {ts us : List Outline} :
    AllLined (ts ++ us) ↔ AllLined ts ∧ AllLined us := by
  induction ts with
  | nil => simp [AllLined]
  | cons t ts ih => simp [AllLined, ih, and_assoc]

theorem AllLined.under {below : List Outline} (hheading : IsLine heading) (h : AllLined below) :
    AllLined (under heading below) := by
  cases below with
  | nil => trivial
  | cons t ts => exact ⟨⟨hheading, h⟩, trivial⟩

def Avoids (heading : String) (rest : List Outline) : Prop := ∀ t ∈ rest.head?, t.text ≠ heading

theorem avoids_singleton (hne : other ≠ heading) : Avoids heading [node other below] := by
  rintro _ ⟨⟩
  exact hne

theorem Avoids.under {rest : List Outline} (hne : other ≠ heading) (h : Avoids heading rest)
    (ts : List Outline) : Avoids heading (under other ts ++ rest) := by
  cases ts with
  | nil => exact h
  | cons t ts =>
    rintro _ ⟨⟩
    exact hne

theorem under_append_inj {ts us rest rest' : List Outline} (hrest : Avoids heading rest)
    (hrest' : Avoids heading rest') (h : under heading ts ++ rest = under heading us ++ rest') :
    ts = us ∧ rest = rest' := by
  cases ts with
  | nil =>
    cases us with
    | nil => exact ⟨rfl, h⟩
    | cons u us =>
      change rest = node heading (u :: us) :: rest' at h
      exact absurd rfl (hrest (node heading (u :: us)) (h ▸ rfl))
  | cons t ts =>
    cases us with
    | nil =>
      change node heading (t :: ts) :: rest = rest' at h
      exact absurd rfl (hrest' (node heading (t :: ts)) (h ▸ rfl))
    | cons u us => simpa [under] using h

theorem under_injective {ts us : List Outline} (h : under heading ts = under heading us) :
    ts = us := by
  have hnone : Avoids heading [] := nofun
  exact (under_append_inj hnone hnone (by rw [h])).1

end Outline

end Lanewise
