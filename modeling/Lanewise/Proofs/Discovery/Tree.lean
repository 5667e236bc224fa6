import Lanewise.File.Tree
import Lanewise.Proofs.Fixture.Part
import Mathlib.Data.String.Basic

/-!
# Files in trees

What a walk through a tree visits, and how a path tells its file. In a proper tree a name stands
for one entry, and it is neither empty nor does it have slashes in it. The walk then visits exactly
the files that a route without hidden folders leads to (`mem_visibleFiles`), and files at different
routes have different paths (`text_injective`). Trees that are made of files are proper
(`ofFiles_isProper`).
-/

namespace Lanewise.File

-- ---------------------------------------------------------------------------
-- Proper trees
-- ---------------------------------------------------------------------------

def IsName (name : String) : Prop := name ≠ "" ∧ '/' ∉ name.toList

instance : DecidablePred IsName := fun name =>
  inferInstanceAs (Decidable (name ≠ "" ∧ '/' ∉ name.toList))

/-- In every folder the entries have names and are ordered by them, so no name is there twice. -/
inductive Entry.IsProper : Entry → Prop
  | file : IsProper (.file text)
  | folder {items : List (String × Entry)} (hordered : (items.map (·.1)).Pairwise (· < ·))
      (hnames : ∀ p ∈ items, IsName p.1) (hitems : ∀ p ∈ items, IsProper p.2) :
      IsProper (.folder items)

namespace Entry

variable {e e' : Entry} {items : List (String × Entry)} {name : String} {r below : Route}

theorem lookup_eq_some (hordered : (items.map (·.1)).Pairwise (· < ·)) :
    items.lookup name = some e ↔ (name, e) ∈ items := by
  have hnodup : (items.map (·.1)).Nodup := hordered.imp fun hlt => ne_of_lt hlt
  refine ⟨fun h => ?_, Fixture.Form.lookup_of_mem hnodup⟩
  obtain ⟨before, after, rfl, -⟩ := List.lookup_eq_some_iff.mp h
  simp

theorem find_folder : find (.folder items) (name :: r) = .ok e ↔
    ∃ inner, items.lookup name = some inner ∧ inner.find r = .ok e := by
  rw [find]
  cases items.lookup name <;> simp

theorem IsProper.names (he : e.IsProper) (h : e.find r = .ok e') : ∀ name ∈ r, IsName name := by
  induction r generalizing e with
  | nil => simp
  | cons name r ih =>
    cases he with
    | file => cases h
    | folder hordered hnames hitems =>
      obtain ⟨inner, hlookup, hfind⟩ := find_folder.mp h
      have hmem := (lookup_eq_some hordered).mp hlookup
      exact List.forall_mem_cons.mpr ⟨hnames _ hmem, ih (hitems _ hmem) hfind⟩

theorem IsProper.find (he : e.IsProper) (h : e.find r = .ok e') : e'.IsProper := by
  induction r generalizing e with
  | nil => exact Except.ok.inj h ▸ he
  | cons name r ih =>
    cases he with
    | file => cases h
    | folder hordered _ hitems =>
      obtain ⟨inner, hlookup, hfind⟩ := find_folder.mp h
      exact ih (hitems _ ((lookup_eq_some hordered).mp hlookup)) hfind

theorem find_append (h : e.find r = .ok e') : e.find (r ++ below) = e'.find below := by
  induction r generalizing e with
  | nil => rw [List.nil_append, Except.ok.inj h]
  | cons name r ih =>
    cases e with
    | file => cases h
    | folder items =>
      obtain ⟨inner, hlookup, hfind⟩ := find_folder.mp h
      simpa [find, hlookup] using ih hfind

-- ---------------------------------------------------------------------------
-- Walks
-- ---------------------------------------------------------------------------

/-- No folder on the way to the last name is hidden. -/
def Visible (below : Route) : Prop := ∀ name ∈ below.dropLast, name.toList.head? ≠ some '.'

theorem mem_visibleFilesIn : r ∈ visibleFilesIn start items ↔
    ∃ p ∈ items, (p.2.isFolder = true → p.1.toList.head? ≠ some '.') ∧
      r ∈ visibleFiles (start ++ [p.1]) p.2 := by
  induction items with
  | nil => simp [visibleFilesIn]
  | cons p rest ih =>
    have hfirst : (r ∈ if p.2.isFolder && p.1.toList.head? == some '.' then []
          else visibleFiles (start ++ [p.1]) p.2) ↔
        (p.2.isFolder = true → p.1.toList.head? ≠ some '.') ∧
          r ∈ visibleFiles (start ++ [p.1]) p.2 := by
      split
      case isTrue hhidden => simp_all
      case isFalse hvisible => simp_all
    simp only [visibleFilesIn, List.mem_append, ih, hfirst, List.mem_cons, exists_eq_or_imp]

theorem mem_visibleFiles (he : e.IsProper) : r ∈ visibleFiles start e ↔
    ∃ below text, r = start ++ below ∧ e.find below = .ok (.file text) ∧ Visible below := by
  induction he generalizing start with
  | @file text =>
    simp only [visibleFiles, List.mem_singleton]
    constructor
    · rintro rfl
      exact ⟨[], text, by simp, rfl, by simp [Visible]⟩
    · rintro ⟨below, other, rfl, hfind, -⟩
      cases below with
      | nil => simp
      | cons => cases hfind
  | @folder items hordered _ _ ih =>
    rw [visibleFiles, mem_visibleFilesIn]
    constructor
    · rintro ⟨p, hp, hhidden, hr⟩
      obtain ⟨below, text, rfl, hfind, hvisible⟩ := (ih p hp).mp hr
      refine ⟨p.1 :: below, text, by simp, ?_, ?_⟩
      · exact find_folder.mpr ⟨p.2, (lookup_eq_some hordered).mpr hp, hfind⟩
      · cases below with
        | nil => simp [Visible]
        | cons next below =>
          -- There is a file below the entry, so it is a folder.
          have hfolder : p.2.isFolder = true := by
            cases hentry : p.2 with
            | file => rw [hentry] at hfind; cases hfind
            | folder => rfl
          exact List.forall_mem_cons.mpr ⟨hhidden hfolder, hvisible⟩
    · rintro ⟨below, text, rfl, hfind, hvisible⟩
      cases below with
      | nil => cases hfind
      | cons name below =>
        obtain ⟨inner, hlookup, hfind⟩ := find_folder.mp hfind
        refine ⟨(name, inner), (lookup_eq_some hordered).mp hlookup, ?_, ?_⟩
        · intro hfolder
          cases below with
          | nil => rw [Except.ok.inj hfind] at hfolder; cases hfolder
          | cons next below => exact hvisible name List.mem_cons_self
        · refine (ih (name, inner) ((lookup_eq_some hordered).mp hlookup)).mpr
            ⟨below, text, by simp, hfind, ?_⟩
          cases below with
          | nil => simp [Visible]
          | cons next below => exact fun n hn => hvisible n (List.mem_cons_of_mem _ hn)

end Entry

-- ---------------------------------------------------------------------------
-- Paths
-- ---------------------------------------------------------------------------

namespace Route

variable {r r' : Route}

/-- The names of a route stand between the slashes of its path. -/
theorem names_of_text (hr : ∀ name ∈ r, IsName name) :
    (r.text.toList.tail.splitOn '/').filter (· ≠ []) = r.map String.toList := by
  have htail : r.text.toList.tail = ['/'].intercalate (r.map String.toList) := by
    simp [text, String.toList_intercalate]
  rw [htail]
  cases r with
  | nil => rfl
  | cons name rest =>
    rw [List.splitOn_intercalate '/' _ (by simp)]
    · refine List.filter_eq_self.mpr fun cs hcs => ?_
      obtain ⟨n, hn, rfl⟩ := List.mem_map.mp hcs
      simpa using (hr n hn).1
    · intro cs hcs
      obtain ⟨n, hn, rfl⟩ := List.mem_map.mp hcs
      exact (hr n hn).2

theorem text_injective (hr : ∀ name ∈ r, IsName name) (hr' : ∀ name ∈ r', IsName name)
    (h : r.text = r'.text) : r = r' := by
  have hnames : r.map String.toList = r'.map String.toList := by
    rw [← names_of_text hr, ← names_of_text hr', h]
  exact List.map_injective_iff.mpr (fun _ _ => String.toList_injective) hnames

end Route

-- ---------------------------------------------------------------------------
-- Trees of files
-- ---------------------------------------------------------------------------

namespace Entry

variable {e new old : Entry} {items : List (String × Entry)} {name : String} {p : String × Entry}
  {r : Route}

theorem mem_insert (h : p ∈ insert name e items) : p = (name, e) ∨ p ∈ items := by
  induction items with
  | nil => exact .inl (by simpa [insert] using h)
  | cons q rest ih =>
    rw [insert] at h
    split at h
    · simpa using h
    · split at h
      · simp only [List.mem_cons] at h ⊢
        exact h.imp_right .inr
      · rcases List.mem_cons.mp h with rfl | h
        · simp
        · exact (ih h).imp_right (List.mem_cons_of_mem _)

theorem insert_ordered (hordered : (items.map (·.1)).Pairwise (· < ·)) :
    ((insert name e items).map (·.1)).Pairwise (· < ·) := by
  induction items with
  | nil => simp [insert]
  | cons q rest ih =>
    obtain ⟨hfirst, hrest⟩ := List.pairwise_cons.mp hordered
    rw [insert]
    split
    case isTrue hlt =>
      refine List.pairwise_cons.mpr ⟨fun n hn => ?_, hordered⟩
      rcases List.mem_cons.mp hn with rfl | hn
      · exact hlt
      · exact lt_trans hlt (hfirst n hn)
    case isFalse hge =>
      split
      case isTrue heq =>
        obtain rfl := eq_of_beq heq
        exact hordered
      case isFalse hne =>
        have hlt : q.1 < name := lt_of_le_of_ne (not_lt.mp hge) fun heq => hne (by simp [heq])
        refine List.pairwise_cons.mpr ⟨fun n hn => ?_, ih hrest⟩
        obtain ⟨p, hp, rfl⟩ := List.mem_map.mp hn
        rcases mem_insert hp with rfl | hp
        · exact hlt
        · exact hfirst _ (List.mem_map_of_mem hp)

theorem IsProper.empty : (Entry.folder []).IsProper := .folder .nil (by simp) (by simp)

theorem IsProper.entries (he : e.IsProper) : (Entry.folder e.entries).IsProper := by
  cases he with
  | file => exact .empty
  | folder hordered hnames hitems => exact .folder hordered hnames hitems

theorem IsProper.put (hnew : new.IsProper) (hr : ∀ name ∈ r, IsName name) (hold : old.IsProper) :
    (put new r old).IsProper := by
  induction r generalizing old with
  | nil =>
    rw [Entry.put]
    split
    · exact hold
    · exact hnew
  | cons name r ih =>
    obtain ⟨hname, hr⟩ := List.forall_mem_cons.mp hr
    cases hold.entries with
    | folder hordered hnames hitems =>
      have hbelow : ((old.entries.lookup name).getD (.folder [])).IsProper := by
        cases hlookup : old.entries.lookup name with
        | none => exact .empty
        | some inner => exact hitems _ ((lookup_eq_some hordered).mp hlookup)
      refine .folder (insert_ordered hordered) (fun p hp => ?_) (fun p hp => ?_)
      · rcases mem_insert hp with rfl | hp
        · exact hname
        · exact hnames p hp
      · rcases mem_insert hp with rfl | hp
        · exact ih hr hbelow
        · exact hitems p hp

end Entry

theorem Tree.ofFiles_isProper {here : Route} {folders : List Route} {files : List (Route × String)}
    (hfolders : ∀ r ∈ here :: folders, ∀ name ∈ r, IsName name)
    (hfiles : ∀ p ∈ files, ∀ name ∈ p.1, IsName name) :
    (ofFiles here folders files).root.IsProper := by
  refine List.foldlRecOn files _ (List.foldlRecOn (here :: folders) _ Entry.IsProper.empty ?_) ?_
  · exact fun e he r hr => .put .empty (hfolders r hr) he
  · exact fun e he p hp => .put .file (hfiles p hp) he

end Lanewise.File
