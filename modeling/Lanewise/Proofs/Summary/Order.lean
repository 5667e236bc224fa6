import Lanewise.Diagnostic
import Mathlib.Data.List.Lex
import Mathlib.Data.Prod.Lex

/-!
# The order of diagnostics

Diagnostics are sorted by place: the name of the file byte by byte, then line, then column
(`placeLe_eq`). Sorting is stable, and what it gives is fixed by what stands at each place:
collections that agree place by place are sorted to the same list (`sort_congr`).
-/

namespace Lanewise

-- ---------------------------------------------------------------------------
-- Bytes
-- ---------------------------------------------------------------------------

namespace Text

def bytes (s : String) : List ℕ := s.toUTF8.data.toList.map UInt8.toNat

def encode (c : Char) : List ℕ := (String.utf8EncodeChar c).map UInt8.toNat

theorem bytes_eq (s : String) : bytes s = s.toList.flatMap encode := by
  have stored : s.toUTF8 = s.toList.utf8Encode := by
    rw [String.toUTF8_eq_toByteArray, ← String.toByteArray_ofList, String.ofList_toList]
  rw [bytes, stored, List.utf8Encode, List.toList_data_toByteArray, List.map_flatMap]
  rfl

/-- The smaller of two characters has the smaller byte where their encodings differ first. -/
theorem encode_append_lt {c d : Char} (h : c < d) (s t : List ℕ) :
    encode c ++ s < encode d ++ t := by
  have h : c.val.toNat < d.val.toNat := h
  have last : d.val.toNat < 0x110000 := by
    rcases d.valid with hd | ⟨-, hd⟩ <;> omega
  unfold encode
  fun_cases String.utf8EncodeChar c <;> fun_cases String.utf8EncodeChar d <;>
    simp only [List.map_cons, List.map_nil, List.cons_append, List.nil_append,
      List.cons_lt_cons_iff, UInt8.toNat_ofNat'] <;>
    simp (disch := omega) only [Nat.mod_eq_of_lt] <;> omega

theorem flatMap_encode_lt {s t : List Char} (h : s < t) : s.flatMap encode < t.flatMap encode := by
  induction s generalizing t with
  | nil =>
    cases t with
    | nil => exact absurd h (List.lt_irrefl _)
    | cons d t =>
      cases hd : String.utf8EncodeChar d with
      | nil => exact absurd hd String.utf8EncodeChar_ne_nil
      | cons => simp [encode, hd]
  | cons c s ih =>
    cases t with
    | nil => exact absurd h (List.not_lt_nil _)
    | cons d t =>
      rw [List.flatMap_cons, List.flatMap_cons]
      rcases List.cons_lt_cons_iff.mp h with hcd | ⟨rfl, hst⟩
      · exact encode_append_lt hcd _ _
      · exact List.append_left_lt (ih hst)

theorem bytes_inj {s t : String} : bytes s = bytes t ↔ s = t := by
  refine ⟨fun h => ?_, fun h => h ▸ rfl⟩
  have hdata := Array.toList_inj.mp (List.map_injective_iff.mpr (fun _ _ => UInt8.toNat_inj.mp) h)
  exact String.toByteArray_inj.mp (ByteArray.ext hdata)

/-- Code points are ordered as the bytes that encode them are. -/
theorem bytes_lt_iff {s t : String} : bytes s < bytes t ↔ s < t := by
  have lt_of_lt {s t : String} (h : s < t) : bytes s < bytes t := by
    rw [bytes_eq, bytes_eq]
    exact flatMap_encode_lt (String.lt_iff.mp h)
  refine ⟨fun h => ?_, lt_of_lt⟩
  by_contra hst
  by_cases hts : t < s
  · exact lt_asymm h (lt_of_lt hts)
  · obtain rfl : s = t := String.le_antisymm (String.not_lt.mp hts) (String.not_lt.mp hst)
    exact lt_irrefl _ h

end Text

-- ---------------------------------------------------------------------------
-- Places
-- ---------------------------------------------------------------------------

namespace Diagnostic

def place (d : Diagnostic) : List ℕ ×ₗ ℤ ×ₗ ℤ :=
  toLex (Text.bytes d.file, toLex (d.pos.line, d.pos.column))

theorem place_eq_iff {a b : Diagnostic} : a.place = b.place ↔ a.file = b.file ∧ a.pos = b.pos := by
  obtain ⟨-, -, -, ⟨line, column⟩, file, -⟩ := a
  obtain ⟨-, -, -, ⟨line', column'⟩, file', -⟩ := b
  simp [place, Text.bytes_inj]

theorem placeLe_eq (a b : Diagnostic) : placeLe a b = decide (a.place ≤ b.place) := by
  rw [Bool.eq_iff_iff, decide_eq_true_eq, place, place, Prod.Lex.toLex_le_toLex,
    Prod.Lex.toLex_le_toLex, Text.bytes_lt_iff, Text.bytes_inj, placeLe]
  by_cases hfile : a.file = b.file
  · by_cases hline : a.pos.line = b.pos.line
    · simp [hfile, hline]
    · simp [hfile, hline]
  · simp [hfile]

theorem placeLe_trans (a b c : Diagnostic) (hab : placeLe a b = true) (hbc : placeLe b c = true) :
    placeLe a c = true := by
  simp only [placeLe_eq, decide_eq_true_eq] at *
  exact hab.trans hbc

theorem placeLe_total (a b : Diagnostic) : (placeLe a b || placeLe b a) = true := by
  simpa [placeLe_eq] using le_total a.place b.place

end Diagnostic

-- ---------------------------------------------------------------------------
-- Sorting
-- ---------------------------------------------------------------------------

namespace Diagnostics

open Diagnostic (placeLe placeLe_trans placeLe_total placeLe_eq place_eq_iff)

def messagesAt (ds : Diagnostics) (file : String) (pos : Pos) : Diagnostics :=
  ds.filter fun d => d.file == file && d.pos == pos

variable {ds ds' : Diagnostics}

theorem mem_messagesAt : d ∈ ds.messagesAt file pos ↔ d ∈ ds ∧ d.file = file ∧ d.pos = pos := by
  simp [messagesAt]

theorem messagesAt_cons (d : Diagnostic) (ds : Diagnostics) (file : String) (pos : Pos) :
    messagesAt (d :: ds) file pos = messagesAt [d] file pos ++ ds.messagesAt file pos :=
  List.filter_append [d] ds

theorem sort_perm (ds : Diagnostics) : ds.sort.Perm ds := List.mergeSort_perm ds placeLe

theorem sort_sorted (ds : Diagnostics) : ds.sort.Pairwise fun a b => a.place ≤ b.place := by
  have h := List.pairwise_mergeSort placeLe_trans placeLe_total ds
  simp only [placeLe_eq, decide_eq_true_eq] at h
  exact h

theorem sort_sort (ds : Diagnostics) : ds.sort.sort = ds.sort :=
  List.mergeSort_of_pairwise (List.pairwise_mergeSort placeLe_trans placeLe_total ds)

/-- Sorting is stable: at each place it leaves the order as it is. -/
theorem messagesAt_sort (ds : Diagnostics) (file : String) (pos : Pos) :
    ds.sort.messagesAt file pos = ds.messagesAt file pos := by
  have tied : (ds.messagesAt file pos).Pairwise fun a b => placeLe a b = true := by
    refine List.pairwise_of_forall_mem_list fun a ha b hb => ?_
    obtain ⟨-, hfile, hpos⟩ := mem_messagesAt.mp ha
    obtain ⟨-, hfile', hpos'⟩ := mem_messagesAt.mp hb
    rw [placeLe_eq, place_eq_iff.mpr ⟨hfile.trans hfile'.symm, hpos.trans hpos'.symm⟩]
    simp
  have kept : (ds.messagesAt file pos).Sublist ds.sort :=
    List.sublist_mergeSort placeLe_trans placeLe_total tied List.filter_sublist
  have kept : (ds.messagesAt file pos).Sublist (ds.sort.messagesAt file pos) := by
    simpa [messagesAt] using kept.filter fun d => d.file == file && d.pos == pos
  exact (kept.eq_of_length ((sort_perm ds).filter _).length_eq.symm).symm

theorem mem_of_messagesAt (h : ∀ file pos, ds.messagesAt file pos = ds'.messagesAt file pos)
    (hd : d ∈ ds) : d ∈ ds' := by
  have hd : d ∈ ds.messagesAt d.file d.pos := mem_messagesAt.mpr ⟨hd, rfl, rfl⟩
  rw [h] at hd
  exact (mem_messagesAt.mp hd).1

/-- A sorted collection is fixed by what it holds at each place. -/
theorem eq_of_messagesAt (hs : ds.Pairwise fun a b => a.place ≤ b.place)
    (hs' : ds'.Pairwise fun a b => a.place ≤ b.place)
    (h : ∀ file pos, ds.messagesAt file pos = ds'.messagesAt file pos) : ds = ds' := by
  induction ds generalizing ds' with
  | nil => exact (List.eq_nil_iff_forall_not_mem.mpr fun d hd =>
      List.not_mem_nil (mem_of_messagesAt (fun file pos => (h file pos).symm) hd)).symm
  | cons a ds ih =>
    cases ds' with
    | nil => exact absurd (mem_of_messagesAt h List.mem_cons_self) List.not_mem_nil
    | cons b ds' =>
      -- Each head is a member of the other collection, so neither stands before the other.
      obtain ⟨hfirst, hrest⟩ := List.pairwise_cons.mp hs
      obtain ⟨hfirst', hrest'⟩ := List.pairwise_cons.mp hs'
      have hab : a.place ≤ b.place := by
        rcases List.mem_cons.mp (mem_of_messagesAt (fun file pos => (h file pos).symm)
          List.mem_cons_self) with rfl | hb
        · exact le_rfl
        · exact hfirst b hb
      have hba : b.place ≤ a.place := by
        rcases List.mem_cons.mp (mem_of_messagesAt h List.mem_cons_self) with rfl | ha
        · exact le_rfl
        · exact hfirst' a ha
      obtain ⟨hfile, hpos⟩ := place_eq_iff.mp (le_antisymm hab hba)
      obtain rfl : a = b := by
        have heads := h a.file a.pos
        simp only [messagesAt, List.filter_cons, hfile, hpos, beq_self_eq_true, Bool.and_self,
          if_true, List.cons.injEq] at heads
        exact heads.1
      refine congrArg _ (ih hrest hrest' fun file pos => ?_)
      have agree := h file pos
      rw [messagesAt_cons a ds, messagesAt_cons a ds'] at agree
      exact List.append_cancel_left agree

theorem sort_congr (h : ∀ file pos, ds.messagesAt file pos = ds'.messagesAt file pos) :
    ds.sort = ds'.sort := by
  refine eq_of_messagesAt (sort_sorted ds) (sort_sorted ds') fun file pos => ?_
  rw [messagesAt_sort, messagesAt_sort, h]

end Diagnostics

end Lanewise
