import Lanewise.Proofs.Typing.Annotation
import Mathlib.Data.List.DropRight

/-!
# Types as they are printed

`resolveText_text`: a type that comes from an annotation prints as a text that resolves to it. The
one exception is a name that begins with `mut `, since the reference to it prints as a mutable
reference to the rest of the name.

The text of a reference is that of its referent behind a `&`, so two facts about every printed text
are carried along: no blank is at its ends, and it does not begin with `mut `.
-/

namespace Lanewise

-- ---------------------------------------------------------------------------
-- Trimmed texts
-- ---------------------------------------------------------------------------

namespace Text

def IsTrimmed (cs : List Char) : Prop :=
  (∀ c ∈ cs.head?, isBlank c = false) ∧ ∀ c ∈ cs.getLast?, isBlank c = false

theorem isBlank_head_dropWhile {cs : List Char} (h : (cs.dropWhile isBlank).head? = some c) :
    isBlank c = false := by
  have first := List.head?_dropWhile_not isBlank cs
  rw [h] at first
  exact first

theorem isTrimmed_trimBlanks (cs : List Char) : IsTrimmed (trimBlanks cs) := by
  constructor
  · intro c hc
    -- What is dropped at the end comes after the first character.
    obtain ⟨rest, hrest⟩ := List.rdropWhile_prefix isBlank (cs.dropWhile isBlank)
    have hc : ((cs.dropWhile isBlank).rdropWhile isBlank).head? = some c := hc
    have hfirst : (cs.dropWhile isBlank).head? = some c := by
      rw [← hrest, List.head?_append, hc, Option.some_or]
    exact isBlank_head_dropWhile hfirst
  · intro c hc
    rw [trimBlanks, List.getLast?_reverse] at hc
    exact isBlank_head_dropWhile hc

theorem trimBlanks_of_isTrimmed {cs : List Char} (h : IsTrimmed cs) : trimBlanks cs = cs := by
  have front : cs.dropWhile isBlank = cs := by
    cases cs with
    | nil => rfl
    | cons c cs => rw [List.dropWhile_cons_of_neg (by simp [h.1 c rfl])]
  have back : cs.rdropWhile isBlank = cs :=
    List.rdropWhile_eq_self_iff.mpr fun hne => by
      simp [h.2 _ (List.getLast?_eq_some_getLast hne)]
  rw [trimBlanks, front]
  exact back

end Text

-- ---------------------------------------------------------------------------
-- Names of scalars and vectors
-- ---------------------------------------------------------------------------

/-- Of ASCII, only the capitals have a small form of their own. -/
theorem Text.lowerChar_eq_self {c : Char} (hascii : c.toNat < 0x80)
    (hcapital : c.toNat < 0x41 ∨ 0x5a < c.toNat) : lowerChar c = c := by
  have table : ∀ shift ∈ caseShifts,
      0x80 ≤ shift.letters.first ∨ shift.letters = ⟨0x41, 0x5a, 1⟩ := by
    decide +kernel
  have outside : caseShifts.find? (·.letters.contains c.toNat) = none := by
    rw [List.find?_eq_none]
    intro shift hshift hin
    simp only [CodeRange.contains, Bool.and_eq_true, decide_eq_true_eq] at hin
    rcases table shift hshift with hfirst | hletters
    · omega
    · rw [hletters] at hin
      dsimp only at hin
      omega
  rw [lowerChar, outside]

/-- The name has nothing in it that an annotation reads as other than part of a name. -/
def isPlainName (name : String) : Bool :=
  name != "" && name.toList.all fun c => c != '&' && c != '[' && !Text.isBlank c

theorem isPlainName_iff : isPlainName name = true ↔
    name ≠ "" ∧ ∀ c ∈ name.toList, c ≠ '&' ∧ c ≠ '[' ∧ Text.isBlank c = false := by
  simp [isPlainName, and_assoc]

theorem isTrimmed_of_isPlainName (h : isPlainName name = true) : Text.IsTrimmed name.toList := by
  have plain := (isPlainName_iff.mp h).2
  exact ⟨fun c hc => (plain c (List.mem_of_mem_head? hc)).2.2,
    fun c hc => (plain c (List.mem_of_mem_getLast? hc)).2.2⟩

namespace Scalar

theorem isPlainName_text (s : Scalar) : isPlainName s.text = true := by
  cases s <;> decide +kernel

theorem ofName?_text (s : Scalar) : ofName? s.text = some s := by
  cases s <;> rfl

end Scalar

namespace VectorKind

variable {k : VectorKind}

theorem isPlainName_text (h : k.isValid = true) : isPlainName k.text = true := by
  cases k <;> first | decide +kernel | cases h

theorem lower_text (h : k.isValid = true) : Text.lower k.text = k.text := by
  have small : k.text.toList.all fun c =>
      c.toNat < 0x80 && (c.toNat < 0x41 || 0x5a < c.toNat) := by
    cases k <;> first | decide +kernel | cases h
  have same : k.text.toList.map Text.lowerChar = k.text.toList.map id := by
    refine List.map_congr_left fun c hc => ?_
    have hsmall := List.all_eq_true.mp small c hc
    simp only [Bool.and_eq_true, Bool.or_eq_true, decide_eq_true_eq] at hsmall
    exact Text.lowerChar_eq_self hsmall.1 hsmall.2
  rw [Text.lower, same, List.map_id, String.ofList_toList]

theorem scalar_text (k : VectorKind) : Scalar.ofName? k.text = none := by
  cases k <;> rfl

theorem ofName?_text (h : k.isValid = true) : ofName? k.text = some k := by
  have trimmed := isTrimmed_of_isPlainName (isPlainName_text h)
  rw [ofName?, Text.trim, Text.trimBlanks_of_isTrimmed trimmed, String.ofList_toList, lower_text h]
  -- The list of all kinds is searched for the name as it stands.
  cases k <;> first | rfl | cases h

end VectorKind

-- ---------------------------------------------------------------------------
-- Printed types
-- ---------------------------------------------------------------------------

def Ty.innermost : Ty → Ty
  | .array t | .reference t => t.innermost
  | t => t

/-- The type is what its text spells, also behind a `&`. -/
structure Ty.ReadsBack (names : NameRule) (t : Ty) : Prop where
  spells : Spells names t.text.toList t
  isTrimmed : Text.IsTrimmed t.text.toList
  notMut : ∀ rest, t.text.toList ≠ 'm' :: 'u' :: 't' :: ' ' :: rest

theorem Spells.ne_nil (h : Spells names cs t) : cs ≠ [] := by
  cases h with
  | name hne => exact hne
  | _ => simp

namespace Ty.ReadsBack

variable {names : NameRule} {t : Ty}

theorem of_isPlainName (h : isPlainName t.text = true) (hmeans : names.Means t.text t) :
    t.ReadsBack names := by
  obtain ⟨hne, plain⟩ := isPlainName_iff.mp h
  refine ⟨?_, isTrimmed_of_isPlainName h, fun rest hcs => ?_⟩
  · refine .name (by simpa using hne) (fun rest hcs => ?_) (fun rest hcs => ?_)
      (by rwa [String.ofList_toList])
    · exact (plain '&' (by simp [hcs])).1 rfl
    · exact (plain '[' (by simp [hcs])).2.1 rfl
  · cases (plain ' ' (by simp [hcs])).2.2

theorem reference (h : t.ReadsBack names) : (Ty.reference t).ReadsBack names := by
  have text : (Ty.reference t).text.toList = '&' :: t.text.toList := by
    simp [Ty.text]
  refine ⟨?_, ?_, ?_⟩
  · rw [text]
    exact .reference h.notMut (by rw [Text.trimBlanks_of_isTrimmed h.isTrimmed]; exact h.spells)
  · rw [text]
    refine ⟨fun c hc => by cases hc; rfl, fun c hc => h.isTrimmed.2 c ?_⟩
    rwa [List.getLast?_cons_of_ne_nil h.spells.ne_nil] at hc
  · rw [text]
    simp

theorem array (h : t.ReadsBack names) : (Ty.array t).ReadsBack names := by
  have text : (Ty.array t).text.toList = '[' :: t.text.toList ++ [']'] := by
    simp [Ty.text]
  refine ⟨?_, ?_, ?_⟩
  · rw [text]
    exact .array (by rw [Text.trimBlanks_of_isTrimmed h.isTrimmed]; exact h.spells)
  · rw [text]
    refine ⟨fun c hc => by cases hc; rfl, fun c hc => ?_⟩
    rw [List.getLast?_concat] at hc
    cases hc
    rfl
  · rw [text]
    simp

end Ty.ReadsBack

theorem Spells.readsBack (h : Spells names cs t) (hcs : Text.IsTrimmed cs)
    (hmut : ∀ name, t.innermost = .custom name → ¬ "mut ".toList <+: name.toList) :
    t.ReadsBack names := by
  induction h with
  | mutReference _ ih | reference _ _ ih => exact (ih (Text.isTrimmed_trimBlanks _) hmut).reference
  | array _ ih => exact (ih (Text.isTrimmed_trimBlanks _) hmut).array
  | @name cs t hne href harr hmeans =>
    cases hmeans with
    | @scalar s hs => exact .of_isPlainName s.isPlainName_text (.scalar s.ofName?_text)
    | @vector k hs hk =>
      have hvalid := VectorKind.isValid_of_ofName? hk
      exact .of_isPlainName (VectorKind.isPlainName_text hvalid)
        (.vector k.scalar_text (VectorKind.ofName?_text hvalid))
    | custom hs hk hallows =>
      -- A user's name is printed as it was written.
      have text : (Ty.custom (String.ofList cs)).text.toList = cs := String.toList_ofList
      refine ⟨?_, ?_, ?_⟩
      · rw [text]
        exact .name hne href harr (.custom hs hk hallows)
      · rw [text]
        exact hcs
      · intro rest hrest
        refine hmut _ rfl ⟨rest, ?_⟩
        exact hrest.symm

open WrittenType in
/-- The text of a type that an annotation resolves to resolves to this type again, unless the
innermost part is a name that begins with `mut `. -/
theorem resolveText_text (names : NameRule) (s : String) (t : Ty)
    (h : resolveText names (Text.trimBlanks s.toList) = .ok t)
    (hmut : ∀ name, t.innermost = .custom name → ¬ "mut ".toList <+: name.toList) :
    resolveText names t.text.toList = .ok t := by
  have readsBack := (resolveText_sound h).readsBack (Text.isTrimmed_trimBlanks _) hmut
  exact resolveText_complete readsBack.spells

theorem resolveText_text_mutable :
    WrittenType.resolveText ⟨false, ["mutable"]⟩ "&[&mutable]".toList =
      .ok (.reference (.array (.reference (.custom "mutable")))) := by
  refine resolveText_text ⟨false, ["mutable"]⟩ " &mut [ & mutable ]"
    (.reference (.array (.reference (.custom "mutable")))) (by decide +kernel) ?_
  intro name h
  cases h
  decide

-- A name that begins with `mut ` loses this part behind a `&`.
example :
    WrittenType.resolveText ⟨true, []⟩ "& mut T".toList = .ok (.reference (.custom "mut T")) ∧
      (Ty.reference (.custom "mut T")).text = "&mut T" ∧
      WrittenType.resolveText ⟨true, []⟩ "&mut T".toList = .ok (.reference (.custom "T")) := by
  decide +kernel

end Lanewise
