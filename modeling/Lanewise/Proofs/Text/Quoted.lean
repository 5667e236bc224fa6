import Lanewise.Text.Quoted
import Lanewise.Yaml.Scalar.Quoted
import Mathlib.Tactic.Ring

/-!
# Quoted text reads back

Two texts with the same quoted form are the same (`quoted_injective`), and a quoted text stays on
its line. Each character is quoted by itself, and what stands for it ends where the next one begins:
the letter behind a backslash tells how many digits follow. The escapes are among those of quoted
scalars, so they are read by the same tables (`unquotedChar?`).
-/

namespace Lanewise.Text

open Yaml (hexValue? hexNumber? simpleEscape? escapeDigits?)

-- ---------------------------------------------------------------------------
-- Hexadecimal digits
-- ---------------------------------------------------------------------------

theorem hexValue?_digitChar (h : n < 16) : hexValue? n.digitChar = some n := by
  have all : ∀ n < 16, hexValue? n.digitChar = some n := by decide
  exact all n h

/-- The digits of a number are read one by one, the last of them in front of whatever follows. -/
theorem hexNumber?_toDigits (n m value : Nat) (rest : List Char) :
    hexNumber? ((Nat.toDigits 16 n).length + m) value (Nat.toDigits 16 n ++ rest) =
      hexNumber? m (16 ^ (Nat.toDigits 16 n).length * value + n) rest := by
  induction n using Nat.base_induction 16 (by decide) generalizing m rest with
  | single d hd =>
    rw [Nat.toDigits_of_lt_base hd, List.length_singleton, Nat.add_comm 1 m, List.singleton_append,
      hexNumber?, hexValue?_digitChar hd]
    simp
  | digit n d hd hn ih =>
    rw [← Nat.toDigits_append_toDigits (by decide) hn hd, Nat.toDigits_of_lt_base hd,
      List.length_append, List.length_singleton, Nat.add_assoc, List.append_assoc, ih,
      Nat.add_comm 1 m, List.singleton_append, hexNumber?, hexValue?_digitChar hd]
    simp only [Option.bind_eq_bind, Option.bind_some, Nat.pow_succ]
    congr 1
    ring

theorem hexNumber?_zeros (n m : Nat) (rest : List Char) :
    hexNumber? (n + m) 0 (List.replicate n '0' ++ rest) = hexNumber? m 0 rest := by
  induction n with
  | zero => simp
  | succ n ih =>
    rw [Nat.add_right_comm, List.replicate_succ, List.cons_append, hexNumber?]
    exact ih

theorem hexNumber?_hexDigits (hwidth : 0 < width) (h : n < 16 ^ width) (rest : List Char) :
    hexNumber? width 0 (hexDigits width n ++ rest) = some n := by
  have hlength := (Nat.length_toDigits_le_iff (by decide) hwidth).mpr h
  have hsplit :
      width = (width - (Nat.toDigits 16 n).length) + ((Nat.toDigits 16 n).length + 0) := by
    omega
  rw [hexDigits, List.append_assoc]
  nth_rewrite 1 [hsplit]
  rw [hexNumber?_zeros, hexNumber?_toDigits]
  simp [hexNumber?]

theorem length_hexDigits (hwidth : 0 < width) (h : n < 16 ^ width) :
    (hexDigits width n).length = width := by
  have hlength := (Nat.length_toDigits_le_iff (by decide) hwidth).mpr h
  rw [hexDigits, List.length_append, List.length_replicate]
  omega

theorem hexValue?_of_mem_toDigits (h : c ∈ Nat.toDigits 16 n) : ∃ d, hexValue? c = some d := by
  induction n using Nat.base_induction 16 (by decide) with
  | single d hd =>
    rw [Nat.toDigits_of_lt_base hd, List.mem_singleton] at h
    exact ⟨d, h ▸ hexValue?_digitChar hd⟩
  | digit n d hd hn ih =>
    rw [← Nat.toDigits_append_toDigits (by decide) hn hd, Nat.toDigits_of_lt_base hd,
      List.mem_append, List.mem_singleton] at h
    rcases h with h | rfl
    · exact ih h
    · exact ⟨d, hexValue?_digitChar hd⟩

theorem newline_notMem_hexDigits : '\n' ∉ hexDigits width n := by
  intro h
  rcases List.mem_append.mp h with h | h
  · cases List.eq_of_mem_replicate h
  · obtain ⟨d, hd⟩ := hexValue?_of_mem_toDigits h
    cases hd

-- ---------------------------------------------------------------------------
-- Characters
-- ---------------------------------------------------------------------------

def unquotedChar? : List Char → Option (Char × List Char)
  | [] => none
  | '\\' :: letter :: rest =>
    match escapeDigits? letter with
    | some width => (hexNumber? width 0 rest).map fun n => (Char.ofNat n, rest.drop width)
    | none => (simpleEscape? letter).map (·, rest)
  | c :: rest => some (c, rest)

theorem unquotedChar?_plain (h : c ≠ '\\') : unquotedChar? (c :: rest) = some (c, rest) := by
  unfold unquotedChar?
  split
  · cases ‹_ = _›
  · rename_i heq
    exact absurd (List.cons.inj heq).1 h
  · rename_i heq
    rw [(List.cons.inj heq).1, (List.cons.inj heq).2]

theorem simpleEscape?_of_shortEscape? (h : shortEscape? c = some letter) :
    escapeDigits? letter = none ∧ simpleEscape? letter = some c := by
  have hchar (n : Nat) (hn : c.toNat = n) : c = Char.ofNat n := by
    rw [← hn, Char.ofNat_toNat]
  unfold shortEscape? at h
  split at h
  case h_8 => cases h
  all_goals
    obtain rfl := Option.some.inj h
    rename_i hn
    rw [hchar _ hn]
    exact ⟨rfl, rfl⟩

/-- A character stands for itself, or is escaped by a letter, or by a letter and the digits of its
number. -/
theorem quotedChar_cases (c : Char) :
    (quotedChar c = [c] ∧ c ≠ '\\' ∧ isPrintable c = true) ∨
    (∃ letter, quotedChar c = ['\\', letter] ∧ escapeDigits? letter = none ∧
      simpleEscape? letter = some c) ∨
    ∃ letter width, quotedChar c = '\\' :: letter :: hexDigits width c.toNat ∧
      escapeDigits? letter = some width ∧ 0 < width ∧ c.toNat < 16 ^ width := by
  unfold quotedChar
  split
  · rename_i hquote
    refine .inr (.inl ⟨c, rfl, ?_⟩)
    rcases (Bool.or_eq_true _ _).mp hquote with h | h
    · obtain rfl := eq_of_beq h
      exact ⟨rfl, rfl⟩
    · obtain rfl := eq_of_beq h
      exact ⟨rfl, rfl⟩
  rename_i hquote
  split
  · refine .inl ⟨rfl, ?_, ‹_›⟩
    rintro rfl
    exact hquote rfl
  split
  · exact .inr (.inl ⟨_, rfl, simpleEscape?_of_shortEscape? ‹_›⟩)
  refine .inr (.inr ?_)
  dsimp only
  split
  · rename_i hsmall
    simp only [Bool.or_eq_true, decide_eq_true_eq, beq_iff_eq] at hsmall
    exact ⟨'x', 2, rfl, rfl, by decide, by omega⟩
  split
  · exact ⟨'u', 4, rfl, rfl, by decide, ‹_›⟩
  · have hvalid : c.toNat < 0xd800 ∨ 0xdfff < c.toNat ∧ c.toNat < 0x110000 := c.valid
    exact ⟨'U', 8, rfl, rfl, by decide, by omega⟩

theorem unquotedChar?_quotedChar (c : Char) (rest : List Char) :
    unquotedChar? (quotedChar c ++ rest) = some (c, rest) := by
  rcases quotedChar_cases c with ⟨hc, hne, -⟩ | ⟨letter, hc, hdigits, hsimple⟩ |
    ⟨letter, width, hc, hdigits, hwidth, hsize⟩
  · rw [hc, List.singleton_append]
    exact unquotedChar?_plain hne
  · simp [hc, unquotedChar?, hdigits, hsimple]
  · rw [hc]
    simp only [List.cons_append, unquotedChar?, hdigits, hexNumber?_hexDigits hwidth hsize,
      Option.map_some, Char.ofNat_toNat]
    rw [List.drop_left' (length_hexDigits hwidth hsize)]

theorem newline_notMem_quotedChar (c : Char) : '\n' ∉ quotedChar c := by
  rcases quotedChar_cases c with ⟨hc, -, hprint⟩ | ⟨letter, hc, -, hsimple⟩ |
    ⟨letter, width, hc, hdigits, -⟩
  · rw [hc, List.mem_singleton]
    rintro rfl
    exact absurd hprint (by decide +kernel)
  · have hletter : '\n' ≠ letter := by
      rintro rfl
      cases hsimple
    simp [hc, hletter]
  · have hletter : '\n' ≠ letter := by
      rintro rfl
      cases hdigits
    simp [hc, hletter, newline_notMem_hexDigits]

-- ---------------------------------------------------------------------------
-- Texts
-- ---------------------------------------------------------------------------

theorem flatMap_quotedChar_injective {s t : List Char}
    (h : s.flatMap quotedChar = t.flatMap quotedChar) : s = t := by
  induction s generalizing t with
  | nil =>
    cases t with
    | nil => rfl
    | cons d t =>
      have hread := unquotedChar?_quotedChar d (t.flatMap quotedChar)
      rw [← List.flatMap_cons, ← h] at hread
      cases hread
  | cons c s ih =>
    have hread := unquotedChar?_quotedChar c (s.flatMap quotedChar)
    rw [← List.flatMap_cons, h] at hread
    cases t with
    | nil => cases hread
    | cons d t =>
      rw [List.flatMap_cons, unquotedChar?_quotedChar] at hread
      obtain ⟨rfl, hrest⟩ := Prod.mk.inj (Option.some.inj hread)
      rw [ih hrest.symm]

theorem quoted_injective {s t : String} (h : quoted s = quoted t) : s = t := by
  have hbody := String.ofList_injective h
  simp only [List.cons_append, List.cons.injEq, true_and, List.append_cancel_right_eq] at hbody
  exact String.toList_injective (flatMap_quotedChar_injective hbody)

theorem newline_notMem_quoted (s : String) : '\n' ∉ (quoted s).toList := by
  simp [quoted, newline_notMem_quotedChar]

end Lanewise.Text
