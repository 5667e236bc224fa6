import Lanewise.Proofs.Typing.Printed

/-!
# Keys of types

`key_faithful`: types that are the same have the same key, and for types with nothing missing in
them the key says which type it is. The second part is shown by reading: `Ty.read` takes a type off
the front of a text, and what stands behind the type cannot be taken for a part of it, since it
does not go on with a word or an argument list (`Stops`). So a type is found again in its key
(`Ty.read_text`), however deep functions are nested as parameters and as results.
-/

namespace Lanewise

-- ---------------------------------------------------------------------------
-- Whole types
-- ---------------------------------------------------------------------------

/-- Letters, digits and the underscore. Whatever lies beyond ASCII is taken for a letter. -/
def isWordChar (c : Char) : Bool := c.isAlphanum || c == '_' || 0x80 ≤ c.toNat

def IsIdentifier (name : String) : Prop := name ≠ "" ∧ ∀ c ∈ name.toList, isWordChar c = true

instance : DecidablePred IsIdentifier := fun name =>
  decidable_of_iff (name ≠ "" ∧ name.toList.all isWordChar = true)
    (and_congr_right' List.all_eq_true)

mutual
/-- Nothing is missing in the type at any level, its vectors are of valid kinds, and its names are
identifiers. A name of the user is not that of a scalar or a vector kind. -/
def Ty.Whole : Ty → Prop
  | .scalar _ | .error => True
  | .array t | .reference t => t.Whole
  | .function params ret _ => Ty.AllWhole params ∧ ret.Whole
  | .vector k => k.isValid = true
  | .custom name =>
    IsIdentifier name ∧ (∀ s : Scalar, name ≠ s.text) ∧ ∀ k : VectorKind, name ≠ k.text
  | .generic name => IsIdentifier name
  | .absent | .bareFunction | .unknown _ => False
def Ty.AllWhole : List Ty → Prop
  | [] => True
  | t :: ts => t.Whole ∧ Ty.AllWhole ts
end

theorem IsIdentifier.toList_eq_cons (h : IsIdentifier name) : ∃ c cs, name.toList = c :: cs :=
  List.exists_cons_of_ne_nil (mt String.toList_eq_nil_iff.mp h.1)

-- ---------------------------------------------------------------------------
-- Reading types
-- ---------------------------------------------------------------------------

namespace Ty

def ofWord (word : String) : Ty :=
  match (Scalar.ofName? word).filter (·.text == word) with
  | some s => .scalar s
  | none =>
    match VectorKind.all.find? (·.text == word) with
    | some k => .vector k
    | none => .custom word

mutual
/-- Reads a type off the front of a text and gives the rest of the text. The number bounds how deep
the type may be nested. -/
def read : Nat → List Char → Option (Ty × List Char)
  | 0, _ => none
  | n + 1, '[' :: cs =>
    match read n cs with
    | some (elem, ']' :: cs) => some (.array elem, cs)
    | _ => none
  | n + 1, '&' :: cs => (read n cs).map fun (t, cs) => (.reference t, cs)
  | _ + 1, '$' :: cs =>
    some (.generic (String.ofList (cs.takeWhile isWordChar)), cs.dropWhile isWordChar)
  | _ + 1, '(' :: ')' :: cs => some (.unit, cs)
  | _ + 1, '<' :: cs => some (.error, cs.drop "error>".toList.length)
  | n + 1, cs =>
    match cs.dropWhile isWordChar with
    -- Of all words only `fn` has an argument list.
    | '(' :: cs =>
      match readParams n cs with
      | some (params, variadic, cs) =>
        (read n (cs.drop ") -> ".toList.length)).map fun (ret, cs) =>
          (.function params ret variadic, cs)
      | none => none
    | rest => some (ofWord (String.ofList (cs.takeWhile isWordChar)), rest)
/-- Reads the parameters of a function up to the bracket that closes them, and whether further
arguments may follow. -/
def readParams : Nat → List Char → Option (List Ty × Bool × List Char)
  | 0, _ => none
  | _ + 1, ')' :: cs => some ([], false, ')' :: cs)
  | _ + 1, '.' :: '.' :: '.' :: cs => some ([], true, cs)
  | n + 1, cs =>
    match read n cs with
    | some (t, ',' :: ' ' :: cs) =>
      (readParams n cs).map fun (ts, variadic, cs) => (t :: ts, variadic, cs)
    | some (t, cs) => some ([t], false, cs)
    | none => none
end

end Ty

-- ---------------------------------------------------------------------------
-- Words
-- ---------------------------------------------------------------------------

def Stops (rest : List Char) : Prop := ∀ c ∈ rest.head?, isWordChar c = false ∧ c ≠ '('

theorem stops_nil : Stops [] := nofun

theorem stops_cons (hword : isWordChar c = false) (hopen : c ≠ '(') : Stops (c :: rest) := by
  rintro _ ⟨⟩
  exact ⟨hword, hopen⟩

theorem Stops.takeWhile_eq_nil (h : Stops rest) : rest.takeWhile isWordChar = [] := by
  cases rest with
  | nil => rfl
  | cons c rest => simp [(h c rfl).1]

theorem Stops.dropWhile_eq_self (h : Stops rest) : rest.dropWhile isWordChar = rest := by
  cases rest with
  | nil => rfl
  | cons c rest => simp [(h c rfl).1]

section
variable {word rest : List Char}

theorem takeWhile_word (hword : ∀ c ∈ word, isWordChar c = true) (hrest : Stops rest) :
    (word ++ rest).takeWhile isWordChar = word := by
  rw [List.takeWhile_append_of_pos hword, hrest.takeWhile_eq_nil, List.append_nil]

theorem dropWhile_word (hword : ∀ c ∈ word, isWordChar c = true) (hrest : Stops rest) :
    (word ++ rest).dropWhile isWordChar = rest := by
  rw [List.dropWhile_append_of_pos hword, hrest.dropWhile_eq_self]

end

namespace Ty

theorem read_word {name : String} (hname : IsIdentifier name) (hrest : Stops rest) :
    read (n + 1) (name.toList ++ rest) = some (ofWord name, rest) := by
  obtain ⟨c, cs, hcs⟩ := hname.toList_eq_cons
  have hc := hname.2 c (by simp [hcs])
  have hdrop := dropWhile_word hname.2 hrest
  have htake := takeWhile_word hname.2 hrest
  rw [hcs, List.cons_append] at hdrop htake ⊢
  rw [read, hdrop, htake, ← hcs, String.ofList_toList]
  · cases rest with
    | nil => rfl
    | cons d rest => simp [(hrest d rfl).2]
  -- A word begins with none of the symbols that other types begin with.
  all_goals
    intro _ heq
    obtain ⟨rfl, -⟩ := List.cons.inj heq
    exact absurd hc (by decide)

theorem ofWord_scalar (s : Scalar) : ofWord s.text = .scalar s := by
  have found : (Scalar.ofName? s.text).filter (·.text == s.text) = some s := by
    simp [Scalar.ofName?_text, Option.filter_some]
  rw [ofWord, found]

theorem ofWord_vector {k : VectorKind} (hk : k.isValid = true) : ofWord k.text = .vector k := by
  have found : VectorKind.all.find? (·.text == k.text) = some k := by
    cases k <;> first | rfl | cases hk
  simp [ofWord, VectorKind.scalar_text, found]

theorem ofWord_custom {name : String} (hscalar : ∀ s : Scalar, name ≠ s.text)
    (hkind : ∀ k : VectorKind, name ≠ k.text) : ofWord name = .custom name := by
  have noScalar : (Scalar.ofName? name).filter (·.text == name) = none := by
    simp only [Option.filter_eq_none_iff, beq_iff_eq]
    exact fun s _ h => hscalar s h.symm
  have noKind : VectorKind.all.find? (·.text == name) = none := by
    simp only [List.find?_eq_none, beq_iff_eq]
    exact fun k _ h => hkind k h.symm
  simp [ofWord, noScalar, noKind]

end Ty

theorem Scalar.isIdentifier_text {s : Scalar} (h : s ≠ .unit) : IsIdentifier s.text := by
  cases s <;> first | exact absurd rfl h | decide +kernel

theorem VectorKind.isIdentifier_text {k : VectorKind} (h : k.isValid = true) :
    IsIdentifier k.text := by
  cases k <;> first | decide +kernel | cases h

-- ---------------------------------------------------------------------------
-- Types in their texts
-- ---------------------------------------------------------------------------

namespace Ty

def paramsText (params : List Ty) (variadic : Bool) : List Char :=
  (", ".intercalate (texts params ++ if variadic then ["..."] else [])).toList

theorem text_function (h : ret ≠ .absent) :
    (Ty.function params ret variadic).text.toList =
      "fn(".toList ++ (paramsText params variadic ++ (") -> ".toList ++ ret.text.toList)) := by
  cases ret <;> first | exact absurd rfl h | simp [text, paramsText]

theorem paramsText_cons (t : Ty) (params : List Ty) (variadic : Bool) :
    paramsText (t :: params) variadic = t.text.toList ++
      if params = [] ∧ variadic = false then [] else ", ".toList ++ paramsText params variadic := by
  cases params with
  | nil => cases variadic <;> simp [paramsText, texts]
  | cons u params =>
    simp [paramsText, texts, String.intercalate_cons_cons]

theorem Whole.ne_absent {t : Ty} (h : t.Whole) : t ≠ .absent := by
  rintro rfl
  exact h

/-- The first character tells a type from the end of the parameters. -/
theorem Whole.head_text {t : Ty} (h : t.Whole) :
    ∃ c cs, t.text.toList = c :: cs ∧ c ≠ ')' ∧ c ≠ '.' := by
  have named {name : String} (hname : IsIdentifier name) :
      ∃ c cs, name.toList = c :: cs ∧ c ≠ ')' ∧ c ≠ '.' := by
    obtain ⟨c, cs, hcs⟩ := hname.toList_eq_cons
    have hword := hname.2 c (by simp [hcs])
    refine ⟨c, cs, hcs, ?_, ?_⟩
    · rintro rfl
      exact absurd hword (by decide)
    · rintro rfl
      exact absurd hword (by decide)
  cases t with
  | scalar s =>
    by_cases hs : s = .unit
    · subst hs
      exact ⟨'(', [')'], rfl, by decide, by decide⟩
    · exact named (Scalar.isIdentifier_text hs)
  | array t => exact ⟨'[', t.text.toList ++ [']'], by simp [text], by decide, by decide⟩
  | reference t => exact ⟨'&', t.text.toList, by simp [text], by decide, by decide⟩
  | function params ret variadic =>
    rw [text_function h.2.ne_absent]
    exact ⟨'f', _, rfl, by decide, by decide⟩
  | vector k => exact named (VectorKind.isIdentifier_text h)
  | custom name => exact named h.1
  | generic name => exact ⟨'$', name.toList, by simp [text], by decide, by decide⟩
  | error => exact ⟨'<', "error>".toList, rfl, by decide, by decide⟩
  | absent => exact h.elim
  | bareFunction => exact h.elim
  | unknown => exact h.elim

theorem read_fn (hparams : readParams n cs = some (params, variadic, ") -> ".toList ++ rest))
    (hret : read n rest = some (ret, rest')) :
    read (n + 1) ("fn(".toList ++ cs) = some (.function params ret variadic, rest') := by
  have hopen : ('f' :: 'n' :: '(' :: cs).dropWhile isWordChar = '(' :: cs := rfl
  change read (n + 1) ('f' :: 'n' :: '(' :: cs) = _
  rw [read, hopen]
  · simp [hparams, hret]
  all_goals
    intro _ heq
    cases (List.cons.inj heq).1

theorem readParams_type {t : Ty} (ht : t.Whole) :
    readParams (n + 1) (t.text.toList ++ rest) =
      match read n (t.text.toList ++ rest) with
      | some (t, ',' :: ' ' :: cs) =>
        (readParams n cs).map fun (ts, variadic, cs) => (t :: ts, variadic, cs)
      | some (t, cs) => some ([t], false, cs)
      | none => none := by
  obtain ⟨c, cs, hcs, hclose, hdots⟩ := ht.head_text
  rw [hcs, List.cons_append, readParams]
  · intro _ heq
    exact hclose (List.cons.inj heq).1
  · intro _ heq
    exact hdots (List.cons.inj heq).1

/-- What is nested in a type is smaller, so one level less is left to read it. -/
theorem exists_level (h : 1 + size ≤ n) : ∃ m, n = m + 1 ∧ size ≤ m := ⟨n - 1, by omega, by omega⟩

mutual
theorem read_text : (t : Ty) → {rest : List Char} → {n : Nat} → t.Whole → Stops rest →
    sizeOf t ≤ n → read (n + 1) (t.text.toList ++ rest) = some (t, rest)
  | .scalar s, _, _, _, hrest, _ => by
    by_cases hs : s = .unit
    · subst hs
      simp [text, Scalar.text, read]
    · rw [text, read_word (Scalar.isIdentifier_text hs) hrest, ofWord_scalar]
  | .error, _, _, _, _, _ => by
    simp [text, read]
  | .array t, rest, _, ht, _, hn => by
    obtain ⟨m, rfl, hm⟩ := exists_level (by simpa using hn)
    have helem : read (m + 1) (t.text.toList ++ ']' :: rest) = some (t, ']' :: rest) :=
      read_text t ht (stops_cons rfl (by decide)) hm
    simp [text, read, helem]
  | .reference t, rest, _, ht, hrest, hn => by
    obtain ⟨m, rfl, hm⟩ := exists_level (by simpa using hn)
    have htarget : read (m + 1) (t.text.toList ++ rest) = some (t, rest) :=
      read_text t ht hrest hm
    simp [text, read, htarget]
  | .function params ret variadic, rest, n, ht, hrest, hn => by
    simp only [Ty.function.sizeOf_spec] at hn
    have hlevel : 1 + (sizeOf params + sizeOf ret) ≤ n := by omega
    obtain ⟨m, rfl, hm⟩ := exists_level hlevel
    have hparams : readParams (m + 1) (paramsText params variadic ++
        (") -> ".toList ++ (ret.text.toList ++ rest))) = some (params, variadic, _) :=
      readParams_text params ht.1 (by omega)
    have hret : read (m + 1) (ret.text.toList ++ rest) = some (ret, rest) :=
      read_text ret ht.2 hrest (by omega)
    rw [text_function ht.2.ne_absent]
    simp only [List.append_assoc]
    exact read_fn hparams hret
  | .vector k, _, _, hk, hrest, _ => by
    rw [text, read_word (VectorKind.isIdentifier_text hk) hrest, ofWord_vector hk]
  | .custom name, _, _, hname, hrest, _ => by
    rw [text, read_word hname.1 hrest, ofWord_custom hname.2.1 hname.2.2]
  | .generic name, _, _, hname, hrest, _ => by
    simp [text, read, takeWhile_word hname.2 hrest, dropWhile_word hname.2 hrest]
theorem readParams_text : (params : List Ty) → {rest : List Char} → {n : Nat} → AllWhole params →
    sizeOf params ≤ n → readParams (n + 1) (paramsText params variadic ++ ')' :: rest) =
      some (params, variadic, ')' :: rest)
  | [], _, _, _, _ => by
    cases variadic <;> simp [paramsText, texts, readParams]
  | t :: params, rest, n, ht, hn => by
    simp only [List.cons.sizeOf_spec] at hn
    have hlevel : 1 + (sizeOf t + sizeOf params) ≤ n := by omega
    obtain ⟨m, rfl, hm⟩ := exists_level hlevel
    rw [paramsText_cons, List.append_assoc, readParams_type ht.1]
    by_cases hlast : params = [] ∧ variadic = false
    · obtain ⟨rfl, rfl⟩ := hlast
      have htype : read (m + 1) (t.text.toList ++ ')' :: rest) = some (t, ')' :: rest) :=
        read_text t ht.1 (stops_cons rfl (by decide)) (by omega)
      rw [if_pos ⟨rfl, rfl⟩, List.nil_append, htype]
      rfl
    · let others := ", ".toList ++ (paramsText params variadic ++ ')' :: rest)
      have htype : read (m + 1) (t.text.toList ++ others) = some (t, others) :=
        read_text t ht.1 (stops_cons rfl (by decide)) (by omega)
      have hmore : readParams (m + 1) (paramsText params variadic ++ ')' :: rest) =
          some (params, variadic, ')' :: rest) := readParams_text params ht.2 (by omega)
      rw [if_neg hlast, List.append_assoc, htype]
      change Option.map _ (readParams (m + 1) (paramsText params variadic ++ ')' :: rest)) = _
      rw [hmore]
      rfl
end

theorem eq_of_key {t u : Ty} (ht : t.Whole) (hu : u.Whole) (h : t.key = u.key) : t = u := by
  have hread : read (sizeOf t + sizeOf u + 1) t.text.toList = some (t, []) := by
    simpa using read_text t (n := sizeOf t + sizeOf u) ht stops_nil (by omega)
  have hread' : read (sizeOf t + sizeOf u + 1) u.text.toList = some (u, []) := by
    simpa using read_text u (n := sizeOf t + sizeOf u) hu stops_nil (by omega)
  have htext : t.text = u.text := h
  rw [htext, hread'] at hread
  cases hread
  rfl

end Ty

-- ---------------------------------------------------------------------------
-- Equality and keys
-- ---------------------------------------------------------------------------

theorem Signature.same_iff {f g : Option Signature} : Signature.same f g = true ↔ f = g := by
  rw [Signature.same, Ty.same_iff]
  constructor
  · intro h
    rcases f with _ | ⟨params, ret, variadic⟩ <;> rcases g with _ | ⟨params', ret', variadic'⟩ <;>
      cases h <;> rfl
  · rintro rfl
    rfl

/-- Equality of types and of signatures, absent ones included, is an equivalence, and the same types
have the same key. Whole types with the same key are the same. -/
theorem key_faithful :
    Equivalence (fun t u : Ty => t.same u = true) ∧
    Equivalence (fun f g : Option Signature => Signature.same f g = true) ∧
    ∀ t u : Ty, (t.same u = true → t.key = u.key) ∧
      (t.Whole → u.Whole → t.key = u.key → t.same u = true) := by
  refine ⟨?_, ?_, fun t u => ⟨fun h => ?_, fun ht hu h => ?_⟩⟩
  · simp only [Ty.same_iff]
    exact eq_equivalence
  · simp only [Signature.same_iff]
    exact eq_equivalence
  · rw [Ty.same_iff.mp h]
  · exact Ty.same_iff.mpr (Ty.eq_of_key ht hu h)

def nestedFunction : Ty :=
  .function [.function [] .i32 false, .reference (.array (.custom "Point")), .generic "T"]
    (.function [] .unit false) true

theorem key_faithful_nestedFunction :
    nestedFunction.key = "fn(fn() -> i32, &[Point], $T, ...) -> fn() -> ()" ∧
      nestedFunction.Whole ∧ nestedFunction.same nestedFunction = true := by
  have hpoint : (Ty.custom "Point").Whole :=
    ⟨by decide +kernel, fun s => by cases s <;> decide,
      fun k => by cases k <;> simp [VectorKind.text]⟩
  have hgeneric : (Ty.generic "T").Whole := by
    rw [Ty.Whole]
    decide +kernel
  have hwhole : nestedFunction.Whole :=
    ⟨⟨⟨trivial, trivial⟩, hpoint, hgeneric, trivial⟩, trivial, trivial⟩
  exact ⟨by decide +kernel, hwhole, (key_faithful.2.2 _ _).2 hwhole hwhole rfl⟩

-- Where something is missing or a name is that of a scalar, types share a key.
example : (Ty.function [] .absent false).key = (Ty.function [] .unit false).key ∧
    (Ty.custom "i32").key = Ty.i32.key := by
  decide +kernel

end Lanewise
