import Lanewise.Proofs.Decimal.Layout
import Lanewise.Proofs.Printer.Outline
import Lanewise.Proofs.Text.Quoted
import Mathlib.Data.List.Nodup

/-!
# Lines of program trees

The line of a node is a word for its form, and the detail that this form has. Tidy names are kept
apart from what the printer adds to them, so the line tells both (`Label.text_injective`): the word
ends at the first space, and the rest of the line says which detail it is.
-/

namespace Lanewise

open Decimal (Binary64)

-- ---------------------------------------------------------------------------
-- Tidy names
-- ---------------------------------------------------------------------------

/-- Characters that the printer does not use to set names apart. Of all blanks only the space and
the newline are. -/
def isTidyChar (c : Char) : Bool := c != ' ' && c != '\n' && c != ':' && c != '<'

def isTidyText (text : String) : Bool := text.toList.all isTidyChar

def isTidyName (name : String) : Bool := name != "" && isTidyText name

/-- The name of a written type may have blanks in it, but it must not look like a mark or like what
stands for a missing type. -/
def isTidyTypeName (name : String) : Bool :=
  name.toList.all (fun c => c != '\n' && c != '<') && !"mut ".toList.isPrefixOf name.toList

section
variable {text name : String}

theorem notMem_of_isTidyText (h : isTidyText text = true) (hc : isTidyChar c = false) :
    c ∉ text.toList := by
  intro hmem
  have htidy := List.all_eq_true.mp h c hmem
  rw [hc] at htidy
  cases htidy

theorem notMem_of_isTidyName (h : isTidyName name = true) (hc : isTidyChar c = false) :
    c ∉ name.toList :=
  notMem_of_isTidyText (Bool.and_eq_true_iff.mp h).2 hc

theorem ne_empty_of_isTidyName (h : isTidyName name = true) : name ≠ "" := by
  simpa using (Bool.and_eq_true_iff.mp h).1

theorem notMem_of_isTidyTypeName (h : isTidyTypeName name = true) (hc : c = '\n' ∨ c = '<') :
    c ∉ name.toList := by
  intro hmem
  have htidy := List.all_eq_true.mp (Bool.and_eq_true_iff.mp h).1 c hmem
  rcases hc with rfl | rfl
  · cases htidy
  · cases htidy

theorem not_prefix_of_isTidyTypeName (h : isTidyTypeName name = true) :
    ¬"mut ".toList <+: name.toList := by
  intro hprefix
  have hmark := (Bool.and_eq_true_iff.mp h).2
  rw [List.isPrefixOf_iff_prefix.mpr hprefix] at hmark
  cases hmark

end

-- ---------------------------------------------------------------------------
-- Marks
-- ---------------------------------------------------------------------------

def marked (isMut : Bool) (text : String) : String := if isMut then "mut " ++ text else text

theorem marked_inj {b b' : Bool} {text text' : String} (ht : ¬"mut ".toList <+: text.toList)
    (ht' : ¬"mut ".toList <+: text'.toList) (h : marked b text = marked b' text') :
    b = b' ∧ text = text' := by
  have prefixed {s s' : String} (hs : s = "mut " ++ s') : "mut ".toList <+: s.toList :=
    ⟨s'.toList, by rw [hs, String.toList_append]⟩
  cases b with
  | false =>
    cases b' with
    | false => exact ⟨rfl, h⟩
    | true => exact absurd (prefixed h) ht
  | true =>
    cases b' with
    | false => exact absurd (prefixed h.symm) ht'
    | true => exact ⟨rfl, (String.append_right_inj "mut ").mp h⟩

theorem newline_notMem_marked (h : '\n' ∉ text.toList) : '\n' ∉ (marked isMut text).toList := by
  cases isMut <;> simpa [marked]

abbrev Spelling := Bool × String

def typed : Option Spelling → String
  | some a => ": " ++ marked a.1 a.2
  | none => ""

section
variable {name name' : String} {written written' : Option Spelling}

theorem typed_inj (h : ∀ a ∈ written, isTidyTypeName a.2 = true)
    (h' : ∀ a ∈ written', isTidyTypeName a.2 = true) (heq : typed written = typed written') :
    written = written' := by
  cases written with
  | none =>
    cases written' with
    | none => rfl
    | some a' => simp [typed, ← String.toList_inj] at heq
  | some a =>
    cases written' with
    | none => simp [typed, ← String.toList_inj] at heq
    | some a' =>
      obtain ⟨hmark, hname⟩ := marked_inj (not_prefix_of_isTidyTypeName (h a rfl))
        (not_prefix_of_isTidyTypeName (h' a' rfl)) ((String.append_right_inj ": ").mp heq)
      rw [Prod.ext hmark hname]

/-- The type begins with a colon, and so does a colon put in its place. -/
theorem typed_append_colon (written : Option Spelling) :
    ∃ rest, (typed written).toList ++ [':'] = ':' :: rest := by
  cases written with
  | none => exact ⟨[], by simp [typed]⟩
  | some a => exact ⟨' ' :: ((marked a.1 a.2).toList ++ [':']), by simp [typed]⟩

/-- A name that has no colon ends where the type begins. -/
theorem typed_append_inj (hname : isTidyName name = true) (hname' : isTidyName name' = true)
    (h : ∀ a ∈ written, isTidyTypeName a.2 = true)
    (h' : ∀ a ∈ written', isTidyTypeName a.2 = true)
    (heq : name ++ typed written = name' ++ typed written') :
    name = name' ∧ written = written' := by
  obtain ⟨rest, hrest⟩ := typed_append_colon written
  obtain ⟨rest', hrest'⟩ := typed_append_colon written'
  have hchars : name.toList ++ ':' :: rest = name'.toList ++ ':' :: rest' := by
    rw [← hrest, ← hrest', ← List.append_assoc, ← List.append_assoc, ← String.toList_append,
      ← String.toList_append, heq]
  obtain ⟨hsame, -⟩ := append_separator_inj (notMem_of_isTidyName hname rfl)
    (notMem_of_isTidyName hname' rfl) hchars
  obtain rfl := String.toList_injective hsame
  exact ⟨rfl, typed_inj h h' ((String.append_right_inj name).mp heq)⟩

/-- A variable whose name looks like the mark is not taken for a mutable one: no space follows. -/
theorem not_prefix_typed (hname : isTidyName name = true) :
    ¬"mut ".toList <+: (name ++ typed written).toList := by
  rintro ⟨tail, htail⟩
  obtain ⟨rest, hrest⟩ := typed_append_colon written
  have hchars : name.toList ++ ':' :: rest = "mut".toList ++ ' ' :: (tail ++ [':']) := by
    rw [← hrest, ← List.append_assoc, ← String.toList_append, ← htail]
    simp
  have hword := congrArg (List.takeWhile isTidyChar) hchars
  rw [List.takeWhile_append_of_pos (List.all_eq_true.mp (Bool.and_eq_true_iff.mp hname).2),
    List.takeWhile_append_of_pos (by simp [isTidyChar])] at hword
  have hsame : name.toList = "mut".toList := by simpa [isTidyChar] using hword
  rw [hsame] at hchars
  cases (List.cons.inj (List.append_cancel_left hchars)).1

theorem newline_notMem_typed (h : ∀ a ∈ written, isTidyTypeName a.2 = true) :
    '\n' ∉ (typed written).toList := by
  cases written with
  | none => simp [typed]
  | some a =>
    have hname := notMem_of_isTidyTypeName (h a rfl) (.inl rfl)
    simp [typed, newline_notMem_marked hname]

end

-- ---------------------------------------------------------------------------
-- Vector kinds
-- ---------------------------------------------------------------------------

def kindText (kind : String) : String := if kind == "" then "<inferred>" else kind

section
variable {kind kind' : String}

theorem notMem_kindText (h : isTidyText kind = true) (hc : c = ' ' ∨ c = '\n') :
    c ∉ (kindText kind).toList := by
  unfold kindText
  split
  · rcases hc with rfl | rfl <;> decide
  · rcases hc with rfl | rfl <;> exact notMem_of_isTidyText h rfl

theorem kindText_inj (h : isTidyText kind = true) (h' : isTidyText kind' = true)
    (heq : kindText kind = kindText kind') : kind = kind' := by
  have hopen : '<' ∉ kind.toList := notMem_of_isTidyText h rfl
  have hopen' : '<' ∉ kind'.toList := notMem_of_isTidyText h' rfl
  unfold kindText at heq
  split at heq <;> split at heq
  · simp_all
  · simp [← heq] at hopen'
  · simp [heq] at hopen
  · exact heq

/-- The kind ends at the first space, and only the count stands behind it. -/
theorem vectorText_inj {count count' : Nat} (h : isTidyText kind = true)
    (h' : isTidyText kind' = true)
    (heq : kindText kind ++ " (" ++ toString count ++ " elements)" =
      kindText kind' ++ " (" ++ toString count' ++ " elements)") :
    kind = kind' ∧ count = count' := by
  have hchars := congrArg String.toList heq
  simp only [String.toList_append, List.append_assoc] at hchars
  obtain ⟨hkind, hcount⟩ := append_separator_inj (notMem_kindText h (.inl rfl))
    (notMem_kindText h' (.inl rfl)) hchars
  have hdigits : Nat.toDigits 10 count = Nat.toDigits 10 count' := by
    simpa using hcount
  have hvalue := congrArg Decimal.digitsValue hdigits
  rw [Decimal.digitsValue_toDigits, Decimal.digitsValue_toDigits] at hvalue
  exact ⟨kindText_inj h h' (String.toList_injective hkind), hvalue⟩

end

-- ---------------------------------------------------------------------------
-- Words and details
-- ---------------------------------------------------------------------------

/-- The forms of nodes that have a line of their own. A missing node has none. -/
inductive Word
  | absent
  | program | function | letDecl | ret | block | branch | whileLoop | forLoop | effect
  | int | float | bool | string | ident | binary | unary | call | group | index | field | vector
  | lanewise | broadcast | reduce | dot | swizzle | load | store
  deriving DecidableEq

namespace Word

def all : List Word := [
  absent, program, function, letDecl, ret, block, branch, whileLoop, forLoop, effect, int, float,
  bool, string, ident, binary, unary, call, group, index, field, vector, lanewise, broadcast,
  reduce, dot, swizzle, load, store]

def text : Word → String
  | absent => ""
  | program => "Program: "
  | function => "Function: "
  | letDecl => "Let: "
  | ret => "Return"
  | block => "Block"
  | branch => "If"
  | whileLoop => "While"
  | forLoop => "For"
  | effect => "ExprStmt"
  | int => "Int: "
  | float => "Float: "
  | bool => "Bool: "
  | string => "String: "
  | ident => "Ident: "
  | binary => "Binary: "
  | unary => "Unary: "
  | call => "Call"
  | group => "Group"
  | index => "Index"
  | field => "Field: ."
  | vector => "Vector: "
  | lanewise => "Elementwise: "
  | broadcast => "Broadcast: "
  | reduce => "Reduce: "
  | dot => "Dot"
  | swizzle => "Swizzle: "
  | load => "Load: "
  | store => "Store"

def Detail : Word → Type
  | int => Int
  | float => Binary64
  | bool => Bool
  | string | program | function | ident | field | swizzle | load => String
  | binary => BinaryOp
  | unary => UnaryOp
  | lanewise | broadcast => LaneOp
  | reduce => ReduceOp
  -- The kind, and the number of lanes.
  | vector => String × Nat
  -- Whether it is mutable, the name, and the type.
  | letDecl => Bool × String × Option Spelling
  | _ => Unit

def write : (w : Word) → w.Detail → String
  | int, (value : Int) => toString value
  | float, value => Binary64.text value
  | bool, (value : Bool) => if value then "true" else "false"
  | string, value => Text.quoted value
  | program, name | function, name | ident, name | field, name => name
  | swizzle, text | load, text => text
  | binary, op => BinaryOp.text op
  | unary, op => UnaryOp.text op
  | lanewise, op | broadcast, op => LaneOp.text op
  | reduce, op => ReduceOp.text op
  | vector, (kind, count) => kindText kind ++ " (" ++ toString count ++ " elements)"
  | letDecl, (isMut, name, written) => marked isMut (name ++ typed written)
  | absent, _ | ret, _ | block, _ | branch, _ | whileLoop, _ | forLoop, _ | effect, _ | call, _
  | group, _ | index, _ | dot, _ | store, _ => ""

/-- The detail is one that its text tells. -/
def IsClear : (w : Word) → w.Detail → Prop
  | float, value => Binary64.view value ≠ .nan
  | program, name | function, name | ident, name | field, name => isTidyName name = true
  | swizzle, text | load, text => isTidyText text = true
  | binary, op => op ∈ BinaryOp.all
  | unary, op => op ∈ UnaryOp.all
  | lanewise, op | broadcast, op => op ∈ LaneOp.all
  | reduce, op => op ∈ ReduceOp.all
  | vector, (kind, _) => isTidyText kind = true
  | letDecl, (_, name, written) =>
    isTidyName name = true ∧ ∀ a ∈ written, isTidyTypeName a.2 = true
  | absent, _ => False
  | int, _ | bool, _ | string, _ | ret, _ | block, _ | branch, _ | whileLoop, _ | forLoop, _
  | effect, _ | call, _ | group, _ | index, _ | dot, _ | store, _ => True

theorem write_injective (w : Word) {d d' : w.Detail} (hd : w.IsClear d) (hd' : w.IsClear d')
    (h : w.write d = w.write d') : d = d' := by
  have binaryOps : ∀ a ∈ BinaryOp.all, ∀ b ∈ BinaryOp.all, a.text = b.text → a = b := by decide
  have unaryOps : ∀ a ∈ UnaryOp.all, ∀ b ∈ UnaryOp.all, a.text = b.text → a = b := by decide
  have laneOps : ∀ a ∈ LaneOp.all, ∀ b ∈ LaneOp.all, a.text = b.text → a = b := by decide
  have reduceOps : ∀ a ∈ ReduceOp.all, ∀ b ∈ ReduceOp.all, a.text = b.text → a = b := by decide
  cases w with
  | int => exact Decimal.int_text_injective h
  | float => exact Binary64.text_injective hd hd' h
  | bool =>
    have bools : ∀ a b : Bool, (if a then "true" else "false") = (if b then "true" else "false") →
        a = b := by decide
    exact bools d d' h
  | string => exact Text.quoted_injective h
  | program | function | ident | field | swizzle | load => exact h
  | binary => exact binaryOps d hd d' hd' h
  | unary => exact unaryOps d hd d' hd' h
  | lanewise | broadcast => exact laneOps d hd d' hd' h
  | reduce => exact reduceOps d hd d' hd' h
  | vector =>
    obtain ⟨kind, count⟩ := d
    obtain ⟨kind', count'⟩ := d'
    obtain ⟨rfl, rfl⟩ := vectorText_inj hd hd' h
    rfl
  | letDecl =>
    obtain ⟨isMut, name, written⟩ := d
    obtain ⟨isMut', name', written'⟩ := d'
    obtain ⟨rfl, hrest⟩ := marked_inj (not_prefix_typed hd.1) (not_prefix_typed hd'.1) h
    obtain ⟨rfl, rfl⟩ := typed_append_inj hd.1 hd'.1 hd.2 hd'.2 hrest
    rfl
  | absent | ret | block | branch | whileLoop | forLoop | effect | call | group | index | dot
  | store => rfl

theorem newline_notMem_write (w : Word) {d : w.Detail} (hd : w.IsClear d) :
    '\n' ∉ (w.write d).toList := by
  have binaryOps : ∀ op ∈ BinaryOp.all, '\n' ∉ op.text.toList := by decide
  have unaryOps : ∀ op ∈ UnaryOp.all, '\n' ∉ op.text.toList := by decide
  have laneOps : ∀ op ∈ LaneOp.all, '\n' ∉ op.text.toList := by decide
  have reduceOps : ∀ op ∈ ReduceOp.all, '\n' ∉ op.text.toList := by decide
  cases w with
  | int => exact Decimal.newline_notMem_int d
  | float => exact Binary64.newline_notMem_text d
  | bool => cases d <;> decide
  | string => exact Text.newline_notMem_quoted d
  | program | function | ident | field => exact notMem_of_isTidyName hd rfl
  | swizzle | load => exact notMem_of_isTidyText hd rfl
  | binary => exact binaryOps d hd
  | unary => exact unaryOps d hd
  | lanewise | broadcast => exact laneOps d hd
  | reduce => exact reduceOps d hd
  | vector =>
    obtain ⟨kind, count⟩ := d
    have hkind := notMem_kindText hd (.inr rfl)
    have hcount := (Decimal.isProper_toDigits count).newline_notMem
    simp [write, hkind, hcount]
  | letDecl =>
    obtain ⟨isMut, name, written⟩ := d
    have hname : '\n' ∉ name.toList := notMem_of_isTidyName hd.1 rfl
    refine newline_notMem_marked ?_
    simp [hname, newline_notMem_typed hd.2]
  | absent | ret | block | branch | whileLoop | forLoop | effect | call | group | index | dot
  | store => simp [write]

def stem (w : Word) : List Char := w.text.toList.takeWhile (· != ' ')

theorem mem_all (w : Word) : w ∈ all := by
  cases w <;> decide

theorem stem_injective {w w' : Word} (h : w.stem = w'.stem) : w = w' := by
  have hnodup : (all.map stem).Nodup := by decide +kernel
  exact List.inj_on_of_nodup_map hnodup (mem_all w) (mem_all w') h

/-- Either the word has a space in it, or nothing follows it. -/
theorem takeWhile_write (w : Word) (d : w.Detail) :
    (w.text ++ w.write d).toList.takeWhile (· != ' ') = w.stem := by
  have hcases : w.stem.length ≠ w.text.toList.length ∨ w.write d = "" := by
    cases w with
    | absent | ret | block | branch | whileLoop | forLoop | effect | call | group | index | dot
    | store => exact .inr rfl
    | _ => exact .inl (by decide)
  rw [stem] at hcases ⊢
  rcases hcases with hspace | hnothing
  · rw [String.toList_append, List.takeWhile_append, if_neg hspace]
  · rw [hnothing, String.append_empty]

end Word

-- ---------------------------------------------------------------------------
-- Labels
-- ---------------------------------------------------------------------------

structure Label where
  word : Word
  detail : word.Detail

namespace Label

def text (l : Label) : String := l.word.text ++ l.word.write l.detail

def IsClear (l : Label) : Prop := l.word.IsClear l.detail

theorem text_injective {l l' : Label} (hl : l.IsClear) (hl' : l'.IsClear)
    (h : l.text = l'.text) : l = l' := by
  obtain ⟨w, d⟩ := l
  obtain ⟨w', d'⟩ := l'
  obtain rfl : w = w' := by
    apply Word.stem_injective
    rw [← w.takeWhile_write d, ← w'.takeWhile_write d']
    exact congrArg (fun s => s.toList.takeWhile (· != ' ')) h
  have hdetail : d = d' := w.write_injective hl hl' ((String.append_right_inj w.text).mp h)
  rw [hdetail]

theorem IsClear.isLine {l : Label} (h : l.IsClear) : IsLine l.text := by
  obtain ⟨w, d⟩ := l
  have hnewline : '\n' ∉ w.text.toList := by
    cases w <;> decide
  have hdetail := w.newline_notMem_write h
  refine ⟨by simp [text, hnewline, hdetail], ?_⟩
  have hfirst : w = .absent ∨ w.text.toList.head?.any (· != ' ') = true := by
    cases w with
    | absent => exact .inl rfl
    | _ => exact .inr (by decide)
  rcases hfirst with rfl | hfirst
  · exact h.elim
  · obtain ⟨c, hc, hspace⟩ := (Option.any_eq_true ..).mp hfirst
    simpa [text, List.head?_append, hc] using hspace

end Label

end Lanewise
