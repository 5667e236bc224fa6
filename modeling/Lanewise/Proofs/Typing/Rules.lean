import Lanewise.Check.Program
import Mathlib.Logic.Function.Basic

/-!
# Typing rules

The type system on its own. Judgements take an environment that never changes: what each variable
and each function is, and what a return has to give. A rule that opens a scope judges what is in it
in an environment of its own and goes on with the one it had.

`Spells` gives a written type its meaning, `HasType` an expression its type, and
`StmtTyped Γ s Γ'` says that `s` is in order in `Γ` and that `Γ'` holds behind it.
Compatibility of types and support of vector kinds by the target are taken as they are.
-/

namespace Lanewise

-- ---------------------------------------------------------------------------
-- Written types
-- ---------------------------------------------------------------------------

/-- A name on its own. Scalars come first, then vector kinds, then the names that may be used
without a definition. -/
inductive NameRule.Means (names : NameRule) (name : String) : Ty → Prop
  | scalar (hs : Scalar.ofName? name = some s) : Means names name (.scalar s)
  | vector (hs : Scalar.ofName? name = none) (hk : VectorKind.ofName? name = some k) :
      Means names name (.vector k)
  | custom (hs : Scalar.ofName? name = none) (hk : VectorKind.ofName? name = none)
      (hn : names.allows name = true) : Means names name (.custom name)

inductive Spells (names : NameRule) : List Char → Ty → Prop
  | mutReference (h : Spells names (Text.trimBlanks cs) t) :
      Spells names ('&' :: 'm' :: 'u' :: 't' :: ' ' :: cs) (.reference t)
  | reference (hmut : ∀ rest, cs ≠ 'm' :: 'u' :: 't' :: ' ' :: rest)
      (h : Spells names (Text.trimBlanks cs) t) : Spells names ('&' :: cs) (.reference t)
  | array (h : Spells names (Text.trimBlanks cs) t) : Spells names ('[' :: cs ++ [']']) (.array t)
  | name (hne : cs ≠ []) (hreference : ∀ rest, cs ≠ '&' :: rest)
      (harray : ∀ rest, cs ≠ '[' :: rest ++ [']'])
      (h : names.Means (String.ofList cs) t) : Spells names cs t

def WrittenType.Denotes (names : NameRule) (a : WrittenType) (t : Ty) : Prop :=
  Spells names (Text.trimBlanks a.name.toList) t

-- ---------------------------------------------------------------------------
-- Environments
-- ---------------------------------------------------------------------------

structure Env where
  vars : String → Option Ty
  fns : String → Option Signature
  /-- What a return has to give; nothing outside of every function. -/
  returns : Option Ty

namespace Env

def initial : Env where
  vars := fun _ => none
  fns := fun name => Context.builtins.lookup name
  returns := none

def bindVariable (Γ : Env) (name : String) (t : Ty) : Env :=
  { Γ with vars := Function.update Γ.vars name (some t) }

def bindFunction (Γ : Env) (name : String) (sig : Signature) : Env :=
  { Γ with fns := Function.update Γ.fns name (some sig) }

/-- The parameters in order, so that the last of a name counts. -/
def bindParams (Γ : Env) : List Param → List Ty → Env
  | p :: params, t :: types => (Γ.bindVariable p.name t).bindParams params types
  | _, _ => Γ

def inFunction (Γ : Env) (params : List Param) (sig : Signature) : Env :=
  { Γ with returns := some sig.ret }.bindParams params sig.params

end Env

-- ---------------------------------------------------------------------------
-- Operators
-- ---------------------------------------------------------------------------

inductive BinaryOp.Gives (op : BinaryOp) (left right : Ty) : Ty → Prop
  | arithmetic (hop : op.isArithmetic = true) (hl : left.isNumber = true)
      (hr : right.isNumber = true) (hfit : left.mutuallyCompatible right = true) :
      Gives op left right left
  | ordering (hop : op.isOrdering = true) (hl : left.isComparable = true)
      (hr : right.isComparable = true) (hfit : left.mutuallyCompatible right = true) :
      Gives op left right .bool
  | equality (hop : op.isEquality = true) (hfit : left.mutuallyCompatible right = true) :
      Gives op left right .bool
  | logical (hop : op.isLogical = true) (hl : left.isCondition = true)
      (hr : right.isCondition = true) : Gives op left right .bool
  | assignment (hop : op.isAssignment = true) (hfit : left.compatible right = true) :
      Gives op left right left

inductive UnaryOp.Gives (operand : Ty) : UnaryOp → Ty → Prop
  | neg (h : operand.isNumber = true) : Gives operand .neg operand
  | not (h : operand.isCondition = true) : Gives operand .not .bool
  | ref : Gives operand .ref (.reference operand)

/-- Masks have no arithmetic, only floats are divided, and floats have no bitwise operators. -/
structure LaneOp.Allows (op : LaneOp) (k : VectorKind) : Prop where
  arithmetic : op.isArithmetic = true → k.isMask = false
  division : op.isDivision = true → k.isFloat = true
  bitwise : op.isBitwise = true → k.isFloat = false

-- ---------------------------------------------------------------------------
-- Expressions
-- ---------------------------------------------------------------------------

mutual
inductive HasType (d : Detector) (Γ : Env) : Expr → Ty → Prop
  | int : HasType d Γ (.int p n) .i64
  | float : HasType d Γ (.float p x) .f64
  | bool : HasType d Γ (.bool p b) .bool
  | string : HasType d Γ (.string p s) .string
  | var (h : Γ.vars x = some t) : HasType d Γ (.ident p x) t
  | fn (hv : Γ.vars x = none) (hf : Γ.fns x = some sig) :
      HasType d Γ (.ident p x) (.ofSignature (some sig))
  | binary (hl : HasType d Γ l tl) (hr : HasType d Γ r tr) (h : op.Gives tl tr t) :
      HasType d Γ (.binary p op l r) t
  | unary (he : HasType d Γ e te) (h : UnaryOp.Gives te op t) : HasType d Γ (.unary p op e) t
  | call (hf : Γ.fns f = some sig) (hargs : ArgsFit d Γ sig.variadic sig.params args) :
      HasType d Γ (.call p (.ident q f) args) sig.result
  | group (he : HasType d Γ e t) : HasType d Γ (.group p e) t
  | index (ho : HasType d Γ o (.array t)) (hi : HasType d Γ i ti)
      (h : ti.canonical.isInteger = true) : HasType d Γ (.index p o i) t
  | writtenVector (hne : name ≠ "") (hk : VectorKind.ofName? name = some k)
      (hcount : es.length = k.width) (hd : d.isSupported k = true)
      (hes : ElementsFit d Γ k.lane es) : HasType d Γ (.vector p es name) (.vector k)
  /-- The first element and the number of elements decide the kind, which is never a mask. -/
  | inferredVector (he : HasType d Γ e t) (hmask : k.isMask = false)
      (hcount : es.length + 1 = k.width) (hlane : k.lane = t.canonical)
      (hd : d.isSupported k = true) (hes : ElementsFit d Γ k.lane es) :
      HasType d Γ (.vector p (e :: es) "") (.vector k)
  /-- Also a comparison gives the type of the left vector. -/
  | lanewise (hl : HasType d Γ l (.vector k)) (hr : HasType d Γ r (.vector k'))
      (hop : LaneOp.Allows op k) (hwidth : k.width = k'.width) (hlane : k.lane = k'.lane) :
      HasType d Γ (.lanewise p op l r) (.vector k)
  | broadcast (hs : HasType d Γ s t) (hv : HasType d Γ v (.vector k)) (hscalar : t.isVector = false)
      (hop : LaneOp.Allows op k) (hfit : k.lane.compatible t = true) :
      HasType d Γ (.broadcast p op s v) (.vector k)
  | reduce (he : HasType d Γ e (.vector k)) (hop : op.isBitwise = true → k.isFloat = false) :
      HasType d Γ (.reduce p op e) k.lane
  | dot (hl : HasType d Γ l (.vector k)) (hr : HasType d Γ r (.vector k)) :
      HasType d Γ (.dot p l r) k.lane
  | swizzle (he : HasType d Γ e (.vector k)) : HasType d Γ (.swizzle p e pattern) (.vector k)
  | writtenLoad (he : HasType d Γ e (.reference t)) (hne : name ≠ "")
      (hk : VectorKind.ofName? name = some k) (hd : d.isSupported k = true) :
      HasType d Γ (.load p e name) (.vector k)
  | inferredLoad (he : HasType d Γ e (.reference (.vector k))) (hd : d.isSupported k = true) :
      HasType d Γ (.load p e "") (.vector k)
  | store (ha : HasType d Γ a (.reference t)) (he : HasType d Γ e (.vector k)) :
      HasType d Γ (.store p a e) .unit
/-- Each parameter gets an argument it accepts. Further ones are for variadic functions only. -/
inductive ArgsFit (d : Detector) (Γ : Env) : Bool → List Ty → List Expr → Prop
  | nil : ArgsFit d Γ variadic [] []
  | param (he : HasType d Γ e t) (hfit : param.compatible t = true)
      (hes : ArgsFit d Γ variadic params es) : ArgsFit d Γ variadic (param :: params) (e :: es)
  | further (he : HasType d Γ e t) (hes : ArgsFit d Γ true [] es) : ArgsFit d Γ true [] (e :: es)
inductive ElementsFit (d : Detector) (Γ : Env) : Ty → List Expr → Prop
  | nil : ElementsFit d Γ lane []
  | cons (he : HasType d Γ e t) (hfit : lane.compatible t = true) (hes : ElementsFit d Γ lane es) :
      ElementsFit d Γ lane (e :: es)
end

-- ---------------------------------------------------------------------------
-- Statements
-- ---------------------------------------------------------------------------

structure Setting where
  detector : Detector
  names : NameRule

def CheckOptions.setting (o : CheckOptions) : Setting where
  detector := o.detector
  names := { isLenient := o.isLenient, opaqueNames := o.opaqueTypes }

def Env.Condition (d : Detector) (Γ : Env) (e : Expr) : Prop :=
  ∃ t, HasType d Γ e t ∧ t.isCondition = true

inductive ParamsDenote (names : NameRule) : List Param → List Ty → Prop
  | nil : ParamsDenote names [] []
  | cons (hwritten : p.written = some a) (ha : a.Denotes names t)
      (hparams : ParamsDenote names params types) : ParamsDenote names (p :: params) (t :: types)

/-- A function that names no result returns unit. -/
structure FnHead.HasSignature (names : NameRule) (head : FnHead) (sig : Signature) : Prop where
  params : ParamsDenote names head.params sig.params
  returns : ∀ a, head.returns = some a → a.Denotes names sig.ret
  unit : head.returns = none → sig.ret = .unit
  fixed : sig.variadic = false

mutual
inductive StmtTyped (S : Setting) : Env → Stmt → Env → Prop
  | absent : StmtTyped S Γ .absent Γ
  /-- The signature holds in the body and behind it. -/
  | fn (hsig : head.HasSignature S.names sig)
      (hbody : StmtsTyped S ((Γ.bindFunction head.name sig).inFunction head.params sig) body Γ') :
      StmtTyped S Γ (.fn head p body) (Γ.bindFunction head.name sig)
  | prototype (hsig : head.HasSignature S.names sig) :
      StmtTyped S Γ (.prototype head) (Γ.bindFunction head.name sig)
  | letWritten (ha : a.Denotes S.names t) :
      StmtTyped S Γ (.letDecl p x isMut (some a) .absent) (Γ.bindVariable x t)
  /-- The annotation wins over the value. -/
  | letChecked (ha : a.Denotes S.names t) (he : HasType S.detector Γ e te)
      (hfit : t.compatible te = true) :
      StmtTyped S Γ (.letDecl p x isMut (some a) e) (Γ.bindVariable x t)
  | letInferred (he : HasType S.detector Γ e t) :
      StmtTyped S Γ (.letDecl p x isMut none e) (Γ.bindVariable x t)
  | ret (hret : Γ.returns = some t) (he : HasType S.detector Γ e te)
      (hfit : t.compatible te = true) : StmtTyped S Γ (.ret p e) Γ
  | retUnit (hret : Γ.returns = some t) (hfit : t.compatible .unit = true) :
      StmtTyped S Γ (.ret p .absent) Γ
  | block (hbody : StmtsTyped S Γ body Γ') : StmtTyped S Γ (.block p body) Γ
  | ifElse (hc : Γ.Condition S.detector e) (hyes : StmtTyped S Γ yes Γ₁)
      (hno : StmtTyped S Γ no Γ₂) : StmtTyped S Γ (.ifElse p e yes no) Γ
  | whileLoop (hc : Γ.Condition S.detector e) (hbody : StmtTyped S Γ body Γ') :
      StmtTyped S Γ (.whileLoop p e body) Γ
  /-- The clauses and the body share a scope, but the step does not see what the body declares. -/
  | forLoop (hinit : StmtTyped S Γ init Γ₁) (hc : e = .absent ∨ Γ₁.Condition S.detector e)
      (hstep : step = .absent ∨ ∃ t, HasType S.detector Γ₁ step t)
      (hbody : StmtTyped S Γ₁ body Γ₂) : StmtTyped S Γ (.forLoop p init e step body) Γ
  | expr (he : HasType S.detector Γ e t) : StmtTyped S Γ (.expr p e) Γ
inductive StmtsTyped (S : Setting) : Env → List Stmt → Env → Prop
  | nil : StmtsTyped S Γ [] Γ
  | cons (hs : StmtTyped S Γ s Γ') (hrest : StmtsTyped S Γ' rest Γ'') :
      StmtsTyped S Γ (s :: rest) Γ''
end

end Lanewise
