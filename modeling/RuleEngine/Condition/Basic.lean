import RuleEngine.Json.Basic

set_option autoImplicit false

/-! # Conditions

A condition is a tree of comparisons between facts and literals. It is evaluated against any
source of facts. A comparison with a fact that is missing is false, whatever its operator; with a
fact of another type than the literal only `!=` holds. -/

namespace RuleEngine

/-- Read access to facts by name. -/
abbrev FactSource := String → Option Json

def Facts.source (facts : Facts) : FactSource := Table.get? facts

/-- Operators between a fact and a literal. -/
inductive Comparison
  | eq
  | ne
  | gt
  | ge
  | lt
  | le
deriving DecidableEq

/-- How an operator is written. -/
def Comparison.text : Comparison → String
  | .eq => "=="
  | .ne => "!="
  | .gt => ">"
  | .ge => ">="
  | .lt => "<"
  | .le => "<="

/-- Whether an operator holds, given how the fact stands to the literal; `none` is incomparable. -/
def Comparison.holds : Comparison → Option Ordering → Bool
  | .eq, o => o == some .eq
  | .ne, o => o != some .eq
  | .gt, o => o == some .gt
  | .ge, o => o == some .gt || o == some .eq
  | .lt, o => o == some .lt
  | .le, o => o == some .lt || o == some .eq

/-- The right side of a comparison. -/
inductive Literal
  | number (d : Double)
  | bool (b : Bool)
  | text (s : String)
deriving DecidableEq

/-- How a fact stands to a literal. Texts are ordered by code point, and false is below true. -/
def Literal.order (literal : Literal) (fact : Json) : Option Ordering :=
  match literal, fact with
  | .number d, .num n => n.toDouble.order d
  | .text l, .str s => some (compareOfLessAndEq s l)
  | .bool l, .bool b => some (compare b.toNat l.toNat)
  | _, _ => none

inductive Condition
  | const (b : Bool)
  /-- The fact exists and is not null. -/
  | present (key : String)
  | compare (key : String) (op : Comparison) (value : Literal)
  | not (c : Condition)
  | all (cs : List Condition)
  | any (cs : List Condition)
deriving Inhabited

namespace Condition

mutual

/-- Same tree and same literals. -/
def decEq : (a b : Condition) → Decidable (a = b)
  | .const a, .const b => if h : a = b then isTrue (by rw [h]) else isFalse (by simp [h])
  | .present a, .present b => if h : a = b then isTrue (by rw [h]) else isFalse (by simp [h])
  | .compare k o v, .compare k' o' v' =>
    if h : k = k' ∧ o = o' ∧ v = v' then isTrue (by rw [h.1, h.2.1, h.2.2])
    else isFalse (by simpa using h)
  | .not a, .not b => match decEq a b with
    | isTrue h => isTrue (by rw [h])
    | isFalse h => isFalse (by simp [h])
  | .all a, .all b => match decEqList a b with
    | isTrue h => isTrue (by rw [h])
    | isFalse h => isFalse (by simp [h])
  | .any a, .any b => match decEqList a b with
    | isTrue h => isTrue (by rw [h])
    | isFalse h => isFalse (by simp [h])
  | .const _, .present _ | .const _, .compare .. | .const _, .not _ | .const _, .all _
  | .const _, .any _ | .present _, .const _ | .present _, .compare .. | .present _, .not _
  | .present _, .all _ | .present _, .any _ | .compare .., .const _ | .compare .., .present _
  | .compare .., .not _ | .compare .., .all _ | .compare .., .any _ | .not _, .const _
  | .not _, .present _ | .not _, .compare .. | .not _, .all _ | .not _, .any _
  | .all _, .const _ | .all _, .present _ | .all _, .compare .. | .all _, .not _
  | .all _, .any _ | .any _, .const _ | .any _, .present _ | .any _, .compare ..
  | .any _, .not _ | .any _, .all _ => isFalse nofun

def decEqList : (a b : List Condition) → Decidable (a = b)
  | [], [] => isTrue rfl
  | [], _ :: _ => isFalse nofun
  | _ :: _, [] => isFalse nofun
  | x :: xs, y :: ys => match decEq x y, decEqList xs ys with
    | isTrue h, isTrue k => isTrue (by rw [h, k])
    | isFalse h, _ => isFalse (by simp [h])
    | _, isFalse k => isFalse (by simp [k])

end

instance : DecidableEq Condition := decEq

/-! ## Meaning -/

mutual

def eval (facts : FactSource) : Condition → Bool
  | .const b => b
  | .present key => match facts key with
    | some v => !v.isNull
    | none => false
  | .compare key op value => match facts key with
    | some fact => op.holds (value.order fact)
    | none => false
  | .not c => !eval facts c
  | .all cs => evalAll facts cs
  | .any cs => evalAny facts cs

/-- Every operand holds. -/
def evalAll (facts : FactSource) : List Condition → Bool
  | [] => true
  | c :: cs => eval facts c && evalAll facts cs

/-- Some operand holds. -/
def evalAny (facts : FactSource) : List Condition → Bool
  | [] => false
  | c :: cs => eval facts c || evalAny facts cs

end

mutual

/-- The fact names at the leaves, from left to right. -/
def leafKeys : Condition → List String
  | .const _ => []
  | .present key => [key]
  | .compare key _ _ => [key]
  | .not c => leafKeys c
  | .all cs => leafKeysList cs
  | .any cs => leafKeysList cs

/-- The fact names at the leaves of all operands. -/
def leafKeysList : List Condition → List String
  | [] => []
  | c :: cs => leafKeys c ++ leafKeysList cs

end

/-- The fact names that a condition refers to, in increasing order. -/
def referencedKeys (c : Condition) : List String :=
  Table.keys (Table.ofList ((leafKeys c).map fun key => (key, ())))

def always : Condition := .const true

end Condition

end RuleEngine
