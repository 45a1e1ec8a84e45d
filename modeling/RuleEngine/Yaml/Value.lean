import RuleEngine.Yaml.Node
import RuleEngine.Yaml.Token.Stream

set_option autoImplicit false

/-! # YAML values

The value of a document is its tree with every alias replaced by the node that it refers to. Two
bounds keep this finite: collections are followed 128 levels deep, and the number of aliases that
are followed is a hundred times the size of the document at most. -/

namespace RuleEngine.Yaml

inductive Value
  /-- An empty document. -/
  | void
  | scalar (style : ScalarStyle) (tag : Option String) (text : String)
  | sequence (tag : Option String) (items : List Value)
  | mapping (tag : Option String) (entries : List (Value × Value))
  /-- The document breaks off here, or cannot be followed further. -/
  | broken
deriving Inhabited

namespace Node

/-! ## Sizes and anchors -/

mutual

/-- The numbered nodes from left to right, each before those inside of it. -/
def numbered : Node → List (Nat × Node)
  | .anchored n x => (n, x) :: numbered x
  | .sequence _ xs => numberedItems xs
  | .mapping _ xs => numberedEntries xs
  | _ => []

def numberedItems : List Node → List (Nat × Node)
  | [] => []
  | x :: xs => numbered x ++ numberedItems xs

def numberedEntries : List (Node × Node) → List (Nat × Node)
  | [] => []
  | (k, x) :: xs => numbered k ++ numbered x ++ numberedEntries xs

end

mutual

/-- Size of a document: a collection counts twice, for its start and its end. -/
def size : Node → Nat
  | .anchored _ x => size x
  | .sequence _ xs => 2 + sizeItems xs
  | .mapping _ xs => 2 + sizeEntries xs
  | _ => 1

def sizeItems : List Node → Nat
  | [] => 0
  | x :: xs => size x + sizeItems xs

def sizeEntries : List (Node × Node) → Nat
  | [] => 0
  | (k, x) :: xs => size k + size x + sizeEntries xs

end

/-- The node without its number. -/
def bare : Node → Node
  | .anchored _ x => bare x
  | x => x

/-! ## Following aliases -/

/-- The node that an alias refers to; the last node of a number counts. The flag says that there
was an alias. -/
def follow (anchors : List (Nat × Node)) (x : Node) : Bool × Node :=
  match x.bare with
  | .alias n => (true, ((anchors.reverse.lookup n).map bare).getD .broken)
  | y => (false, y)

/-- Replace aliases from left to right; `left` more may be followed. -/
def expand (anchors : List (Nat × Node)) (depth left : Nat) (x : Node) : Value × Nat :=
  let (jumped, y) := follow anchors x
  if jumped && left = 0 then (.broken, 0)
  else
    let left := if jumped then left - 1 else left
    match depth, y with
    | _, .scalar style tag text => (.scalar style tag text, left)
    | d + 1, .sequence tag xs =>
      let (left, ys) := xs.foldl (fun (left, ys) x =>
        let (y, left) := expand anchors d left x
        (left, y :: ys)) (left, [])
      (.sequence tag ys.reverse, left)
    | d + 1, .mapping tag xs =>
      let (left, ys) := xs.foldl (fun (left, ys) (k, x) =>
        let (k, left) := expand anchors d left k
        let (y, left) := expand anchors d left x
        (left, (k, y) :: ys)) (left, [])
      (.mapping tag ys.reverse, left)
    | _, _ => (.broken, left)

/-- The value of a node as a whole document. -/
def toValue (x : Node) : Value := (expand x.numbered 128 (100 * x.size) x).1

end Node

/-- What a text holds. -/
structure Document where
  value : Value
  /-- The text is one document, or none, and sound to its end. -/
  whole : Bool

def Document.ofText (s : String) : Document :=
  match Node.ofTokens (Token.ofText s) with
  | (none, whole) => ⟨.void, whole⟩
  | (some x, whole) => ⟨x.toValue, whole⟩

end RuleEngine.Yaml
