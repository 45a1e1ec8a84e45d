import RuleEngine.Configuration.Layer
import RuleEngine.Yaml.Scalar
import RuleEngine.Yaml.Value

set_option autoImplicit false

/-! # YAML documents as layers

A plain scalar is read more narrowly here than where a whole model is decoded: only the words in
lower case are truth values, only hexadecimal and octal digits may be marked as such, and zeros may
stand in front of a number. Infinities are refused in the spelling of YAML. -/

namespace RuleEngine.Configuration

namespace Value

/-- Digits with a marked base, if a signed integer of 64 bits can hold the number. -/
def based? (s : String) : Option Int :=
  let digits : Option Nat := match s.toList with
    | '0' :: 'x' :: cs => RuleEngine.Yaml.naturalIn? 16 cs
    | '0' :: 'o' :: cs => RuleEngine.Yaml.naturalIn? 8 cs
    | _ => none
  (digits.filter fun n => n < Nat.pow 2 63).map fun n => (n : Int)

/-- An integer behind a plus sign. -/
def plus? (s : String) : Option Int :=
  match s.toList with
  | '+' :: cs => signed? (String.ofList cs)
  | _ => none

/-- A spelling of an infinity or of not-a-number that cannot be read. -/
def isRefused (s : String) : Bool :=
  (RuleEngine.Yaml.special? s).isSome && s != ".NaN"

/-- The value of a plain scalar without a tag. -/
def ofPlain (s : String) : Option Value :=
  if s.isEmpty || s == "~" || s == "null" then some .nothing
  else if s == "true" then some (.bool true)
  else if s == "false" then some (.bool false)
  else
    match ((based? s).orElse fun _ => plus? s).orElse fun _ => signed? s with
    | some n => some (.int n)
    | none =>
      if isRefused s then none
      else match Double.parse? s with
        | some d => some (.double d)
        | none => some (.text s)

/-- The value of a plain scalar with a tag; a scalar that is not of the type of its tag is
nothing. -/
def ofTagged (tag s : String) : Option Value :=
  if tag = "tag:yaml.org,2002:bool" then
    some (if s == "true" then .bool true else if s == "false" then .bool false else .nothing)
  else if tag = "tag:yaml.org,2002:int" then some ((signed? s).elim .nothing .int)
  else if tag = "tag:yaml.org,2002:float" then
    if isRefused s then none else some ((Double.parse? s).elim .nothing .double)
  else if tag = "tag:yaml.org,2002:null" then some .nothing
  else some (.text s)

def ofScalar (style : RuleEngine.Yaml.ScalarStyle) (tag : Option String) (s : String) :
    Option Value :=
  if style != .plain then some (.text s)
  else match tag with
    | none => ofPlain s
    | some tag => ofTagged tag s

/-- The key that a scalar stands for: a text, or an integer written out. -/
def keyOf? : Option Value → Option String
  | some (.text s) => some s
  | some (.int n) => some (toString n)
  | _ => none

mutual

def ofYaml? : RuleEngine.Yaml.Value → Option Value
  | .void => some (.table [])
  | .broken => none
  | .scalar style tag s => ofScalar style tag s
  | .sequence _ items => (itemsOfYaml? items).map .list
  | .mapping _ entries => (entriesOfYaml? [] entries).map .table

def itemsOfYaml? : List RuleEngine.Yaml.Value → Option (List Value)
  | [] => some []
  | x :: xs => (ofYaml? x).bind fun y => (itemsOfYaml? xs).map (y :: ·)

/-- The values of entries; of several with one key the last counts. -/
def entriesOfYaml? (read : Layer) :
    List (RuleEngine.Yaml.Value × RuleEngine.Yaml.Value) → Option Layer
  | [] => some read
  | (k, x) :: rest =>
    (keyOf? (ofYaml? k)).bind fun key => (ofYaml? x).bind fun y =>
      entriesOfYaml? (read.insert key y) rest

end

end Value

/-- The layer that a YAML text denotes: one document at most, which is a mapping. -/
def Layer.ofYaml? (text : String) : Option Layer :=
  let d := RuleEngine.Yaml.Document.ofText text
  match Value.ofYaml? d.value with
  | some (.table entries) => if d.whole then some entries else none
  | _ => none

end RuleEngine.Configuration
