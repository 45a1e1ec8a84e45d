import RuleEngine.Condition.Token
import RuleEngine.Decimal.Layout
import RuleEngine.Text.Quoted

set_option autoImplicit false

/-! # Decoding errors

Why a piece of data is not a value of the type that was asked for. -/

namespace RuleEngine

/-- What was found in a place. -/
inductive Found
  | null
  | bool (b : Bool)
  | int (n : Int)
  | double (d : Double)
  | text (s : String)
  | items
  | fields
deriving DecidableEq

inductive DecodeError
  | wrongType (found : Found) (expected : String)
  | wrongValue (found : Found) (expected : String)
  | missingField (name : String)
  | duplicateField (name : String)
  | unknownField (name : String) (known : List String)
  | unknownVariant (name : String) (known : List String)
  /-- A record given by its items ends before the field at a position. -/
  | tooShort (position : Nat) (record : String) (size : Nat)
  | tooLong (size : Nat)
  /-- Neither a truth value nor a text where a condition is expected. -/
  | noCondition
  | badCondition (e : ConditionError)
  /-- The data breaks off, or cannot be followed any further. -/
  | broken
deriving DecidableEq

namespace Found

def shown : Found → String
  | .null => "null"
  | .bool b => "boolean \x60" ++ (if b then "true" else "false") ++ "\x60"
  | .int n => "integer \x60" ++ toString n ++ "\x60"
  | .double d => "floating point \x60" ++ Layout.json.render d ++ "\x60"
  | .text s => "string " ++ Text.quoted s
  | .items => "sequence"
  | .fields => "map"

end Found

namespace DecodeError

/-- A name in the quotes of messages. -/
def named (s : String) : String := "\x60" ++ s ++ "\x60"

def oneOf : List String → String
  | [] => "there are no fields"
  | [a] => "expected " ++ named a
  | [a, b] => "expected " ++ named a ++ " or " ++ named b
  | names => "expected one of " ++ ", ".intercalate (names.map named)

def message : DecodeError → String
  | .wrongType found expected => "invalid type: " ++ found.shown ++ ", expected " ++ expected
  | .wrongValue found expected => "invalid value: " ++ found.shown ++ ", expected " ++ expected
  | .missingField name => "missing field " ++ named name
  | .duplicateField name => "duplicate field " ++ named name
  | .unknownField name known => "unknown field " ++ named name ++ ", " ++ oneOf known
  | .unknownVariant name known => "unknown variant " ++ named name ++ ", " ++ oneOf known
  | .tooShort position record size =>
    "invalid length " ++ toString position ++ ", expected struct " ++ record ++ " with " ++
      toString size ++ " elements"
  | .tooLong size => "invalid length " ++ toString size ++ ", expected fewer elements in array"
  | .noCondition => "data did not match any variant of untagged enum Raw"
  | .badCondition e => e.message
  | .broken => "the document is malformed"

def condition? : DecodeError → Option ConditionError
  | .badCondition e => some e
  | _ => none

end DecodeError

end RuleEngine
