import RuleEngine.Json.Source
import RuleEngine.Json.Text
import RuleEngine.Settings.Store

set_option autoImplicit false

/-! # Properties

A property is one setting with a default value. A converter may change the value when it is read,
and another one when it is written. -/

namespace RuleEngine

namespace Json

/-- The texts that mean yes. -/
def yesTexts : List String := ["1", "true", "yes", "on"]

/-- A text or a number as a truth value; any other value as it is. -/
def truthy : Json → Json
  | .str s => .bool (yesTexts.contains (Text.lowerAscii (Text.trim s)))
  | .num n => .bool !(n.toDouble.eqv (.zero false))
  | v => v

/-- The JSON text of a value, as a text. -/
def asText (v : Json) : Json := .str v.compact

end Json

/-- A setting with a default value and converters. -/
structure Property where
  key : String
  default : Json
  onGet : Option (Json → Json) := none
  onSet : Option (Json → Json) := none

namespace Property

def convert (f : Option (Json → Json)) (v : Json) : Json :=
  match f with
  | some f => f v
  | none => v

def get (p : Property) (s : Settings) : Json := convert p.onGet ((s.get? p.key).getD p.default)

def getAs {α : Type} (p : Property) (s : Settings) (decode : Json → Except DecodeError α) :
    Except EngineError α :=
  match decode (p.get s) with
  | .ok a => .ok a
  | .error e =>
    .error (.configuration ("setting '" ++ p.key ++ "' has the wrong type: " ++ e.message))

def set (p : Property) (s : Settings) (files : FileTree) (value : Json) :
    Except EngineError Unit × Settings × FileTree :=
  s.set files p.key (convert p.onSet value)

/-! ## How a property is shown -/

mutual

def shownValue : Json → String
  | .null => "Null"
  | .bool b => "Bool(" ++ (if b then "true" else "false") ++ ")"
  | .num n => "Number(" ++ Json.numberText n ++ ")"
  | .str s => "String(" ++ Text.quoted s ++ ")"
  | .arr items => "Array [" ++ ", ".intercalate (shownItems items) ++ "]"
  | .obj fields => "Object \x7b" ++ ", ".intercalate (shownFields fields) ++ "\x7d"

def shownItems : List Json → List String
  | [] => []
  | x :: xs => shownValue x :: shownItems xs

def shownFields : List (String × Json) → List String
  | [] => []
  | (k, x) :: xs => (Text.quoted k ++ ": " ++ shownValue x) :: shownFields xs

end

/-- A truth value in words. -/
def shownBool (b : Bool) : String := if b then "true" else "false"

def shown (p : Property) : String :=
  "PropertyAdapter \x7b key: " ++ Text.quoted p.key ++ ", default: " ++ shownValue p.default ++
    ", on_get: " ++ shownBool p.onGet.isSome ++ ", on_set: " ++ shownBool p.onSet.isSome ++ " \x7d"

end Property

end RuleEngine
