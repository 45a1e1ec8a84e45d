import RuleEngine.Error
import RuleEngine.Json.Text
import RuleEngine.Operation.Field

set_option autoImplicit false

/-! # Checking parameters

Parameters are checked against the declared fields: first that every parameter is declared, in the
order of their names, then field by field that what is required is there and that the value of a
combo is one of its options. -/

namespace RuleEngine

namespace Field

/-- The value given for a field; null counts as no value. -/
def given? (f : Field) (params : Table Json) : Option Json :=
  (params.get? f.key).filter fun v => !v.isNull

/-- The problem that the value of a field has, if it has one. -/
def problem? (operation : String) (params : Table Json) (f : Field) : Option String :=
  match f.given? params with
  | none =>
    if f.required && f.default.isNone then
      some ("operation '" ++ operation ++ "' is missing required parameter '" ++ f.key ++ "'")
    else none
  | some v =>
    if f.kind = .combo && !f.options.isEmpty && !f.options.contains v.plainText then
      some ("operation '" ++ operation ++ "': '" ++ v.plainText ++ "' is not one of " ++
        Text.quotedList f.options ++ " for '" ++ f.key ++ "'")
    else none

/-- The first parameter that no field declares. -/
def undeclared? (fields : List Field) (params : Table Json) : Option String :=
  params.keys.find? fun key => !fields.any fun f => f.key == key

/-- Check the parameters of an operation against its fields. -/
def check (operation : String) (fields : List Field) (params : Table Json) :
    Except EngineError Unit :=
  match undeclared? fields params with
  | some key =>
    .error (.configuration ("operation '" ++ operation ++ "' has no parameter '" ++ key ++ "'"))
  | none =>
    match fields.findSome? (problem? operation params) with
    | some problem => .error (.configuration problem)
    | none => .ok ()

end Field

end RuleEngine
