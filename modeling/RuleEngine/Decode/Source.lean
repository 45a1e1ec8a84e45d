import RuleEngine.Decode.Error
import RuleEngine.Condition.Grammar

set_option autoImplicit false

/-! # Decoding

Records are decoded from any kind of data that answers the questions of `DataSource`. A record is
given by named fields, or, where the data allows it, by its items in declaration order. The first
problem in the order of the data is reported; fields that are missing are noticed at the end, in
declaration order. -/

namespace RuleEngine

/-- An integer type by its name and bounds. -/
structure IntType where
  name : String
  least : Int
  most : Int

namespace IntType

def i32 : IntType := ⟨"i32", -(Nat.pow 2 31), Nat.pow 2 31 - 1⟩

def i64 : IntType := ⟨"i64", -(Nat.pow 2 63), Nat.pow 2 63 - 1⟩

def u8 : IntType := ⟨"u8", 0, Nat.pow 2 8 - 1⟩

def u64 : IntType := ⟨"u64", 0, Nat.pow 2 64 - 1⟩

/-- Sizes of collections. -/
def usize : IntType := ⟨"usize", 0, Nat.pow 2 64 - 1⟩

end IntType

/-- How the fields of a record are given. -/
inductive RecordForm (ν : Type)
  | fields (entries : List (ν × ν))
  | items (items : List ν)

/-- What can be asked of a piece of data. -/
class DataSource (ν : Type) where
  /-- A text; the second argument says what is expected. -/
  text : ν → String → Except DecodeError String
  bool : ν → Except DecodeError Bool
  int : ν → IntType → Except DecodeError Int
  items : ν → Except DecodeError (List ν)
  entries : ν → Except DecodeError (List (ν × ν))
  /-- The fields of the record of a name. -/
  record : ν → String → Except DecodeError (RecordForm ν)
  /-- Nothing stands for a missing value. -/
  optional : ν → Except DecodeError (Option ν)
  /-- The name of one of several variants that carry no data. -/
  variant : ν → List String → Except DecodeError String
  /-- A truth value or a text. -/
  truthOrText : ν → Except DecodeError (Bool ⊕ String)
  json : ν → Except DecodeError Json
  /-- Pass over a value that nobody asks for. -/
  pass : ν → Except DecodeError Unit
  /-- A record may be given by more items than it has fields. -/
  allowsSurplus : Bool := false

namespace Decode

variable {ν : Type} [DataSource ν]

/-- Decode the items of a list one by one. -/
def each {α : Type} (decode : ν → Except DecodeError α) : List ν → Except DecodeError (List α)
  | [] => .ok []
  | x :: xs =>
    match decode x with
    | .error e => .error e
    | .ok a =>
      match each decode xs with
      | .error e => .error e
      | .ok as => .ok (a :: as)

def text (x : ν) : Except DecodeError String := DataSource.text x "a string"

def list {α : Type} (decode : ν → Except DecodeError α) (x : ν) : Except DecodeError (List α) :=
  match DataSource.items x with
  | .error e => .error e
  | .ok xs => each decode xs

def tableEntries {α : Type} (decode : ν → Except DecodeError α) (t : Table α) :
    List (ν × ν) → Except DecodeError (Table α)
  | [] => .ok t
  | (k, v) :: rest =>
    match text k with
    | .error e => .error e
    | .ok key =>
      match decode v with
      | .error e => .error e
      | .ok value => tableEntries decode (t.insert key value) rest

/-- A table of values; of several entries with one key the last counts. -/
def table {α : Type} (decode : ν → Except DecodeError α) (x : ν) :
    Except DecodeError (Table α) :=
  match DataSource.entries x with
  | .error e => .error e
  | .ok entries => tableEntries decode [] entries

/-- A value that may be missing. -/
def option {α : Type} (decode : ν → Except DecodeError α) (x : ν) :
    Except DecodeError (Option α) :=
  match DataSource.optional x with
  | .error e => .error e
  | .ok none => .ok none
  | .ok (some y) => (decode y).map some

/-- An integer of a type without negative values. -/
def nat (type : IntType) (x : ν) : Except DecodeError Nat := (DataSource.int x type).map Int.toNat

/-- A condition: a truth value stands for a constant, a text is parsed. -/
def condition (x : ν) : Except DecodeError Condition :=
  match DataSource.truthOrText x with
  | .error e => .error e
  | .ok (.inl b) => .ok (.const b)
  | .ok (.inr s) => (Condition.parse s).mapError .badCondition

/-! ## Records -/

/-- One field of a record type: its name, whether it must be given, and how it is put into a
record. -/
structure Field (ν α : Type) where
  name : String
  required : Bool
  put : ν → α → Except DecodeError α

def Field.of {α β : Type} (name : String) (required : Bool) (decode : ν → Except DecodeError β)
    (store : β → α → α) : Field ν α :=
  ⟨name, required, fun x a => (decode x).map (store · a)⟩

/-- A record type: its name, its fields in declaration order, and the record in which nothing has
been given. Other fields are refused if the type is closed. -/
structure RecordType (ν α : Type) where
  name : String
  fields : List (Field ν α)
  closed : Bool
  blank : α

namespace RecordType

variable {α : Type}

def fieldNames (r : RecordType ν α) : List String := r.fields.map (·.name)

/-- Decode named fields in the order in which they are given. -/
def ofEntries (r : RecordType ν α) (seen : List String) (a : α) :
    List (ν × ν) → Except DecodeError α
  | [] =>
    match r.fields.find? fun f => f.required && !seen.contains f.name with
    | some f => .error (.missingField f.name)
    | none => .ok a
  | (k, v) :: rest =>
    match text k with
    | .error e => .error e
    | .ok key =>
      match r.fields.find? fun f => f.name == key with
      | some f =>
        if seen.contains key then .error (.duplicateField key)
        else
          match f.put v a with
          | .error e => .error e
          | .ok a => ofEntries r (key :: seen) a rest
      | none =>
        if r.closed then .error (.unknownField key r.fieldNames)
        else
          match DataSource.pass v with
          | .error e => .error e
          | .ok _ => ofEntries r seen a rest

/-- Decode fields given by position. -/
def ofItems (r : RecordType ν α) (position : Nat) (a : α) :
    List (Field ν α) → List ν → Except DecodeError α
  | [], xs =>
    if xs.isEmpty || DataSource.allowsSurplus ν then .ok a
    else .error (.tooLong (position + xs.length))
  | f :: fs, [] =>
    if f.required then .error (.tooShort position r.name r.fields.length)
    else ofItems r (position + 1) a fs []
  | f :: fs, x :: xs =>
    match f.put x a with
    | .error e => .error e
    | .ok a => ofItems r (position + 1) a fs xs

def decode (r : RecordType ν α) (x : ν) : Except DecodeError α :=
  match DataSource.record x ("struct " ++ r.name) with
  | .error e => .error e
  | .ok (.fields entries) => r.ofEntries [] r.blank entries
  | .ok (.items items) => r.ofItems 0 r.blank r.fields items

end RecordType

end Decode

end RuleEngine
