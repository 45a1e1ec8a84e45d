import RuleEngine.Condition.Token

set_option autoImplicit false

/-! # The grammar of conditions

```
or      := and ( "||" and )*
and     := unary ( "&&" unary )*
unary   := "!" unary | primary
primary := "(" or ")" | "true" | "false" | "exists" "(" name ")" | name op value
```

Each reader below takes one phrase off the front of a token list and returns the rest, which is
shorter. The operands of a chain are collected in order; a chain of one operand is that operand. -/

namespace RuleEngine

namespace Condition

def literalOfWord (word : String) : Except ConditionError Literal :=
  if word = "true" then .ok (.bool true)
  else if word = "false" then .ok (.bool false)
  else if Token.looksNumeric word then
    match Double.parse? word with
    | some d => if d.isFinite then .ok (.number d) else .error (.outOfRange word)
    | none => .ok (.text word)
  else .ok (.text word)

/-- A conjunction of operands, or the only operand. -/
def allOf (c : Condition) : List Condition → Condition
  | [] => c
  | cs => .all (c :: cs)

/-- A disjunction of operands, or the only operand. -/
def anyOf (c : Condition) : List Condition → Condition
  | [] => c
  | cs => .any (c :: cs)

/-- A phrase and the tokens behind it, fewer than there were. -/
abbrev Phrase (ts : List Token) :=
  Except ConditionError { r : Condition × List Token // r.2.length < ts.length }

/-- More operands of a chain and the tokens behind them. -/
abbrev Operands (ts : List Token) :=
  Except ConditionError { r : List Condition × List Token // r.2.length ≤ ts.length }

/-- The value on the right of a comparison. -/
def value (ts : List Token) :
    Except ConditionError { r : Literal × List Token // r.2.length < ts.length } :=
  match ts with
  | .word w :: rest =>
    match literalOfWord w with
    | .ok v => .ok ⟨(v, rest), by simp⟩
    | .error e => .error e
  | .quoted s :: rest => .ok ⟨(.text s, rest), by simp⟩
  | t :: _ => .error (.missingValue (some t))
  | [] => .error (.missingValue none)

/-- A comparison whose word and operator have been read. -/
def comparison (word : String) (op : Comparison) (ts : List Token) : Phrase ts :=
  if Token.isIdentifier word then
    match value ts with
    | .ok ⟨(v, rest), h⟩ => .ok ⟨(.compare word op v, rest), h⟩
    | .error e => .error e
  else .error (.badName word)

/-- The test for a fact whose word and opening parenthesis have been read. -/
def presence (ts : List Token) : Phrase ts :=
  match ts with
  | .word key :: rest =>
    if Token.isIdentifier key then
      match rest with
      | .rparen :: rest => .ok ⟨(.present key, rest), by simp only [List.length_cons]; omega⟩
      | t :: _ => .error (.expected .rparen (some t))
      | [] => .error (.expected .rparen none)
    else .error .missingName
  | _ => .error .missingName

def worded (word : String) (ts : List Token) : Phrase (.word word :: ts) :=
  match ts with
  | .compare op :: rest =>
    match comparison word op rest with
    | .ok ⟨r, h⟩ => .ok ⟨r, by simp only [List.length_cons]; omega⟩
    | .error e => .error e
  | ts =>
    if word = "true" then .ok ⟨(.const true, ts), by simp⟩
    else if word = "false" then .ok ⟨(.const false, ts), by simp⟩
    else
      match word, ts with
      | "exists", .lparen :: rest =>
        match presence rest with
        | .ok ⟨r, h⟩ => .ok ⟨r, by simp only [List.length_cons]; omega⟩
        | .error e => .error e
      | word, ts => .error (.missingComparison word ts.head?)

mutual

/-- A disjunction. -/
def orPhrase (ts : List Token) : Phrase ts :=
  match andPhrase ts with
  | .error e => .error e
  | .ok ⟨(c, rest), h⟩ =>
    match orOperands rest with
    | .error e => .error e
    | .ok ⟨(cs, rest'), h'⟩ => .ok ⟨(anyOf c cs, rest'), by simp only at *; omega⟩
termination_by (ts.length, 4)

/-- The operands of a disjunction behind its first one. -/
def orOperands (ts : List Token) : Operands ts :=
  match ts with
  | .or :: rest =>
    match andPhrase rest with
    | .error e => .error e
    | .ok ⟨(c, rest'), h⟩ =>
      match orOperands rest' with
      | .error e => .error e
      | .ok ⟨(cs, rest''), h'⟩ =>
        .ok ⟨(c :: cs, rest''), by simp only [List.length_cons] at *; omega⟩
  | ts => .ok ⟨([], ts), by simp⟩
termination_by (ts.length, 0)
decreasing_by all_goals (simp only [Prod.lex_def, List.length_cons] at *; omega)

/-- A conjunction. -/
def andPhrase (ts : List Token) : Phrase ts :=
  match unaryPhrase ts with
  | .error e => .error e
  | .ok ⟨(c, rest), h⟩ =>
    match andOperands rest with
    | .error e => .error e
    | .ok ⟨(cs, rest'), h'⟩ => .ok ⟨(allOf c cs, rest'), by simp only at *; omega⟩
termination_by (ts.length, 3)

/-- The operands of a conjunction behind its first one. -/
def andOperands (ts : List Token) : Operands ts :=
  match ts with
  | .and :: rest =>
    match unaryPhrase rest with
    | .error e => .error e
    | .ok ⟨(c, rest'), h⟩ =>
      match andOperands rest' with
      | .error e => .error e
      | .ok ⟨(cs, rest''), h'⟩ =>
        .ok ⟨(c :: cs, rest''), by simp only [List.length_cons] at *; omega⟩
  | ts => .ok ⟨([], ts), by simp⟩
termination_by (ts.length, 0)
decreasing_by all_goals (simp only [Prod.lex_def, List.length_cons] at *; omega)

/-- A negation or a primary phrase. -/
def unaryPhrase (ts : List Token) : Phrase ts :=
  match ts with
  | .not :: rest =>
    match unaryPhrase rest with
    | .error e => .error e
    | .ok ⟨(c, rest'), h⟩ => .ok ⟨(.not c, rest'), by simp only [List.length_cons] at *; omega⟩
  | ts => primaryPhrase ts
termination_by (ts.length, 2)

/-- A phrase in parentheses, a constant or a test of one fact. -/
def primaryPhrase (ts : List Token) : Phrase ts :=
  match ts with
  | .lparen :: rest =>
    match orPhrase rest with
    | .error e => .error e
    | .ok ⟨(c, .rparen :: rest'), h⟩ =>
      .ok ⟨(c, rest'), by simp only [List.length_cons] at *; omega⟩
    | .ok ⟨(_, t :: _), _⟩ => .error (.expected .rparen (some t))
    | .ok ⟨(_, []), _⟩ => .error (.expected .rparen none)
  | .word w :: rest => worded w rest
  | t :: _ => .error (.unexpected (some t))
  | [] => .error (.unexpected none)
termination_by (ts.length, 1)

end

def ofTokens (ts : List Token) : Except ConditionError Condition :=
  match orPhrase ts with
  | .error e => .error e
  | .ok ⟨(c, []), _⟩ => .ok c
  | .ok ⟨(_, t :: _), _⟩ => .error (.trailing t)

def parse (s : String) : Except ConditionError Condition :=
  match Token.ofText s with
  | .error e => .error e
  | .ok ts => ofTokens ts

end Condition

end RuleEngine
