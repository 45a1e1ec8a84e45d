import RuleEngine.Condition.Basic
import RuleEngine.Text.Alphanumeric
import RuleEngine.Decimal.Numeral

set_option autoImplicit false

/-! # Tokens of conditions

A condition is written in parentheses, operators, words and quoted texts. A quoted text stands in
single or double quotes; a backslash in it takes the next character as it is. Blank characters
separate tokens and have no other meaning. -/

namespace RuleEngine

inductive Token
  | lparen
  | rparen
  | and
  | or
  | not
  | compare (op : Comparison)
  | word (s : String)
  | quoted (s : String)
deriving DecidableEq

def Token.shown : Token → String
  | .lparen => "'('"
  | .rparen => "')'"
  | .and => "'&&'"
  | .or => "'||'"
  | .not => "'!'"
  | .compare op => "'" ++ op.text ++ "'"
  | .word w => "'" ++ w ++ "'"
  | .quoted s => "\"" ++ s ++ "\""

/-- Why a text is not a condition. -/
inductive ConditionError
  | empty
  | unpaired (c : Char)
  | unterminated
  | strayCharacter (c : Char)
  | trailing (t : Token)
  | expected (t : Token) (found : Option Token)
  | unexpected (found : Option Token)
  | badName (word : String)
  | missingValue (found : Option Token)
  | missingName
  | missingComparison (word : String) (found : Option Token)
  | outOfRange (word : String)
deriving DecidableEq

namespace ConditionError

/-- What was found in the place of something else. -/
def foundText : Option Token → String
  | some t => t.shown
  | none => "end of input"

def reason : ConditionError → String
  | .empty => "empty expression"
  | .unpaired c => "expected '" ++ String.ofList [c, c] ++ "'"
  | .unterminated => "unterminated string"
  | .strayCharacter c => "unexpected character '" ++ String.singleton c ++ "'"
  | .trailing t => "unexpected trailing " ++ t.shown
  | .expected t found => "expected " ++ t.shown ++ ", found " ++ foundText found
  | .unexpected found => "unexpected " ++ foundText found
  | .badName word => "invalid fact name '" ++ word ++ "'"
  | .missingValue found => "expected value, found " ++ foundText found
  | .missingName => "exists() expects a fact name"
  | .missingComparison word found =>
    "expected comparison operator after '" ++ word ++ "'" ++
      (match found with
      | some t => ", found " ++ t.shown
      | none => "")
  | .outOfRange word => "number " ++ word ++ " is out of range"

def message (e : ConditionError) : String := "invalid condition: " ++ e.reason

end ConditionError

namespace Token

/-! ## Words -/

def isWordChar (c : Char) : Bool :=
  Text.isAlphanumeric c || c == '_' || c == '.' || c == '-' || c == ':' || c == '+'

/-- Names of facts: an ASCII letter or underscore, then ASCII letters, digits and `_.-`. -/
def isIdentifier (word : String) : Bool :=
  match word.toList with
  | [] => false
  | c :: rest =>
    (c.isAlpha || c == '_') &&
      rest.all fun c => c.isAlphanum || c == '_' || c == '.' || c == '-'

/-- An optional sign and a digit stand at the front. -/
def looksNumeric (word : String) : Bool :=
  match word.toList with
  | c :: rest =>
    if c = '-' ∨ c = '+' then (match rest with
      | d :: _ => d.isDigit
      | [] => false)
    else c.isDigit
  | [] => false

/-- The text reads back as itself when it is written without quotes. -/
def isBareWord (s : String) : Bool :=
  s != "" && s.toList.all isWordChar && !looksNumeric s && s != "true" && s != "false"

/-! ## Splitting a text into tokens -/

/-- The text up to the closing quote, and what follows it. -/
def quotedBody? (quote : Char) : List Char → Option (List Char × List Char)
  | [] => none
  | ['\\'] => none
  | '\\' :: c :: rest => (quotedBody? quote rest).map fun r => (c :: r.1, r.2)
  | c :: rest =>
    if c = quote then some ([], rest)
    else (quotedBody? quote rest).map fun r => (c :: r.1, r.2)

/-- An operator of two equal characters, the first of which has been read. -/
def paired (c : Char) (t : Token) : List Char → Except ConditionError (Token × List Char)
  | d :: rest => if d = c then .ok (t, rest) else .error (.unpaired c)
  | [] => .error (.unpaired c)

/-- An operator that an equals sign may follow. -/
def maybeEquals (plain equals : Token) : List Char → Token × List Char
  | '=' :: rest => (equals, rest)
  | rest => (plain, rest)

/-- The token that begins with a character which is not blank, and what follows the token. -/
def first (c : Char) (rest : List Char) : Except ConditionError (Token × List Char) :=
  match c with
  | '(' => .ok (.lparen, rest)
  | ')' => .ok (.rparen, rest)
  | '&' => paired c .and rest
  | '|' => paired c .or rest
  | '=' => paired c (.compare .eq) rest
  | '!' => .ok (maybeEquals .not (.compare .ne) rest)
  | '>' => .ok (maybeEquals (.compare .gt) (.compare .ge) rest)
  | '<' => .ok (maybeEquals (.compare .lt) (.compare .le) rest)
  | c =>
    if c = '"' ∨ c = '\x27' then
      match quotedBody? c rest with
      | some (body, rest) => .ok (.quoted (String.ofList body), rest)
      | none => .error .unterminated
    else if isWordChar c then
      .ok (.word (String.ofList (c :: rest.takeWhile isWordChar)), rest.dropWhile isWordChar)
    else .error (.strayCharacter c)

theorem quotedBody?_length {quote : Char} {cs body rest : List Char}
    (h : quotedBody? quote cs = some (body, rest)) : rest.length < cs.length := by
  fun_induction quotedBody? quote cs generalizing body rest with
  | case1 => simp at h
  | case2 => simp at h
  | case3 c cs ih =>
    obtain ⟨⟨b, r⟩, hr, he⟩ := Option.map_eq_some_iff.1 h
    simp only [Prod.mk.injEq] at he
    have := ih hr
    rw [← he.2]
    simp only [List.length_cons]
    omega
  | case4 => simp_all
  | case5 c cs _ _ _ ih =>
    obtain ⟨⟨b, r⟩, hr, he⟩ := Option.map_eq_some_iff.1 h
    simp only [Prod.mk.injEq] at he
    have := ih hr
    rw [← he.2]
    simp only [List.length_cons]
    omega

theorem paired_length {c : Char} {t u : Token} {cs rest : List Char}
    (h : paired c t cs = .ok (u, rest)) : rest.length ≤ cs.length := by
  unfold paired at h
  split at h
  · split at h
    · simp only [Except.ok.injEq, Prod.mk.injEq] at h
      rw [← h.2]
      simp
    · simp at h
  · simp at h

theorem maybeEquals_length (t u : Token) (cs : List Char) :
    (maybeEquals t u cs).2.length ≤ cs.length := by
  unfold maybeEquals
  split <;> simp

/-- A token takes at least its first character. -/
theorem first_length {c : Char} {cs rest : List Char} {t : Token}
    (h : first c cs = .ok (t, rest)) : rest.length ≤ cs.length := by
  unfold first at h
  split at h
  · simp_all
  · simp_all
  · exact paired_length h
  · exact paired_length h
  · exact paired_length h
  · have := maybeEquals_length .not (.compare .ne) cs
    simp_all
  · have := maybeEquals_length (.compare .gt) (.compare .ge) cs
    simp_all
  · have := maybeEquals_length (.compare .lt) (.compare .le) cs
    simp_all
  · split at h
    · split at h
      · rename_i hq
        have := quotedBody?_length hq
        simp only [Except.ok.injEq, Prod.mk.injEq] at h
        rw [← h.2]
        omega
      · simp at h
    · split at h
      · simp only [Except.ok.injEq, Prod.mk.injEq] at h
        rw [← h.2]
        exact (List.dropWhile_suffix _).length_le
      · simp at h

/-- The tokens of a text, none if it is blank. -/
def scan : List Char → Except ConditionError (List Token)
  | [] => .ok []
  | c :: rest =>
    if Text.isBlank c then scan rest
    else
      match _h : first c rest with
      | .error e => .error e
      | .ok (t, rest') =>
        match scan rest' with
        | .error e => .error e
        | .ok ts => .ok (t :: ts)
termination_by cs => cs.length
decreasing_by
  · simp
  · have := first_length _h
    simp only [List.length_cons]
    omega

/-- The tokens of a text, of which there must be one. -/
def ofText (s : String) : Except ConditionError (List Token) :=
  match scan s.toList with
  | .ok [] => .error .empty
  | r => r

end Token

end RuleEngine
