import RuleEngine.Yaml.Token.Scalar

set_option autoImplicit false

/-! # Tags, anchors and directives

A tag has a handle and a suffix: `!suffix`, `!!suffix`, `!handle!suffix`, or the whole tag between
angle brackets. Octets of a suffix may be written as `%` with two hexadecimal digits. -/

namespace RuleEngine.Yaml

/-- A character of a tag suffix; a whole tag may also hold commas and square brackets. -/
def isTagChar (whole : Bool) (c : Char) : Bool :=
  isNameChar c || c ∈ [';', '/', '?', ':', '@', '&', '=', '+', '$', '.', '%', '!', '~', '*', '\x27',
    '(', ')'] || (whole && c ∈ [',', '[', ']'])

/-- How many octets a character has and what its first octet gives to its value. -/
def firstOctet? (n : Nat) : Option (Nat × Nat) :=
  if n < 0x80 then some (1, n)
  else if 0xC0 ≤ n && n < 0xE0 then some (2, n - 0xC0)
  else if 0xE0 ≤ n && n < 0xF0 then some (3, n - 0xE0)
  else if 0xF0 ≤ n && n < 0xF8 then some (4, n - 0xF0)
  else none

/-- Replace escaped octets by the characters that they spell; `left` octets are missing of the
character whose value so far is `value`. -/
def unescape? (left value : Nat) : List Char → Option (List Char)
  | '%' :: a :: b :: cs =>
    match hexValue? a, hexValue? b with
    | some x, some y =>
      let n := x * 16 + y
      let step : Option (Nat × Nat) :=
        if left = 0 then (firstOctet? n).map fun (length, v) => (length - 1, v)
        else if 0x80 ≤ n && n < 0xC0 then some (left - 1, value * 64 + (n - 0x80))
        else none
      match step with
      | none => none
      | some (0, v) => (charOf? v).bind fun c => (unescape? 0 0 cs).map (c :: ·)
      | some (more, v) => unescape? more v cs
    | _, _ => none
  | '%' :: _ => none
  | c :: cs => if left = 0 then (unescape? 0 0 cs).map (c :: ·) else none
  | [] => if left = 0 then some [] else none

/-- The handle at the front: `!`, or a name between two of them. The name in front of a single mark
is part of what is read. -/
def handle? (c : Cursor) : Option (List Char × Cursor) :=
  match c.rest with
  | '!' :: _ =>
    let (name, d) := (c.skip 1).takeWhile isNameChar
    match d.rest with
    | '!' :: _ => some ('!' :: name ++ ['!'], d.skip 1)
    | _ => some ('!' :: name, d)
  | _ => none

def tag? (flow : Bool) (c : Cursor) : Option (Token × Cursor) :=
  let ended (d : Cursor) : Bool := atGap d.rest || (flow && d.rest.head? = some ',')
  if c.rest.take 2 == ['!', '<'] then
    let (suffix, d) := (c.skip 2).takeWhile (isTagChar true)
    match suffix.isEmpty, d.rest, unescape? 0 0 suffix with
    | false, '>' :: _, some text =>
      if ended (d.skip 1) then some (.tag "" (String.ofList text), d.skip 1) else none
    | _, _, _ => none
  else
    match handle? c with
    | none => none
    | some (handle, d) =>
      let named := 2 ≤ handle.length && handle.getLast? = some '!'
      let (more, d) := d.takeWhile (isTagChar false)
      if !ended d || (named && more.isEmpty) then none
      else
        match unescape? 0 0 more with
        | none => none
        | some more =>
          if named then some (.tag (String.ofList handle) (String.ofList more), d)
          else
            let suffix := handle.drop 1 ++ more
            if suffix.isEmpty then some (.tag "" "!", d)
            else some (.tag "!" (String.ofList suffix), d)

/-- The name of an anchor or an alias, behind its mark. -/
def anchorName? (c : Cursor) : Option (String × Cursor) :=
  let (name, d) := (c.skip 1).takeWhile isNameChar
  let ended := atGap d.rest ||
    d.rest.head?.any (· ∈ ['?', ':', ',', ']', '\x7d', '%', '@', '\x60'])
  if name.isEmpty || !ended then none else some (String.ofList name, d)

/-! ## Directives -/

def number? (c : Cursor) : Option (Nat × Cursor) :=
  let (digits, d) := c.takeWhile Char.isDigit
  if digits.isEmpty || 9 < digits.length then none
  else some (digits.foldl (fun n x => n * 10 + (x.toNat - 48)) 0, d)

def version? (c : Cursor) : Option (Token × Cursor) :=
  match number? c.skipBlanks with
  | none => none
  | some (major, c) =>
    match c.rest with
    | '.' :: _ => (number? (c.skip 1)).map fun (minor, c) => (.version major minor, c)
    | _ => none

/-- The handle and the text for which a tag directive lets it stand. -/
def tagDirective? (c : Cursor) : Option (Token × Cursor) :=
  match handle? c.skipBlanks with
  | none => none
  | some (handle, c) =>
    if (handle.length != 1 && handle.getLast? != some '!') || !c.rest.head?.any isBlank then none
    else
      let (lead, c) := c.skipBlanks.takeWhile (isTagChar true)
      match unescape? 0 0 lead with
      | none => none
      | some text =>
        if lead.isEmpty || !atGap c.rest then none
        else some (.tagDirective (String.ofList handle) (String.ofList text), c)

/-- A directive, up to the end of its line. -/
def directive? (c : Cursor) : Option (Token × Cursor) :=
  let (name, c) := (c.skip 1).takeWhile isNameChar
  if name.isEmpty || !atGap c.rest then none
  else
    let parsed :=
      if name = ['Y', 'A', 'M', 'L'] then version? c
      else if name = ['T', 'A', 'G'] then tagDirective? c
      else none
    match parsed with
    | none => none
    | some (t, c) => c.endOfLine?.map fun c => (t, c)

end RuleEngine.Yaml
