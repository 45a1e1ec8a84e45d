set_option autoImplicit false

/-! # File paths

A path has a text, in which it is shown, and the names that lead from the root of the file tree to
the place that it denotes. -/

namespace RuleEngine

/-- A place in a file tree, with the text that it is written with. -/
structure FilePath where
  text : String
  /-- Names from the root of the tree. -/
  parts : List String
deriving DecidableEq, Inhabited

namespace FilePath

/-- The place of an entry of a directory. -/
def child (p : FilePath) (name : String) : FilePath where
  text :=
    if p.text.isEmpty || p.text.toList.getLast? = some '/' then p.text ++ name
    else p.text ++ "/" ++ name
  parts := p.parts ++ [name]

/-- Follow one name of a path; the empty name and a dot stay, two dots go up. -/
def follow (parts : List String) (name : String) : List String :=
  if name == "" || name == "." then parts
  else if name == ".." then parts.dropLast
  else parts ++ [name]

/-- What stands between the slashes of a text. -/
def names (text : String) : List String := (text.toList.splitOn '/').map String.ofList

/-- An absolute path begins with a slash. -/
def isAbsolute (text : String) : Bool := text.toList.head? = some '/'

/-- The place that a path denotes at the root of the tree. An absolute path begins with a name that
nothing in the tree has, and so it leads out of it. -/
def ofText (text : String) : FilePath where
  text := text
  parts := (names text).foldl follow (if isAbsolute text then ["/"] else [])

/-- The place that a path denotes in a directory; an absolute path does not depend on it. -/
def join (p : FilePath) (text : String) : FilePath :=
  if isAbsolute text then ofText text
  else { text := (p.child text).text, parts := (names text).foldl follow p.parts }

/-- The directory that a path lies in. -/
def parent (p : FilePath) : List String := p.parts.dropLast

/-! ## File names -/

/-- The characters before and after the last dot. -/
def splitDot : List Char → Option (List Char × List Char)
  | [] => none
  | c :: cs =>
    match splitDot cs with
    | some (before, after) => some (c :: before, after)
    | none => if c = '.' then some ([], cs) else none

/-- The part of a file name after its last dot, unless the name begins with that dot. -/
def extension? (name : String) : Option String :=
  match splitDot name.toList with
  | some (_ :: _, after) => some (String.ofList after)
  | _ => none

/-- The part of a file name before its last dot; the whole name if it has no extension. -/
def stem (name : String) : String :=
  match splitDot name.toList with
  | some (c :: before, _) => String.ofList (c :: before)
  | _ => name

/-- A name that begins with a dot is hidden. -/
def isHidden (name : String) : Bool := name.toList.head? = some '.'

end FilePath

end RuleEngine
