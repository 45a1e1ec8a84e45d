import RuleEngine.Configuration.Environment

set_option autoImplicit false

/-! # Command-line arguments

The arguments are read from left to right: options of the program, the name of a task, and then
options and operands of the task. The options of the program may stand behind the name of the task
as well; what stands there counts more. An option that takes a value has it behind an equals sign or
in the next argument. Behind two hyphens everything is an operand. -/

namespace RuleEngine.CommandLine

open RuleEngine.Configuration (Environment)

/-- What the program can be asked to do. -/
inductive Task
  /-- Run the template of the configuration. -/
  | run (merged : Bool) (maxTicks : Option Nat)
  /-- Merge the fragments of the template. -/
  | merge
  /-- List the templates of a sub-directory. -/
  | list (subDir : Option String)
  /-- Print the fields of operations. -/
  | fields (operation : Option String)
deriving DecidableEq, Inhabited

/-- A task with the options of the program. -/
structure Invocation where
  configPath : Option String
  settingsPath : Option String
  task : Task
deriving DecidableEq, Inhabited

/-- The words that the program knows. -/
inductive Word
  | run
  | merge
  | list
  | fields
  | help
deriving DecidableEq, Inhabited

def Word.byName : List (String × Word) :=
  [("run", .run), ("merge", .merge), ("list", .list), ("fields", .fields), ("help", .help)]

/-- What the arguments ask for. -/
inductive Request
  | invoke (i : Invocation)
  | version
  /-- Help on the whole program or on a word. -/
  | help (word : Option Word)
  /-- The arguments make no sense. -/
  | misuse
deriving DecidableEq, Inhabited

/-! ## Levels -/

/-- What may be given at one level: options with a value, which is checked, options without one, and
a number of operands. The version is asked for in front of the task only. -/
structure Level where
  word : Option Word
  valued : List (String × (String → Bool))
  flags : List String := []
  operands : Nat := 0

/-- A path is not empty. -/
def isPath (s : String) : Bool := !s.isEmpty

/-- A natural number of 64 bits, with a plus sign or without. -/
def count? (s : String) : Option Nat :=
  let digits := match s.toList with
    | '+' :: cs => cs
    | cs => cs
  if digits.isEmpty || !digits.all Char.isDigit then none
  else
    let n := Numeral.digitsValue digits
    if (n : Int) ≤ IntType.u64.most then some n else none

/-- The options that may stand at every level. -/
def everywhere : List (String × (String → Bool)) := [("config", isPath), ("settings", isPath)]

namespace Level

/-- The level in front of the task. -/
def top : Level := { word := none, valued := everywhere }

/-- The level behind the name of a task. -/
def ofWord (w : Word) : Level :=
  match w with
  | .run =>
    { word := w, valued := ("max-ticks", fun s => (count? s).isSome) :: everywhere
      flags := ["merged"] }
  | .list | .fields => { word := w, valued := everywhere, operands := 1 }
  | .merge | .help => { word := w, valued := everywhere }

end Level

/-- What was given at one level. -/
structure Given where
  values : Table String := []
  flags : List String := []
  operands : List String := []
deriving DecidableEq, Inhabited

namespace Given

/-- Note the value of an option; it must be sound and the first one. -/
def withValue? (g : Given) (l : Level) (name value : String) : Option Given :=
  match l.valued.lookup name with
  | some isSound =>
    if isSound value && !g.values.contains name then
      some { g with values := g.values.insert name value }
    else none
  | none => none

/-- Note an option without a value, which may be given once. -/
def withFlag? (g : Given) (l : Level) (name : String) : Option Given :=
  if l.flags.contains name && !g.flags.contains name then
    some { g with flags := g.flags ++ [name] }
  else none

/-- Note an operand, if there is room for it. -/
def withOperand? (g : Given) (l : Level) (s : String) : Option Given :=
  if g.operands.length < l.operands then some { g with operands := g.operands ++ [s] } else none

end Given

/-! ## Single arguments -/

inductive Argument
  /-- A long option, with the value behind its equals sign. -/
  | long (name : String) (value : Option String)
  /-- A hyphen and letters. -/
  | short (letters : List Char)
  /-- Two hyphens: only operands follow. -/
  | rest
  | word (s : String)
deriving DecidableEq, Inhabited

def Argument.ofText (s : String) : Argument :=
  match s.toList with
  | ['-', '-'] => .rest
  | '-' :: '-' :: cs =>
    let name := String.ofList (cs.takeWhile (· != '='))
    match cs.dropWhile (· != '=') with
    | _ :: value => .long name (some (String.ofList value))
    | [] => .long name none
  | '-' :: c :: cs => .short (c :: cs)
  | _ => .word s

/-- The argument may be the value of the option before it. -/
def Argument.value? : Argument → Option String
  | .word s => some s
  | _ => none

/-! ## Reading -/

/-- What the letters behind a hyphen ask for: the first one decides. -/
def ofLetters (l : Level) (letters : List Char) : Request :=
  match letters, l.word with
  | 'h' :: _, w => .help w
  | 'V' :: _, none => .version
  | _, _ => .misuse

/-- Read the arguments of a level, up to the name of a task where one may stand. -/
def readLevel (l : Level) (g : Given) :
    List String → Except Request (Given × Option (Word × List String))
  | [] => .ok (g, none)
  | s :: rest =>
    match Argument.ofText s with
    | .rest =>
      match rest.foldlM (fun g s => g.withOperand? l s) g with
      | some g => .ok (g, none)
      | none => .error .misuse
    | .short letters => .error (ofLetters l letters)
    | .long "help" none => .error (.help l.word)
    | .long "version" none => .error (if l.word.isNone then .version else .misuse)
    | .long name (some value) =>
      match g.withValue? l name value with
      | some g => readLevel l g rest
      | none => .error .misuse
    | .long name none =>
      if l.flags.contains name then
        match g.withFlag? l name with
        | some g => readLevel l g rest
        | none => .error .misuse
      else
        match rest with
        | [] => .error .misuse
        | v :: rest =>
          match (Argument.ofText v).value?.bind (g.withValue? l name) with
          | some g => readLevel l g rest
          | none => .error .misuse
    | .word s =>
      match l.word with
      | none =>
        match Word.byName.lookup s with
        | some w => .ok (g, some (w, rest))
        | none => .error .misuse
      | some _ =>
        match g.withOperand? l s with
        | some g => readLevel l g rest
        | none => .error .misuse

def taskOf? (w : Word) (g : Given) : Option Task :=
  match w with
  | .run => some (.run (g.flags.contains "merged") ((g.values.get? "max-ticks").bind count?))
  | .merge => some .merge
  | .list => some (.list g.operands.head?)
  | .fields => some (.fields g.operands.head?)
  | .help => none

/-- What help is asked for by words. -/
def helpOn : List String → Request
  | [] => .help none
  | [s] => ((Word.byName.lookup s).map fun w => Request.help (some w)).getD .misuse
  | _ => .misuse

/-- The value of an option of the program: behind the task, in front of it, or in a variable of the
environment, which is checked wherever the option is missing. -/
def optionOf (name variable_ : String) (vars : Environment) (outer inner : Given) :
    Except Request (Option String) :=
  let fallback := vars.get? variable_
  let missing := !outer.values.contains name || !inner.values.contains name
  if missing && fallback.any fun s => !isPath s then .error .misuse
  else
    .ok (((inner.values.get? name).orElse fun _ => outer.values.get? name).orElse fun _ => fallback)

def settingsVariable : String := "AUTOPILOT_SETTINGS"

def invocation (w : Word) (vars : Environment) (outer inner : Given) : Request :=
  match taskOf? w inner, optionOf "config" Environment.pathVariable vars outer inner,
    optionOf "settings" settingsVariable vars outer inner with
  | some task, .ok configPath, .ok settingsPath => .invoke ⟨configPath, settingsPath, task⟩
  | _, _, _ => .misuse

def Request.ofArguments (arguments : List String) (vars : Environment) : Request :=
  match readLevel .top {} arguments with
  | .error r => r
  | .ok (_, none) => .misuse
  | .ok (_, some (.help, rest)) => helpOn rest
  | .ok (outer, some (w, rest)) =>
    match readLevel (.ofWord w) {} rest with
    | .error r => r
    | .ok (inner, _) => invocation w vars outer inner

end RuleEngine.CommandLine
