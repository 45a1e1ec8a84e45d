import RuleEngine.Yaml.Token.Basic

set_option autoImplicit false

/-! # YAML nodes

The tokens of a document make up a tree of nodes. An anchor gives a node a number, and an alias
refers to the number. Where the tokens break off or do not fit, the tree holds a broken node, and
nothing of the document comes after it. -/

namespace RuleEngine.Yaml

inductive Node
  | scalar (style : ScalarStyle) (tag : Option String) (text : String)
  | sequence (tag : Option String) (items : List Node)
  | mapping (tag : Option String) (entries : List (Node × Node))
  | alias (number : Nat)
  | anchored (number : Nat) (node : Node)
  | broken
deriving Inhabited

namespace Node

/-- What stands where a node is left out. -/
def nothing : Node := .scalar .plain none ""

def withNumber : Option Nat → Node → Node
  | some n, x => .anchored n x
  | none, x => x

/-! ## The state of reading nodes -/

/-- What is left of the tokens, and what directives and anchors have said so far. -/
structure Parse where
  tokens : List Token
  /-- Tag handles and what they stand for. -/
  handles : List (String × String) := []
  /-- Numbers of anchors, the newest first. -/
  anchors : List (String × Nat) := []
  /-- The document has not broken off. -/
  intact : Bool := true

namespace Parse

def stop (p : Parse) : Parse := { p with tokens := [], intact := false }

/-- A broken node, after which nothing comes. -/
def break_ (p : Parse) : Node × Parse := (.broken, p.stop)

/-- Go on with these tokens. -/
def at_ (p : Parse) (ts : List Token) : Parse := { p with tokens := ts }

/-- Number a name. The number is how many different names there were before, so a name that comes
again can share its new number with the name that follows it. -/
def addAnchor (p : Parse) : Option String → Option Nat × Parse
  | none => (none, p)
  | some name =>
    let n := p.anchors.length
    (some n, { p with anchors := (name, n) :: p.anchors.filter fun a => a.1 != name })

/-- The whole tag for a handle and a suffix. -/
def tag? (p : Parse) (handle suffix : String) : Option String :=
  if handle.isEmpty then some suffix
  else (p.handles.lookup handle).map (· ++ suffix)

/-- The anchor and the tag in front of a node, in either order. -/
def properties (p : Parse) : Option String × Option (String × String) × Parse :=
  match p.tokens with
  | .anchor a :: .tag h s :: ts | .tag h s :: .anchor a :: ts => (some a, some (h, s), p.at_ ts)
  | .anchor a :: ts => (some a, none, p.at_ ts)
  | .tag h s :: ts => (none, some (h, s), p.at_ ts)
  | _ => (none, none, p)

end Parse

/-- The tag of a scalar that is written; the tag `!` says nothing. -/
def scalarTag : Option String → Option String
  | some "!" => none
  | t => t

/-- In a block collection a node is left out in front of these tokens. -/
def endsBlockNode : Token → Bool
  | .key | .value | .blockEnd => true
  | _ => false

/-- In a block sequence an item is left out in front of these tokens. -/
def endsItem : Token → Bool
  | .entry | .blockEnd => true
  | _ => false

/-- In a sequence on the level of its key an item is left out in front of these tokens. -/
def endsLevelItem : Token → Bool
  | .entry | .key | .value | .blockEnd => true
  | _ => false

/-- In a flow sequence a node is left out in front of these tokens. -/
def endsFlowItem : Token → Bool
  | .comma | .flowSequenceEnd => true
  | _ => false

/-- In a flow mapping a node is left out in front of these tokens. -/
def endsFlowEntry : Token → Bool
  | .comma | .flowMappingEnd => true
  | _ => false

/-! ## The grammar -/

/-- Read on after an item, unless the document broke off in it. -/
def thenItems (x : Node × Parse) (more : Parse → List Node × Parse) : List Node × Parse :=
  if x.2.intact then
    let (xs, p) := more x.2
    (x.1 :: xs, p)
  else ([x.1], x.2)

/-- Read a value after a key, and then more entries. -/
def thenEntries (key : Node × Parse) (value : Parse → Node × Parse)
    (more : Parse → List (Node × Node) × Parse) : List (Node × Node) × Parse :=
  if key.2.intact then
    let v := value key.2
    if v.2.intact then
      let (xs, p) := more v.2
      ((key.1, v.1) :: xs, p)
    else ([(key.1, v.1)], v.2)
  else ([(key.1, .broken)], key.2)

/-- A node, or nothing if the next token says that it was left out. -/
def unlessEnded (ends : Token → Bool) (p : Parse) (read : Parse → Node × Parse) : Node × Parse :=
  match p.tokens with
  | [] => p.break_
  | t :: _ => if ends t then (nothing, p) else read p

/-- The node behind the mark of a value, or nothing if there is no mark. -/
def afterMark (ends : Token → Bool) (read : Parse → Node × Parse) (p : Parse) : Node × Parse :=
  match p.tokens with
  | .value :: ts => unlessEnded ends (p.at_ ts) read
  | [] => p.break_
  | _ => (nothing, p)

mutual

/-- Read a node. The number bounds how deep the reading functions call each other: each of them
takes a token, or calls one that does. -/
def read (fuel : Nat) (block level : Bool) (p : Parse) : Node × Parse :=
  match fuel with
  | 0 => p.break_
  | n + 1 =>
    match p.tokens with
    | .alias name :: ts =>
      match p.anchors.lookup name with
      | some id => (.alias id, p.at_ ts)
      | none => p.break_
    | _ =>
      let (anchor, tag, p) := p.properties
      match tag with
      | none =>
        let (id, p) := p.addAnchor anchor
        let (x, p) := content n block level anchor.isSome none p
        (x.withNumber id, p)
      | some (handle, suffix) =>
        match p.tag? handle suffix with
        | none => p.break_
        | some tag =>
          let (id, p) := p.addAnchor anchor
          let (x, p) := content n block level true (some tag) p
          (x.withNumber id, p)

/-- Read what stands behind the anchor and the tag of a node. -/
def content (fuel : Nat) (block level marked : Bool) (tag : Option String) (p : Parse) :
    Node × Parse :=
  match fuel with
  | 0 => p.break_
  | n + 1 =>
    match p.tokens with
    | [] => p.break_
    | .scalar style text :: ts => (.scalar style (scalarTag tag) text, p.at_ ts)
    | .flowSequenceStart :: ts =>
      let (xs, p) := flowItems n true (p.at_ ts)
      (.sequence tag xs, p)
    | .flowMappingStart :: ts =>
      let (xs, p) := flowEntries n true (p.at_ ts)
      (.mapping tag xs, p)
    | t :: ts =>
      if level && t = .entry then
        let (xs, p) := levelItems n p
        (.sequence tag xs, p)
      else if block && t = .sequenceStart then
        let (xs, p) := blockItems n (p.at_ ts)
        (.sequence tag xs, p)
      else if block && t = .mappingStart then
        let (xs, p) := blockEntries n (p.at_ ts)
        (.mapping tag xs, p)
      else if marked then (.scalar .plain tag "", p)
      else p.break_

def blockItems (fuel : Nat) (p : Parse) : List Node × Parse :=
  match fuel with
  | 0 => ([.broken], p.stop)
  | n + 1 =>
    match p.tokens with
    | .entry :: ts =>
      thenItems (unlessEnded endsItem (p.at_ ts) (read n true false)) (blockItems n)
    | .blockEnd :: ts => ([], p.at_ ts)
    | _ => ([.broken], p.stop)

/-- Items of a block sequence that stands on the level of its key. -/
def levelItems (fuel : Nat) (p : Parse) : List Node × Parse :=
  match fuel with
  | 0 => ([.broken], p.stop)
  | n + 1 =>
    match p.tokens with
    | .entry :: ts =>
      thenItems (unlessEnded endsLevelItem (p.at_ ts) (read n true false)) (levelItems n)
    | [] => ([.broken], p.stop)
    | _ => ([], p)

def blockEntries (fuel : Nat) (p : Parse) : List (Node × Node) × Parse :=
  match fuel with
  | 0 => ([(.broken, .broken)], p.stop)
  | n + 1 =>
    match p.tokens with
    | .key :: ts =>
      thenEntries (unlessEnded endsBlockNode (p.at_ ts) (read n true true))
        (afterMark endsBlockNode (read n true true)) (blockEntries n)
    | .blockEnd :: ts => ([], p.at_ ts)
    | _ => ([(.broken, .broken)], p.stop)

/-- Items of a flow sequence; a comma stands in front of every one but the first. -/
def flowItems (fuel : Nat) (first : Bool) (p : Parse) : List Node × Parse :=
  match fuel with
  | 0 => ([.broken], p.stop)
  | n + 1 =>
    match p.tokens with
    | .flowSequenceEnd :: ts => ([], p.at_ ts)
    | t :: ts =>
      if !first && t != .comma then ([.broken], p.stop)
      else
        let p := if first then p else p.at_ ts
        match p.tokens with
        | .flowSequenceEnd :: ts => ([], p.at_ ts)
        | .key :: ts => thenItems (flowPair n (p.at_ ts)) (flowItems n false)
        | _ => thenItems (read n false false p) (flowItems n false)
    | [] => ([.broken], p.stop)

/-- A mapping of one entry inside a flow sequence. If its key is left out, the token in front of
which it was left out is passed over too. -/
def flowPair (fuel : Nat) (p : Parse) : Node × Parse :=
  match fuel with
  | 0 => p.break_
  | n + 1 =>
    let key := match p.tokens with
      | [] => p.break_
      | t :: ts =>
        if t = .value || endsFlowItem t then (nothing, p.at_ ts) else read n false false p
    let (entries, p) :=
      thenEntries key (afterMark endsFlowItem (read n false false)) fun p => ([], p)
    (.mapping none entries, p)

def flowEntries (fuel : Nat) (first : Bool) (p : Parse) : List (Node × Node) × Parse :=
  match fuel with
  | 0 => ([(.broken, .broken)], p.stop)
  | n + 1 =>
    match p.tokens with
    | .flowMappingEnd :: ts => ([], p.at_ ts)
    | t :: ts =>
      if !first && t != .comma then ([(.broken, .broken)], p.stop)
      else
        let p := if first then p else p.at_ ts
        match p.tokens with
        | .flowMappingEnd :: ts => ([], p.at_ ts)
        | .key :: ts =>
          thenEntries
            (unlessEnded (fun t => t = .value || endsFlowEntry t) (p.at_ ts) (read n false false))
            (afterMark endsFlowEntry (read n false false)) (flowEntries n false)
        | _ =>
          thenEntries (read n false false p)
            (fun p => if p.tokens.isEmpty then p.break_ else (nothing, p)) (flowEntries n false)
    | [] => ([(.broken, .broken)], p.stop)

end

/-! ## Documents -/

/-- The handles that are known without a directive. -/
def knownHandles : List (String × String) := [("!", "!"), ("!!", "tag:yaml.org,2002:")]

/-- Follow the directives in front of a document; a version is given at most once and is 1.1 or 1.2,
and no handle is declared twice. -/
def directives (versioned : Bool) (p : Parse) : List Token → Option Parse
  | .version major minor :: ts =>
    if versioned || major != 1 || (minor != 1 && minor != 2) then none
    else directives true p ts
  | .tagDirective handle lead :: ts =>
    if (p.handles.lookup handle).isSome then none
    else directives versioned { p with handles := (handle, lead) :: p.handles } ts
  | ts => some { p with tokens := ts, handles := p.handles ++ knownHandles }

/-- The row ends here, apart from marks that end a document. -/
def atEnd : List Token → Bool
  | .documentEnd :: ts => atEnd ts
  | [.streamEnd] => true
  | _ => false

/-- The root of the only document of a row of tokens. There is none if the row holds nothing; the
flag says that the row holds one document at most and is sound to its end. -/
def ofTokens (ts : List Token) : Option Node × Bool :=
  let fuel := 4 * ts.length + 4
  let finish (x : Node × Parse) : Option Node × Bool := (some x.1, x.2.intact && atEnd x.2.tokens)
  match ts with
  | [.streamEnd] => (none, true)
  | .version .. :: _ | .tagDirective .. :: _ | .documentStart :: _ =>
    match directives false { tokens := ts } ts with
    | some p =>
      match p.tokens with
      | .documentStart :: ts =>
        match ts with
        | .version .. :: _ | .tagDirective .. :: _ | .documentStart :: _ | .documentEnd :: _
        | .streamEnd :: _ => finish (nothing, p.at_ ts)
        | _ => finish (read fuel true false (p.at_ ts))
      | _ => (some .broken, false)
    | none => (some .broken, false)
  | _ => finish (read fuel true false { tokens := ts, handles := knownHandles })

end Node

end RuleEngine.Yaml
