import RuleEngine.Error

set_option autoImplicit false

/-! # Metrics addresses

The address on which metrics are served: an IPv4 address, or an IPv6 address in square brackets,
and a number of 16 bits behind a colon. -/

namespace RuleEngine

structure SocketAddress where
  /-- Four octets, or eight groups of sixteen bits. -/
  host : List Nat
  portNumber : Nat
deriving DecidableEq

namespace SocketAddress

/-- A decimal number without a leading zero, up to a bound. -/
def decimal? (most : Nat) (zeroLed : Bool) (cs : List Char) : Option Nat :=
  if cs.isEmpty || !cs.all Char.isDigit then none
  else if !zeroLed && 1 < cs.length && cs.head? = some '0' then none
  else
    let n := cs.foldl (fun n c => n * 10 + (c.toNat - 48)) 0
    if n ≤ most then some n else none

/-- The pieces between the occurrences of a character. -/
def splitAt (mark : Char) : List Char → List (List Char)
  | [] => [[]]
  | c :: cs =>
    if c = mark then [] :: splitAt mark cs
    else
      match splitAt mark cs with
      | [] => [[c]]
      | piece :: rest => (c :: piece) :: rest

/-- All results, if there is one for every item. -/
def allSome {α β : Type} (f : α → Option β) : List α → Option (List β)
  | [] => some []
  | x :: xs => (f x).bind fun y => (allSome f xs).map (y :: ·)

/-- Four octets with points between them. -/
def octets? (cs : List Char) : Option (List Nat) :=
  let pieces := splitAt '.' cs
  if pieces.length = 4 && pieces.all (·.length ≤ 3) then allSome (decimal? 255 false) pieces
  else none

/-- A group of one to four hexadecimal digits. -/
def group? (cs : List Char) : Option Nat :=
  let digit? (c : Char) : Option Nat :=
    if c.isDigit then some (c.toNat - 48)
    else if 'a' ≤ c.toLower && c.toLower ≤ 'f' then some (c.toLower.toNat - 87)
    else none
  if cs.isEmpty || 4 < cs.length then none
  else (allSome digit? cs).map (·.foldl (fun n d => n * 16 + d) 0)

/-- Groups with colons between them; the last two may be written as four octets. -/
def groups? (cs : List Char) : Option (List Nat) :=
  if cs.isEmpty then some []
  else
    let pieces := splitAt ':' cs
    match pieces.reverse with
    | [] => some []
    | last :: before =>
      match octets? last with
      | some [a, b, c, d] =>
        (allSome group? before.reverse).map (· ++ [a * 256 + b, c * 256 + d])
      | _ => allSome group? pieces

/-- Cut a text at the first double colon. -/
def cutDouble : List Char → List Char × Option (List Char)
  | ':' :: ':' :: cs => ([], some cs)
  | c :: cs =>
    let (front, back) := cutDouble cs
    (c :: front, back)
  | [] => ([], none)

/-- The eight groups of an IPv6 address; a double colon stands for groups of zeros. -/
def ipv6? (cs : List Char) : Option (List Nat) :=
  match cutDouble cs with
  | (all, none) => (groups? all).filter fun gs => gs.length = 8
  | (front, some back) =>
    match groups? front, groups? back with
    | some f, some b =>
      if f.length + b.length ≤ 7 then some (f ++ List.replicate (8 - f.length - b.length) 0 ++ b)
      else none
    | _, _ => none

def parse? (s : String) : Option SocketAddress :=
  match s.toList with
  | '[' :: cs =>
    let inside := cs.takeWhile (· != ']')
    match cs.dropWhile (· != ']') with
    | ']' :: ':' :: number =>
      let scope := inside.dropWhile (· != '%')
      let scopeOk := scope.isEmpty || (decimal? (Nat.pow 2 32 - 1) true (scope.drop 1)).isSome
      match ipv6? (inside.takeWhile (· != '%')), decimal? 65535 true number with
      | some host, some number => if scopeOk then some ⟨host, number⟩ else none
      | _, _ => none
    | _ => none
  | cs =>
    match splitAt ':' cs with
    | [host, number] =>
      match octets? host, decimal? 65535 true number with
      | some host, some number => some ⟨host, number⟩
      | _, _ => none
    | _ => none

def check : Option String → Except EngineError Unit
  | none => .ok ()
  | some s =>
    if (parse? s).isSome then .ok ()
    else
      .error (.configuration
        ("invalid metrics address '" ++ s ++ "': invalid socket address syntax"))

end SocketAddress

end RuleEngine
