import Observability.Text.Digit

/-!
# Socket addresses

An internet address with a port, in the written forms `a.b.c.d:port` and `[v6]:port`, the second with an
optional scope: `[v6%scope]:port`.  Octets and ports are decimal; an octet has no leading zero, a port
and a scope may have some.  Groups have one to four hexadecimal digits.  One `::` stands for at least one
group of zeros, and a v4 address may stand for the last two groups.

Readers take the characters to come and give the value with what follows it.
-/

namespace Observability

/-- An address with a port. -/
inductive SocketAddress where
  | v4 (octets : List Nat) (port : Nat)
  | v6 (groups : List Nat) (scope : Nat) (port : Nat)
  deriving DecidableEq, Repr

namespace SocketAddress

/-- The digits at the front, and what follows them. -/
def spanDigits (base : Nat) : List Char → List Nat × List Char
  | [] => ([], [])
  | c :: rest =>
    match Text.digit? base c with
    | some d => let (ds, tail) := spanDigits base rest; (d :: ds, tail)
    | none => ([], c :: rest)

/-- A number below `limit`: at least one digit, and no more than `digits` of them if that is given. -/
def readNumber (base limit : Nat) (digits : Option Nat) (leadingZeros : Bool) (cs : List Char) :
    Option (Nat × List Char) :=
  let (ds, rest) := spanDigits base cs
  let value := ds.foldl (fun n d => n * base + d) 0
  let fits := match digits with
    | some most => ds.length ≤ most
    | none => true
  if ds.isEmpty || !fits || limit ≤ value then none
  else if !leadingZeros && ds.head? = some 0 && 1 < ds.length then none
  else some (value, rest)

/-- What follows the character `c`. -/
def readChar (c : Char) : List Char → Option (List Char)
  | d :: rest => if c = d then some rest else none
  | [] => none

def readOctet : List Char → Option (Nat × List Char) := readNumber 10 256 (some 3) false

def readPort : List Char → Option (Nat × List Char) := readNumber 10 65536 none true

/-- Four octets with points between them. -/
def readV4 (cs : List Char) : Option (List Nat × List Char) := do
  let (a, cs) ← readOctet cs
  let (b, cs) ← readChar '.' cs >>= readOctet
  let (c, cs) ← readChar '.' cs >>= readOctet
  let (d, cs) ← readChar '.' cs >>= readOctet
  return ([a, b, c, d], cs)

/-- The two groups that a v4 address stands for. -/
def groupsOfOctets : List Nat → List Nat
  | [a, b, c, d] => [a * 256 + b, c * 256 + d]
  | _ => []

/-- What follows a colon, which stands in front of every group but the first. -/
def readColon (first : Bool) (cs : List Char) : Option (List Char) :=
  if first then some cs else readChar ':' cs

/-- Reads groups while they last, at most `room` of them.  A v4 address takes the room of two and ends
the row; the flag tells of it. -/
def readGroups (first : Bool) : Nat → List Char → List Nat × Bool × List Char
  | 0, cs => ([], false, cs)
  | room + 1, cs =>
    match (if 0 < room then readColon first cs >>= readV4 else none) with
    | some (octets, rest) => (groupsOfOctets octets, true, rest)
    | none =>
      match readColon first cs >>= readNumber 16 65536 (some 4) true with
      | some (group, rest) =>
        let (groups, embedded, tail) := readGroups false room rest
        (group :: groups, embedded, tail)
      | none => ([], false, cs)

/-- Eight groups, of which one `::` may leave out some. -/
def readV6 (cs : List Char) : Option (List Nat × List Char) :=
  let (head, embedded, rest) := readGroups true 8 cs
  if head.length = 8 then some (head, rest)
  else if embedded then none
  else do
    let rest ← readChar ':' rest >>= readChar ':'
    let (tail, _, rest) := readGroups true (7 - head.length) rest
    return (head ++ List.replicate (8 - head.length - tail.length) 0 ++ tail, rest)

/-- The scope behind a percent sign; zero if there is none. -/
def readScope (cs : List Char) : Option (Nat × List Char) :=
  match readChar '%' cs with
  | some rest => readNumber 10 0x100000000 none true rest
  | none => some (0, cs)

/-- An address of either form, at the front of the text. -/
def read (cs : List Char) : Option (SocketAddress × List Char) :=
  match readV4 cs with
  | some (octets, rest) => do
    let (port, rest) ← readChar ':' rest >>= readPort
    return (.v4 octets port, rest)
  | none => do
    let (groups, rest) ← readChar '[' cs >>= readV6
    let (scope, rest) ← readScope rest
    let (port, rest) ← readChar ']' rest >>= readChar ':' >>= readPort
    return (.v6 groups scope port, rest)

/-- The address a text is, if it is one. -/
def parse? (text : String) : Option SocketAddress :=
  match read text.toList with
  | some (address, []) => some address
  | _ => none

end SocketAddress

end Observability
