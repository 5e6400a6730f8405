import Observability.Toml.Quoted
import Observability.Toml.Scalar
import Observability.Toml.Table

/-!
# Keys and values of TOML

Readers take the characters to come and give what they read with what follows it.  A value may nest at
most `maxNesting` arrays and tables in braces, and a dotted key has at most as many keys; the first of
these limits is what ends the reader of values.
-/

namespace Observability.Toml

/-- How deep values nest and how long dotted keys are, at most. -/
def maxNesting : Nat := 79

def skipWs (cs : List Char) : List Char := cs.dropWhile isWs

/-- What follows a comment, or the text itself if it does not start with one. -/
def skipComment : List Char → List Char
  | '#' :: rest => rest.dropWhile isLineChar
  | cs => cs

/-- What follows the end of the line, in front of which only blanks and a comment may stand. -/
def lineEnd? (cs : List Char) : Option (List Char) :=
  match skipComment (skipWs cs) with
  | [] => some []
  | rest => newline? rest

/-- What follows blanks, line ends and comments; none if a comment does not end with its line. -/
def skipGaps (inComment : Bool) : List Char → Option (List Char)
  | [] => if inComment then none else some []
  | '\n' :: rest => skipGaps false rest
  | '\r' :: '\n' :: rest => skipGaps false rest
  | c :: rest =>
    if inComment then (if isLineChar c then skipGaps true rest else none)
    else if isWs c then skipGaps false rest
    else if c = '#' then skipGaps true rest
    else some (c :: rest)

/-! ## Keys -/

/-- Characters of keys without quotes. -/
def isKeyChar (c : Char) : Bool := c.isAlphanum || c = '-' || c = '_'

/-- Reads a key without blanks around it. -/
def readKey (cs : List Char) : Option (Key × List Char) :=
  let located (name rest : List Char) : Key × List Char :=
    (⟨String.ofList name, .between cs rest⟩, rest)
  match cs with
  | '"' :: rest => (readBasic .plain rest).map fun (name, tail) => located name tail
  | '\'' :: rest => (readLiteral rest).map fun (name, tail) => located name tail
  | _ =>
    let name := cs.takeWhile isKeyChar
    if name.isEmpty then none else some (located name (cs.dropWhile isKeyChar))

/-- Reads keys with points between them: the last one and those in front of it. -/
def readKeys : Nat → List Char → Option ((List Key × Key) × List Char)
  | 0, _ => none
  | fuel + 1, cs => do
    let (key, rest) ← readKey (skipWs cs)
    match skipWs rest with
    | '.' :: rest =>
      let ((path, last), rest) ← readKeys fuel rest
      return ((key :: path, last), rest)
    | rest => return (([], key), rest)

/-- Reads a dotted key with the blanks around it. -/
def readPath (cs : List Char) : Option ((List Key × Key) × List Char) := readKeys maxNesting cs

/-! ## Values -/

/-- Reads the items of an array up to its bracket; a comma may follow the last one. -/
def readItems (value : List Char → Option (Node × List Char)) :
    Nat → List Char → Option (List Node × List Char)
  | 0, _ => none
  | fuel + 1, cs => do
    match ← skipGaps false cs with
    | ']' :: rest => return ([], rest)
    | start =>
      let (node, rest) ← value start
      match ← skipGaps false rest with
      | ']' :: rest => return ([node], rest)
      | ',' :: rest =>
        let (nodes, rest) ← readItems value fuel rest
        return (node :: nodes, rest)
      | _ => none

/-- Reads `key = value`. -/
def readEntry (value : List Char → Option (Node × List Char)) (cs : List Char) :
    Option (Entry × List Char) := do
  let ((path, key), rest) ← readPath cs
  match rest with
  | '=' :: rest =>
    let (node, rest) ← value (skipWs rest)
    return (⟨path, key, node⟩, rest)
  | _ => none

/-- Reads at least one entry in braces, up to the closing one. -/
def readPairs (value : List Char → Option (Node × List Char)) :
    Nat → List Char → Option (List Entry × List Char)
  | 0, _ => none
  | fuel + 1, cs => do
    let (entry, rest) ← readEntry value cs
    match skipWs rest with
    | '\x7d' :: rest => return ([entry], rest)
    | ',' :: rest =>
      let (entries, rest) ← readPairs value fuel rest
      return (entry :: entries, rest)
    | _ => none

/-- Reads a value; the text starts with its first character.  The number tells how many arrays and
tables may still nest. -/
def readValue : Nat → List Char → Option (Node × List Char)
  | nesting, cs =>
    match cs with
    | '"' :: _ | '\'' :: _ =>
      (readString cs).map fun (text, rest) =>
        (.scalar (.between cs rest) (.string (String.ofList text)), rest)
    | '[' :: rest =>
      match nesting with
      | 0 => none
      | inner + 1 => do
        let (items, rest) ← readItems (readValue inner) (rest.length + 1) rest
        return (.array (.between cs rest) items, rest)
    | '\x7b' :: rest =>
      match nesting with
      | 0 => none
      | inner + 1 => do
        let (list, rest) ←
          match skipWs rest with
          | '\x7d' :: rest => some ([], rest)
          | start => readPairs (readValue inner) (start.length + 1) start
        let entries ← addEntries .inline [] list
        return (.table (some (.between cs rest)) .inline entries, rest)
    | _ => (readBare cs).map fun (value, rest) => (.scalar (.between cs rest) value, rest)

end Observability.Toml
