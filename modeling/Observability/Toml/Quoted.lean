import Observability.Text.Digit

/-!
# Quoted strings of TOML

Four forms: in quotes with escapes or in apostrophes without, on one line or, with three marks at each
end, over several.  A reader starts behind the opening mark and gives the text with what follows the
closing one.  Each is a machine that takes one character at a time, so it ends with its input.

In the forms over several lines one or two marks in a row are text.  Of a longer run the last three
close the string and at most two before them are text.
-/

namespace Observability.Toml

/-- Characters of a line but its end: the tab, and everything from the blank on except U+007F. -/
def isLineChar (c : Char) : Bool := c = '\t' || (0x20 ≤ c.toNat && c.toNat ≠ 0x7F)

def isWs (c : Char) : Bool := c = ' ' || c = '\t'

/-- The character of a one-letter escape. -/
def simpleEscape? (c : Char) : Option Char :=
  if c = 'b' then some '\x08'
  else if c = 't' then some '\t'
  else if c = 'n' then some '\n'
  else if c = 'f' then some '\x0c'
  else if c = 'r' then some '\r'
  else if c = '"' then some '"'
  else if c = '\\' then some '\\'
  else none

/-- The character with the given code, unless it is half of a pair or beyond the last. -/
def charOfCode? (n : Nat) : Option Char :=
  if n < 0xD800 ∨ (0xDFFF < n ∧ n < 0x110000) then some (Char.ofNat n) else none

/-! ## One line -/

/-- Where the reader of a string on one line stands. -/
inductive LineState where
  | plain
  | escape
  /-- inside `\uXXXX` or `\UXXXXXXXX`: digits still to come and value so far -/
  | code (missing value : Nat)
  deriving DecidableEq, Repr

/-- One character read: the text it completes and the next state. -/
def LineState.step (c : Char) : LineState → Option (List Char × LineState)
  | .plain =>
    if c = '\\' then some ([], .escape)
    else if isLineChar c then some ([c], .plain)
    else none
  | .escape =>
    if c = 'u' then some ([], .code 4 0)
    else if c = 'U' then some ([], .code 8 0)
    else (simpleEscape? c).map fun d => ([d], .plain)
  | .code missing value =>
    match Text.digit? 16 c with
    | none => none
    | some d =>
      if missing ≤ 1 then (charOfCode? (value * 16 + d)).map fun e => ([e], .plain)
      else some ([], .code (missing - 1) (value * 16 + d))

/-- Reads a string in quotes on one line. -/
def readBasic (state : LineState) : List Char → Option (List Char × List Char)
  | [] => none
  | c :: rest =>
    if state = .plain ∧ c = '"' then some ([], rest)
    else
      match state.step c with
      | none => none
      | some (out, next) => (readBasic next rest).map fun (cs, tail) => (out ++ cs, tail)

/-- Reads a string in apostrophes on one line. -/
def readLiteral : List Char → Option (List Char × List Char)
  | [] => none
  | c :: rest =>
    if c = '\'' then some ([], rest)
    else if isLineChar c then (readLiteral rest).map fun (cs, tail) => (c :: cs, tail)
    else none

/-! ## Several lines -/

/-- Where the reader of a string over several lines stands. -/
inductive BlockState where
  /-- in the text, behind so many marks in a row -/
  | text (marks : Nat)
  /-- behind a carriage return, which needs its line feed now -/
  | carriage
  | escape
  | code (missing value : Nat)
  /-- behind a backslash and blanks, which need the end of the line now -/
  | lineEnd
  /-- behind such a backslash, its blanks and a carriage return -/
  | lineEndCarriage
  /-- skipping what is blank behind such a line end -/
  | skip
  | skipCarriage
  deriving DecidableEq, Repr

/-- A character of the text.  `escapes` tells whether a backslash starts an escape. -/
def textStep (escapes : Bool) (c : Char) : Option (List Char × BlockState) :=
  if escapes && c = '\\' then some ([], .escape)
  else if c = '\n' then some (['\n'], .text 0)
  else if c = '\r' then some ([], .carriage)
  else if isLineChar c then some ([c], .text 0)
  else none

/-- One character read that is no mark: the text it completes and the next state. -/
def BlockState.step (escapes : Bool) (mark c : Char) :
    BlockState → Option (List Char × BlockState)
  | .text marks =>
    (textStep escapes c).map fun (out, next) => (List.replicate marks mark ++ out, next)
  | .carriage => if c = '\n' then some (['\n'], .text 0) else none
  | .escape =>
    if c = 'u' then some ([], .code 4 0)
    else if c = 'U' then some ([], .code 8 0)
    else if isWs c then some ([], .lineEnd)
    else if c = '\n' then some ([], .skip)
    else if c = '\r' then some ([], .lineEndCarriage)
    else (simpleEscape? c).map fun d => ([d], .text 0)
  | .code missing value =>
    match Text.digit? 16 c with
    | none => none
    | some d =>
      if missing ≤ 1 then (charOfCode? (value * 16 + d)).map fun e => ([e], .text 0)
      else some ([], .code (missing - 1) (value * 16 + d))
  | .lineEnd =>
    if isWs c then some ([], .lineEnd)
    else if c = '\n' then some ([], .skip)
    else if c = '\r' then some ([], .lineEndCarriage)
    else none
  | .lineEndCarriage | .skipCarriage => if c = '\n' then some ([], .skip) else none
  | .skip =>
    if isWs c || c = '\n' then some ([], .skip)
    else if c = '\r' then some ([], .skipCarriage)
    else textStep escapes c

/-- The number of marks in a row, if the reader stands in the text. -/
def BlockState.marks? : BlockState → Option Nat
  | .text marks => some marks
  | .skip => some 0
  | _ => none

/-- Reads a string over several lines, closed by three of `mark`. -/
def readBlock (escapes : Bool) (mark : Char) (state : BlockState) :
    List Char → Option (List Char × List Char)
  | [] =>
    match state with
    | .text marks => if 3 ≤ marks then some (List.replicate (marks - 3) mark, []) else none
    | _ => none
  | c :: rest =>
    match (if c = mark then state.marks? else none) with
    | some marks =>
      if marks = 4 then some ([mark, mark], rest)
      else readBlock escapes mark (.text (marks + 1)) rest
    | none =>
      match state with
      | .text 3 => some ([], c :: rest)
      | .text 4 => some ([mark], c :: rest)
      | _ =>
        match state.step escapes mark c with
        | none => none
        | some (out, next) =>
          (readBlock escapes mark next rest).map fun (cs, tail) => (out ++ cs, tail)

/-- What follows a line end, if the text starts with one. -/
def newline? : List Char → Option (List Char)
  | '\n' :: rest => some rest
  | '\r' :: '\n' :: rest => some rest
  | _ => none

/-- What follows the line end directly behind an opening mark, which is no text. -/
def dropNewline (cs : List Char) : List Char := (newline? cs).getD cs

/-- Reads a string of any form; the text starts with its mark. -/
def readString : List Char → Option (List Char × List Char)
  | '"' :: '"' :: '"' :: rest => readBlock true '"' (.text 0) (dropNewline rest)
  | '"' :: rest => readBasic .plain rest
  | '\'' :: '\'' :: '\'' :: rest => readBlock false '\'' (.text 0) (dropNewline rest)
  | '\'' :: rest => readLiteral rest
  | _ => none

end Observability.Toml
