/-!
# Writers

Where the bytes of a JSON sink go: a named buffer or a stream of the process.  A writer takes a text in
one or more calls, each of which may take all of it, a part, or fail; `Behaviour` fixes how it does.
`Writer.put` is one line's worth: the text goes in call after call until all of it is taken or a call
fails for good, and every finished line is given out.

A writer that crashes in a call is not written to again.
-/

namespace Observability

/-- Where the lines of a writer arrive. -/
inductive Destination where
  | buffer (name : String)
  | stdout
  | stderr
  deriving DecidableEq, Repr

/-- How a writer answers the calls made on it. -/
inductive WriterBehaviour where
  /-- takes everything -/
  | accepting
  /-- takes at most so many characters a call -/
  | chunked (size : Nat)
  /-- fails in every call -/
  | failing
  /-- fails in its first call -/
  | failingOnce
  /-- asks to be called again in every odd call -/
  | interrupting
  /-- crashes in its first call -/
  | crashingOnce
  deriving DecidableEq, Repr

/-- The answer to one call. -/
inductive WriteAnswer where
  | took (count : Nat)
  | interrupted
  | failed
  | crashed
  deriving DecidableEq, Repr

/-- A writer: how often it was called, the characters of the unfinished line, and whether it crashed. -/
structure Writer where
  destination : Destination
  behaviour : WriterBehaviour
  calls : Nat := 0
  unfinished : List Char := []
  crashed : Bool := false
  deriving DecidableEq, Repr

namespace Writer

/-- The answer to call number `call` (counted from one) with `count` characters. -/
def answer (behaviour : WriterBehaviour) (call count : Nat) : WriteAnswer :=
  match behaviour with
  | .accepting => .took count
  | .chunked size => if size = 0 then .failed else .took (min size count)
  | .failing => .failed
  | .failingOnce => if call = 1 then .failed else .took count
  | .interrupting => if call % 2 = 1 then .interrupted else .took count
  | .crashingOnce => if call = 1 then .crashed else .took count

/-- The finished lines of a text behind an unfinished one, and the unfinished line at its end. -/
def cutLines (unfinished : List Char) : List Char → List String × List Char
  | [] => ([], unfinished)
  | c :: rest =>
    if c = '\n' then
      let (lines, tail) := cutLines [] rest
      (String.ofList unfinished :: lines, tail)
    else cutLines (unfinished ++ [c]) rest

/-- Calls the writer until it took all of `text` or a call failed for good.  Gives the lines finished. -/
def push : Nat → Writer → List Char → Writer × List String
  | 0, writer, _ => (writer, [])
  | fuel + 1, writer, text =>
    if text.isEmpty then (writer, [])
    else
      let called := { writer with calls := writer.calls + 1 }
      match answer writer.behaviour called.calls text.length with
      | .took count =>
        let (lines, rest) := cutLines writer.unfinished (text.take count)
        let (after, more) := push fuel { called with unfinished := rest } (text.drop count)
        (after, lines ++ more)
      | .interrupted => push fuel called text
      | .failed => (called, [])
      | .crashed => ({ called with crashed := true }, [])

/-- Writes a text.  Every second call makes progress, so twice its length is enough fuel.  After a crash
nothing is written. -/
def put (writer : Writer) (text : List Char) : Writer × List String :=
  if writer.crashed then (writer, []) else push (2 * text.length + 2) writer text

end Writer

end Observability
