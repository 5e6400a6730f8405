/-!
# Request addresses

Where a request goes.  An address is a path on a host known elsewhere (`/orders?open=1`), a host alone
(`backend:8080`), or both behind a scheme (`http://backend/orders`).  `text` writes it in its usual form:
the schemes `http` and `https` in lower case, a path always there behind a scheme, and the fragment gone,
which is no part of a request.
-/

namespace Observability

/-- A path with the query behind it, without the question mark between them. -/
structure RequestPath where
  path : List Char
  query : Option (List Char)
  deriving DecidableEq, Repr

namespace RequestPath

/-- The path up to the first question mark and the query behind it.  A fragment is left out, and a text
that has no path means the root. -/
def ofChars (cs : List Char) : RequestPath :=
  let kept := cs.takeWhile (· ≠ '#')
  let path := kept.takeWhile (· ≠ '?')
  { path := if path.isEmpty then ['/'] else path
    query := (kept.dropWhile (· ≠ '?')).tail? }

/-- The written form: the query, even an empty one, stands behind a question mark. -/
def chars (target : RequestPath) : List Char :=
  match target.query with
  | some query => target.path ++ '?' :: query
  | none => target.path

end RequestPath

/-- The address of a request. -/
inductive Uri where
  | path (target : RequestPath)
  | host (authority : List Char)
  | absolute (scheme authority : List Char) (target : RequestPath)
  deriving DecidableEq, Repr

namespace Uri

/-- Whether a scheme may hold the character. -/
def isSchemeChar (c : Char) : Bool := c.isAlphanum || c = '+' || c = '-' || c = '.' || c = '~'

/-- Whether the character stands behind the host and its port. -/
def endsAuthority (c : Char) : Bool := c = '/' || c = '?' || c = '#'

/-- The schemes of the web are written in lower case, any other as it was given. -/
def normalScheme (scheme : List Char) : List Char :=
  let lower := scheme.map Char.toLower
  if lower = "http".toList || lower = "https".toList then lower else scheme

/-- The scheme at the front, and what follows it and its slashes. -/
def scheme? (cs : List Char) : Option (List Char × List Char) :=
  match cs.dropWhile isSchemeChar with
  | ':' :: '/' :: '/' :: rest => some (normalScheme (cs.takeWhile isSchemeChar), rest)
  | _ => none

/-- The address that the characters give.  Behind a scheme there has to be a host; without one, a text
that does not start with a slash is a host and nothing else. -/
def ofChars? (cs : List Char) : Option Uri :=
  if cs = ['*'] then some (.path ⟨['*'], none⟩)
  else if cs.head? = some '/' then some (.path (RequestPath.ofChars cs))
  else
    match scheme? cs with
    | some (scheme, rest) =>
      let authority := rest.takeWhile (!endsAuthority ·)
      if authority.isEmpty then none
      else some (.absolute scheme authority
        (RequestPath.ofChars (rest.dropWhile (!endsAuthority ·))))
    | none => if cs.isEmpty || cs.any endsAuthority then none else some (.host cs)

/-- The address that the text gives. -/
def ofText? (text : String) : Option Uri := ofChars? text.toList

/-- The characters of the written form. -/
def chars : Uri → List Char
  | .path target => target.chars
  | .host authority => authority
  | .absolute scheme authority target => scheme ++ "://".toList ++ authority ++ target.chars

/-- The written form. -/
def text (uri : Uri) : String := String.ofList uri.chars

end Uri

end Observability
