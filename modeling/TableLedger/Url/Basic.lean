/-
  TableLedger.Url.Basic — connection URLs.

  A URL is read by the common standard for all schemes: a few special
  schemes always have a host, files have a path below their root, and any
  other scheme, PostgreSQL's among them, keeps its host as it is written
  and need not have one.  Reading settles one spelling for every URL, and
  `render` writes it.
-/

import TableLedger.Url.Host
import TableLedger.Url.Path

namespace TableLedger

/-! ## §1. URLs -/

/-- Who connects, and to where. -/
structure Authority where
  username : Text
  /-- Password; an empty one counts as none. -/
  password : Option Text
  host : Text
  port : Option Nat
  deriving DecidableEq, Repr

/-- A URL, its parts encoded. -/
structure Url where
  scheme : Text
  authority : Option Authority
  path : Text
  query : Option Text
  fragment : Option Text
  deriving DecidableEq, Repr

namespace Url

/-! ## §2. Schemes -/

/-- How the rest of a URL is read. -/
inductive SchemeKind where
  | file
  | special (port : Nat)
  | general
  deriving DecidableEq, Repr

/-- The kind of a scheme, with the port that need not be written. -/
def schemeKind (scheme : Text) : SchemeKind :=
  if scheme = "file".toList then .file
  else if ["http".toList, "ws".toList].contains scheme then .special 80
  else if ["https".toList, "wss".toList].contains scheme then .special 443
  else if scheme = "ftp".toList then .special 21
  else .general

/-- The scheme in lower case, with what follows its colon. -/
def scheme? (t : Text) : Option (Text × Text) :=
  let name := t.takeWhile fun c => c.isAlphanum || "+-.".toList.contains c
  match name, t.drop name.length with
  | first :: _, ':' :: rest => if first.isAlpha then some (Text.asciiLowercase name, rest) else none
  | _, _ => none

/-! ## §3. Authorities -/

/-- What stands before the last `@`, if there is one, and what stands behind it. -/
def cutCredentials (t : Text) : Option Text × Text :=
  let host := (t.reverse.takeWhile (· != '@')).reverse
  if t.contains '@' then (some (t.take (t.length - host.length - 1)), host) else (none, t)

/-- The host, and the port with its colon; inside brackets a colon is of the host. -/
def cutHost (inside : Bool) : Text → Text × Text
  | [] => ([], [])
  | c :: rest =>
    if c = ':' ∧ !inside then ([], c :: rest)
    else
      let parts := cutHost (c == '[' || (inside && c != ']')) rest
      (c :: parts.1, parts.2)

/-- A port behind its colon, with what follows it; only a backslash may. -/
def parsePort (t : Text) : Except UrlFault (Option Nat × Text) :=
  let digits := t.takeWhile Char.isDigit
  let rest := t.drop digits.length
  let number := Text.toNat? digits
  if number.any (· > 65535) || rest.head?.any (· != '\\') then .error .invalidPort
  else .ok (number, rest)

/-- The host of a URL whose host part is not empty. -/
def parseHost (kind : SchemeKind) (t : Text) : Except UrlFault Text :=
  match kind with
  | .general => generalHost t
  | .special _ | .file => specialHost t

/-- The port, unless it is the one that the scheme implies. -/
def writtenPort (kind : SchemeKind) (number : Option Nat) : Option Nat :=
  match kind with
  | .special implied => if number = some implied then none else number
  | .general | .file => number

/-- Read an authority; what is left over belongs to the path.  `followed` says
    whether anything stands behind it.  A host may be empty only if there are
    neither credentials nor a port, and an `@` by itself ends the URL. -/
def parseAuthority (kind : SchemeKind) (followed : Bool) (t : Text) :
    Except UrlFault (Authority × Text) := do
  let credentials := cutCredentials t
  let written := credentials.1.getD []
  let username := encode encodedInCredentials (Text.upTo ':' written)
  let password :=
    ((Text.after? ':' written).filter (!·.isEmpty)).map (encode encodedInCredentials)
  let parts := cutHost false credentials.2
  if parts.1.isEmpty then
    let bare := username.isEmpty && password.isNone && parts.2.isEmpty
    let dangling := credentials.1 == some [] && followed
    if kind = .general ∧ bare ∧ !dangling then return (⟨[], none, [], none⟩, [])
    else throw .emptyHost
  else
    let name ← parseHost kind parts.1
    let number ← parsePort (parts.2.drop 1)
    return (⟨username, password, name, writtenPort kind number.1⟩, number.2)

/-! ## §4. Reading -/

/-- The part of a text before its first slash, with the rest. -/
def beforeSlash (isSeparator : Char → Bool) (t : Text) : Text × Text :=
  let head := t.takeWhile fun c => !isSeparator c
  (head, t.drop head.length)

/-- Authority and path of a URL under a special scheme; slashes in front do not count. -/
def specialBody (kind : SchemeKind) (followed : Bool) (t : Text) :
    Except UrlFault (Option Authority × Text) := do
  let cut := beforeSlash isAnySlash (t.dropWhile isAnySlash)
  let found ← parseAuthority kind (followed || !cut.2.isEmpty) cut.1
  return (some found.1, specialPath (found.2 ++ cut.2))

/-- Authority and path of a URL of files, which has neither credentials nor a port. -/
def filesOn (host : Text) (ss : List Text) : Option Authority × Text :=
  (some ⟨[], none, host, none⟩, filePath ss)

/-- Files on a host that is named.  The local host is left out, and so is any host
    in front of a drive letter. -/
def filesOnHost (host path : Text) : Option Authority × Text :=
  if host = "localhost".toList then filesOn [] (localSegments path)
  else
    let ss := fileSegments path
    filesOn (if ss.head?.any isDrive then [] else host) ss

/-- Authority and path of a URL of files.  Two slashes open a host, unless a drive
    letter follows. -/
def fileBody (t : Text) : Except UrlFault (Option Authority × Text) :=
  match t with
  | a :: b :: rest =>
    let cut := beforeSlash isAnySlash rest
    if !(isAnySlash a && isAnySlash b) then .ok (filesOn [] (fileSegments t))
    else if isDrive cut.1 then .ok (filesOn [] (fileSegments rest))
    else if cut.1.isEmpty then .ok (filesOn [] (localSegments cut.2))
    else (parseHost .file cut.1).map fun host => filesOnHost host cut.2
  | t => .ok (filesOn [] (fileSegments t))

/-- Authority and path of any other URL.  Without a slash in front the rest is
    not a path, and is kept as it is. -/
def generalBody (followed : Bool) (t : Text) : Except UrlFault (Option Authority × Text) := do
  match t with
  | '/' :: '/' :: rest =>
    let cut := beforeSlash isSlash rest
    let found ← parseAuthority .general (followed || !cut.2.isEmpty) cut.1
    return (some found.1, generalPath (found.2 ++ cut.2))
  | '/' :: rest => return (none, generalPath ('/' :: rest))
  | t => return (none, encode isForeign t)

/-- Authority and path of a URL. -/
def body (kind : SchemeKind) (followed : Bool) (t : Text) :
    Except UrlFault (Option Authority × Text) :=
  match kind with
  | .file => fileBody t
  | .special _ => specialBody kind followed t
  | .general => generalBody followed t

/-- What a query must encode under a scheme of the given kind. -/
def encodedInQueryOf (kind : SchemeKind) (c : Char) : Bool :=
  encodedInQuery c || (kind != .general && c == '\'')

/-- A text as it is read: without controls and spaces at its ends, and without
    tabs and line breaks. -/
def cleaned (raw : Text) : Text :=
  let isMargin (c : Char) : Bool := c.toNat ≤ 0x20
  let trimmed := ((raw.dropWhile isMargin).reverse.dropWhile isMargin).reverse
  trimmed.filter fun c => !"\t\n\r".toList.contains c

/-- Read a URL. -/
def parse (raw : Text) : Except UrlFault Url := do
  match scheme? (cleaned raw) with
  | none => throw .relativeWithoutBase
  | some (scheme, rest) =>
    let kind := schemeKind scheme
    let fragment := Text.after? '#' rest
    let query := Text.after? '?' (Text.upTo '#' rest)
    let followed := query.isSome || fragment.isSome
    let found ← body kind followed (Text.upTo '?' (Text.upTo '#' rest))
    return ⟨scheme, found.1, found.2, query.map (encode (encodedInQueryOf kind)),
      fragment.map (encode encodedInFragment)⟩

/-! ## §5. Writing -/

/-- An authority with its slashes. -/
def renderAuthority (a : Authority) : Text :=
  let password := match a.password with
    | some p => ':' :: p
    | none => []
  let credentials :=
    if a.username.isEmpty && a.password.isNone then [] else a.username ++ password ++ ['@']
  let number := match a.port with
    | some n => ':' :: Text.ofNat n
    | none => []
  "//".toList ++ credentials ++ a.host ++ number

/-- A URL as it is written.  A path that begins with two slashes is kept apart
    from an authority by a dot. -/
def render (u : Url) : Text :=
  let authority := match u.authority with
    | some a => renderAuthority a
    | none => if "//".toList.isPrefixOf u.path then "/.".toList else []
  let query := match u.query with
    | some q => '?' :: q
    | none => []
  let fragment := match u.fragment with
    | some f => '#' :: f
    | none => []
  u.scheme ++ ':' :: authority ++ u.path ++ query ++ fragment

/-! ## §6. Connections -/

/-- The user that a URL connects as. -/
def user? (raw : Text) : Option Text :=
  match parse raw with
  | .ok u => u.authority.bind fun a => if a.username.isEmpty then none else some a.username
  | .error _ => none

/-- A URL with its password hidden, for messages. -/
def masked (raw : Text) : Text :=
  match parse raw with
  | .ok u =>
    let hide (a : Authority) : Authority :=
      { a with password := a.password.map fun _ => "***".toList }
    { u with authority := u.authority.map hide }.render
  | .error _ => "[invalid-url]".toList

/-- Whether a URL leads to a PostgreSQL database, or why it does not. -/
def validate (raw : Text) : Except ValidationFault Unit :=
  match parse raw with
  | .ok u =>
    if ["postgresql".toList, "postgres".toList].contains u.scheme then .ok ()
    else .error .wrongScheme
  | .error fault => .error (.invalidUrl fault)

end Url

end TableLedger
