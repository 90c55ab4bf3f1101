import ProxyConfig.Host.Basic

/-!
# Addresses of resources

Reading a complete address: its scheme, host and port.  The rest of an address (path, query and
fragment) can hold any text, so it never makes an address unreadable.

Reading is lenient.  Control characters and spaces around the address do not count, nor do tabs and
line breaks inside, and a backslash passes for a slash in the schemes that are known here.
-/

namespace ProxyConfig

/-- An address. -/
structure Url where
  scheme : String
  host : Option Host
  port : Option Nat
deriving Repr, DecidableEq

/-- Why a text is not an address. -/
inductive UrlError where
  /-- There is no scheme, so the address could only be relative to another one. -/
  | relative
  | emptyHost
  | invalidHost
  | invalidPort
deriving Repr, DecidableEq, Inhabited

namespace Url

/-- The kinds of schemes. -/
inductive SchemeKind where
  /-- The scheme of local files, which may go without a host. -/
  | file
  /-- A scheme that has to have a host. -/
  | network
  | unknown
deriving Repr, DecidableEq

/-- The kind of a scheme. -/
def SchemeKind.of (scheme : String) : SchemeKind :=
  if scheme = "file" then .file
  else if scheme ∈ ["http", "https", "ws", "wss", "ftp"] then .network
  else .unknown

/-- A character that does not count around an address. -/
def isMargin (c : Char) : Bool :=
  c.toNat ≤ 0x20

/-- A character that does not count inside an address. -/
def isIgnored (c : Char) : Bool :=
  c = '\t' || c = '\n' || c = '\r'

/-- The characters of an address that count. -/
def significant (s : List Char) : List Char :=
  let inner := ((s.dropWhile isMargin).reverse.dropWhile isMargin).reverse
  inner.filter fun c => !isIgnored c

/-- A character of a scheme. -/
def isSchemeChar (c : Char) : Bool :=
  c.isAlphanum || c = '+' || c = '-' || c = '.'

/-- The scheme of an address in lower case, and what follows the colon. -/
def scheme? (s : List Char) : Option (String × List Char) :=
  match Text.cutAt ':' s with
  | some (c :: name, rest) =>
    if c.isAlpha ∧ name.all isSchemeChar then
      some (String.ofList ((c :: name).map Char.toLower), rest)
    else
      none
  | _ => none

/-- A slash, or what passes for one. -/
def isSlash (isKnown : Bool) (c : Char) : Bool :=
  c = '/' || (isKnown && c = '\\')

/-- A character that ends the part of an address which names the host. -/
def endsAuthority (isKnown : Bool) (c : Char) : Bool :=
  isSlash isKnown c || c = '?' || c = '#'

/-- What precedes the last at sign of a text and what follows it. -/
def credentials? (s : List Char) : Option (List Char × List Char) :=
  (Text.cutAt '@' s.reverse).map fun p => (p.2.reverse, p.1.reverse)

/-- The part of an authority that names the host, where colons between brackets do not count, and
the rest with the port. -/
def splitHost (inBrackets : Bool) : List Char → List Char × List Char
  | [] => ([], [])
  | c :: rest =>
    if c = ':' ∧ !inBrackets then ([], c :: rest)
    else
      let inside := if c = '[' then true else if c = ']' then false else inBrackets
      let (host, tail) := splitHost inside rest
      (c :: host, tail)

/-- The number of a port. A backslash ends it in every scheme. -/
def port? (s : List Char) : Except UrlError (Option Nat) :=
  match s.takeWhile (· ≠ '\\') with
  | [] => .ok none
  | digits =>
    match Text.digits? digits with
    | some n => if n ≤ Text.maxU16 then .ok (some n) else .error .invalidPort
    | none => .error .invalidPort

/-- The host and the port of an authority. -/
def hostAndPort (kind : SchemeKind) (s : List Char) :
    Except UrlError (Option Host × Option Nat) := do
  let (name, rest) := splitHost false s
  if name.isEmpty then
    if kind = .unknown ∧ rest.isEmpty then return (none, none) else .error .emptyHost
  else
    let host? := if kind = .unknown then Host.parseFree? name else Host.parse? name
    match host? with
    | none => .error .invalidHost
    | some host =>
      match rest with
      | _ :: digits => return (some host, ← port? digits)
      | [] => return (some host, none)

/-- The host and the port after two slashes.  An authority that names a user has to name a host as
well. -/
def authority (kind : SchemeKind) (s : List Char) : Except UrlError (Option Host × Option Nat) := do
  let isKnown := kind ≠ .unknown
  let whole := s.takeWhile fun c => !endsAuthority isKnown c
  match credentials? whole with
  | none => hostAndPort kind whole
  | some (user, rest) =>
    if user.isEmpty ∧ rest.isEmpty ∧ whole.length < s.length then .error .emptyHost
    else
      match ← hostAndPort kind rest with
      | (none, port) =>
        if user.isEmpty ∨ user = [':'] then return (none, port) else .error .emptyHost
      | found => return found

/-- A letter with a colon or a bar, which is a drive and not a host. -/
def isDrive : List Char → Bool
  | [c, mark] => c.isAlpha && (mark = ':' || mark = '|')
  | _ => false

/-- The host of a local file, which is named only after two slashes. -/
def fileHost (s : List Char) : Except UrlError (Option Host) :=
  match s with
  | a :: b :: rest =>
    if isSlash true a ∧ isSlash true b then
      let name := rest.takeWhile fun c => !endsAuthority true c
      if name.isEmpty ∨ isDrive name then .ok none
      else
        match Host.parse? name with
        | none => .error .invalidHost
        | some host =>
          .ok (if host = .domain ["localhost".toList] then none else some host)
    else
      .ok none
  | _ => .ok none

/-- Read an address. -/
def parse (text : String) : Except UrlError Url := do
  match scheme? (significant text.toList) with
  | none => .error .relative
  | some (scheme, rest) =>
    match SchemeKind.of scheme with
    | .file => return ⟨scheme, ← fileHost rest, none⟩
    | .network =>
      let (host, port) ← authority .network (rest.dropWhile (isSlash true))
      return ⟨scheme, host, port⟩
    | .unknown =>
      match rest with
      | '/' :: '/' :: rest =>
        let (host, port) ← authority .unknown rest
        return ⟨scheme, host, port⟩
      | _ => return ⟨scheme, none, none⟩

/-- The text is an address. -/
def isValid (text : String) : Bool :=
  match parse text with
  | .ok _ => true
  | .error _ => false

end Url
end ProxyConfig
