import ArbBundle.Url.Host

/-!
# Parser — resource locators without a base

A locator is a scheme, a host, and a port; what follows them is not looked at.  Controls and spaces
at the two ends are dropped, and tabs and line ends anywhere.  For the schemes that name hosts a
backslash counts as a slash, and any number of slashes may follow the scheme.
-/

namespace ArbBundle

/-- A resource locator, up to its path. -/
structure Url where
  scheme : String
  host : Option Host
  port : Option Nat
  deriving DecidableEq

namespace Url

/-! ## Scheme -/

def isSchemeChar (c : Char) : Bool :=
  c.isAlphanum || c == '+' || c == '-' || c == '.'

/-- The scheme in lower case, and what follows its colon. -/
def splitScheme? (s : List Char) : Option (List Char × List Char) :=
  match s with
  | [] => none
  | first :: _ =>
    match s.span isSchemeChar with
    | (scheme, ':' :: rest) =>
      if first.isAlpha then some (scheme.map Char.toLower, rest) else none
    | _ => none

/-- Schemes that name hosts, other than files. -/
def namesHosts (scheme : List Char) : Bool :=
  ["http", "https", "ws", "wss", "ftp"].any fun s => s.toList = scheme

/-! ## Authority -/

def endsAuthority (special : Bool) (c : Char) : Bool :=
  c == '/' || c == '?' || c == '#' || (special && c == '\\')

/-- The text in front of the last at sign, and the text behind it. -/
def splitUser? (authority : List Char) : Option (List Char × List Char) :=
  match authority.reverse.span (· != '@') with
  | (_, []) => none
  | (behind, _ :: before) => some (before.reverse, behind.reverse)

/-- The text of a host, which ends at a colon outside of brackets, and the rest. -/
def splitHost (inside : Bool) : List Char → List Char × List Char
  | [] => ([], [])
  | c :: rest =>
    if c = ':' ∧ !inside then ([], c :: rest)
    else
      let (host, rest) := splitHost (c = '[' || (inside && c != ']')) rest
      (c :: host, rest)

/-- The number of a port; none where there is no digit. -/
def portNumber (digits : List Char) : Except UrlError (Option Nat) :=
  match digits with
  | [] => .ok none
  | digits =>
    if digits.all Char.isDigit then
      match Host.radixNumber? 10 digits with
      | some n => if n < UInt16.size then .ok (some n) else .error .port
      | none => .error .port
    else .error .port

def hostAndPort (special : Bool) (s : List Char) : Except UrlError (Option Host × Option Nat) := do
  let (text, rest) := splitHost false s
  if special && text.isEmpty then throw .emptyHost
  let host ← if special then Host.ofText text else Host.verbatim text
  match rest with
  | ':' :: digits =>
    if host = .domain [] then throw .emptyHost
    return (some host, ← portNumber (digits.takeWhile (· != '\\')))
  | _ => return (if host = .domain [] then none else some host, none)

def authority (special : Bool) (s : List Char) : Except UrlError (Option Host × Option Nat) := do
  let (text, path) := s.span fun c => !endsAuthority special c
  match splitUser? text with
  | none => hostAndPort special text
  | some (user, text) =>
    if user.isEmpty && text.isEmpty && !path.isEmpty then throw .emptyHost
    let found ← hostAndPort special text
    if found.1.isNone && !(user.isEmpty || user == [':']) then throw .emptyHost
    return found

/-! ## Locators -/

def isDrive : List Char → Bool
  | [c, mark] => c.isAlpha && (mark == ':' || mark == '|')
  | _ => false

/-- The host behind the two slashes of a file; the machine itself counts as none. -/
def fileHost (s : List Char) : Except UrlError (Option Host) := do
  let text := s.takeWhile fun c => !endsAuthority true c
  if text.isEmpty || isDrive text then return none
  match ← Host.ofText text with
  | .domain name => return (if name = "localhost".toList then none else some (.domain name))
  | host => return some host

/-- A text without the controls and spaces at its two ends. -/
def trimControls (s : List Char) : List Char :=
  ((s.dropWhile (· ≤ ' ')).reverse.dropWhile (· ≤ ' ')).reverse

def parse (s : String) : Except UrlError Url := do
  let text := (trimControls s.toList).filter fun c => !(c == '\t' || c == '\n' || c == '\r')
  match splitScheme? text with
  | none => throw .noScheme
  | some (scheme, rest) =>
    let name := String.ofList scheme
    let isSlash (c : Char) : Bool := c == '/' || c == '\\'
    if name = "file" then
      match rest with
      | a :: b :: rest =>
        if isSlash a && isSlash b then return ⟨name, ← fileHost rest, none⟩
        return ⟨name, none, none⟩
      | _ => return ⟨name, none, none⟩
    else if namesHosts scheme then
      let (host, port) ← authority true (rest.dropWhile isSlash)
      return ⟨name, host, port⟩
    else
      match rest with
      | '/' :: '/' :: rest =>
        let (host, port) ← authority false rest
        return ⟨name, host, port⟩
      | _ => return ⟨name, none, none⟩

end Url
end ArbBundle
