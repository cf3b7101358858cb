import ArbBundle.Bytes.Hex
import ArbBundle.Url.Domain

/-!
# Host — the hosts of resource locators

A host is an address in brackets, an address of four numbers, or a name.  A name whose last label
looks like a number has to be an address of four numbers.

- `Host.ofText`: the host of a scheme that names hosts
- `Host.verbatim`: the host of any other scheme, taken as it is
-/

namespace ArbBundle

inductive UrlError
  | noScheme
  | emptyHost
  | port
  | ipv4
  | ipv6
  | domain
  | domainCharacter
  deriving DecidableEq

def UrlError.message : UrlError → String
  | .noScheme => "relative URL without a base"
  | .emptyHost => "empty host"
  | .port => "invalid port number"
  | .ipv4 => "invalid IPv4 address"
  | .ipv6 => "invalid IPv6 address"
  | .domain => "invalid international domain name"
  | .domainCharacter => "invalid domain character"

inductive Host
  | domain (name : List Char)
  | ipv4 (address : Nat)
  | ipv6 (pieces : List Nat)
  deriving DecidableEq

namespace Host

open Domain (splitOn)

/-! ## Addresses of four numbers -/

/-- The number that digits of a radix write; no digit writes zero. -/
def radixNumber? (base : Nat) (digits : List Char) : Option Nat :=
  digits.foldlM (fun n c =>
    match Hex.value? c with
    | some d => if d < base then some (n * base + d) else none
    | none => none) 0

/-- The number of one part: hexadecimal behind `0x`, octal behind `0`, else decimal. -/
def partNumber? : List Char → Option Nat
  | [] => none
  | '0' :: 'x' :: rest => radixNumber? 16 rest
  | '0' :: 'X' :: rest => radixNumber? 16 rest
  | '0' :: c :: rest => radixNumber? 8 (c :: rest)
  | digits => radixNumber? 10 digits

def dropEmptyLast (parts : List (List Char)) : List (List Char) :=
  match parts.reverse with
  | [] :: front => front.reverse
  | _ => parts

def endsInNumber (parts : List (List Char)) : Bool :=
  match (dropEmptyLast parts).getLast? with
  | none => false
  | some last =>
    (!last.isEmpty && last.all Char.isDigit) || (partNumber? last).isSome

/-- The address of at most four numbers; the last one fills the places of those that are missing. -/
def ipv4? (parts : List (List Char)) : Option Nat := do
  let numbers ← (dropEmptyLast parts).mapM partNumber?
  match numbers.reverse with
  | [] => none
  | last :: front =>
    if 3 < front.length ∨ Nat.pow 256 (4 - front.length) ≤ last ∨ front.any (255 < ·) then none
    else some (front.reverse.foldr (fun n a => a / 256 + n * Nat.pow 2 24) 0 + last)

/-! ## Addresses in brackets -/

/-- A decimal number below 256 without a leading zero. -/
def octet? (s : List Char) : Option Nat :=
  match s with
  | [] => none
  | ['0'] => some 0
  | '0' :: _ => none
  | digits =>
    if digits.all Char.isDigit then
      match radixNumber? 10 digits with
      | some n => if n < 256 then some n else none
      | none => none
    else none

def dottedPieces? (s : List Char) : Option (List Nat) :=
  match (splitOn '.' s).mapM octet? with
  | some [a, b, c, d] => some [a * 256 + b, c * 256 + d]
  | _ => none

/-- The text in front of the first double colon, and the text behind it if there is one. -/
def splitGap : List Char → List Char × Option (List Char)
  | [] => ([], none)
  | ':' :: ':' :: rest => ([], some rest)
  | c :: rest =>
    let (front, behind) := splitGap rest
    (c :: front, behind)

/-- The texts between single colons; an empty text has none. -/
def groups (s : List Char) : List (List Char) :=
  if s.isEmpty then [] else splitOn ':' s

def piece? (s : List Char) : Option Nat :=
  if s.isEmpty ∨ 4 < s.length then none else radixNumber? 16 s

/-- The pieces of groups; the last group may be four decimal numbers where that is allowed. -/
def pieces? (dotted : Bool) : List (List Char) → Option (List Nat)
  | [] => some []
  | [g] => if dotted && g.contains '.' then dottedPieces? g else (piece? g).map ([·])
  | g :: rest => do
    let p ← piece? g
    let ps ← pieces? dotted rest
    return p :: ps

/-- The eight pieces of an address in brackets; a double colon stands for at least one piece. -/
def ipv6? (s : List Char) : Option (List Nat) := do
  match splitGap s with
  | (front, none) =>
    let ps ← pieces? true (groups front)
    if ps.length = 8 then some ps else none
  | (front, some behind) =>
    let before ← pieces? false (groups front)
    let after ← pieces? true (groups behind)
    if before.length + after.length < 8 then
      some (before ++ List.replicate (8 - before.length - after.length) 0 ++ after)
    else none

def bracketed? (s : List Char) : Option (List Nat) :=
  match s.reverse with
  | ']' :: inside => ipv6? inside.reverse
  | _ => none

/-! ## Hosts -/

/-- A text with each percent sign and its two hexadecimal digits replaced by a byte. -/
def percentDecoded : List Char → Bytes
  | [] => []
  | '%' :: a :: b :: rest =>
    match Hex.value? a, Hex.value? b with
    | some h, some l => UInt8.ofNat (h * 16 + l) :: percentDecoded rest
    | _, _ => 0x25 :: percentDecoded (a :: b :: rest)
  | c :: rest => String.utf8EncodeChar c ++ percentDecoded rest

def ofText (s : List Char) : Except UrlError Host :=
  match s with
  | '[' :: inside =>
    match bracketed? inside with
    | some pieces => .ok (.ipv6 pieces)
    | none => .error .ipv6
  | s =>
    match Domain.normal? (percentDecoded s) with
    | none => .error .domain
    | some [] => .error .emptyHost
    | some name =>
      let parts := splitOn '.' name
      if endsInNumber parts then
        match ipv4? parts with
        | some address => .ok (.ipv4 address)
        | none => .error .ipv4
      else .ok (.domain name)

/-- Characters that no host may hold, whatever the scheme. -/
def forbidden (c : Char) : Bool :=
  "\x00\t\n\r #/:<>?@[\\]^|".toList.contains c

/-- The host of a scheme that does not name hosts, taken as it is. -/
def verbatim (s : List Char) : Except UrlError Host :=
  match s with
  | '[' :: inside =>
    match bracketed? inside with
    | some pieces => .ok (.ipv6 pieces)
    | none => .error .ipv6
  | s => if s.any forbidden then .error .domainCharacter else .ok (.domain s)

end Host
end ArbBundle
