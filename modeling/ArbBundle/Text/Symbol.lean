/-!
# Symbol — texts that may hold damaged bytes

- `Symbol`: one character of a text, or a run of bytes that encodes none
- `symbols`: the symbols of a byte string under UTF-8; a damaged run ends where the next byte can
  no longer continue the character that it began
- `utf8`: the bytes of a text
- `strict?`: the text of a byte string without damage
- `lossy`: the text in which each damaged run is one replacement character `U+FFFD`
-/

namespace ArbBundle

abbrev Bytes := List UInt8

namespace Text

inductive Symbol
  | char (c : Char)
  | damage (run : Bytes)
  deriving DecidableEq

def utf8 (s : List Char) : Bytes :=
  s.flatMap String.utf8EncodeChar

/-! ## Reading UTF-8 -/

def isContinuation (b : UInt8) : Bool :=
  0x80 ≤ b && b ≤ 0xbf

/-- How many bytes follow a leading byte, and the range of the first of them; `none` for a byte
that begins no character of two or more bytes. -/
def continuation? (lead : UInt8) : Option (Nat × UInt8 × UInt8) :=
  if 0xc2 ≤ lead && lead ≤ 0xdf then some (1, 0x80, 0xbf)
  else if lead == 0xe0 then some (2, 0xa0, 0xbf)
  else if lead == 0xed then some (2, 0x80, 0x9f)
  else if 0xe1 ≤ lead && lead ≤ 0xef then some (2, 0x80, 0xbf)
  else if lead == 0xf0 then some (3, 0x90, 0xbf)
  else if 0xf1 ≤ lead && lead ≤ 0xf3 then some (3, 0x80, 0xbf)
  else if lead == 0xf4 then some (3, 0x80, 0x8f)
  else none

/-- The character whose leading byte carries the bits `high` and whose other bytes carry six bits
each. -/
def assemble (high : Nat) (rest : Bytes) : Char :=
  Char.ofNat (rest.foldl (fun n b => n * 64 + b.toNat % 64) high)

def symbols : Bytes → List Symbol
  | [] => []
  | b₀ :: rest =>
    if b₀ < 0x80 then .char (Char.ofNat b₀.toNat) :: symbols rest
    else
      match continuation? b₀ with
      | none => .damage [b₀] :: symbols rest
      | some (more, low, high) =>
        match rest with
        | [] => [.damage [b₀]]
        | b₁ :: rest₁ =>
          if !(low ≤ b₁ && b₁ ≤ high) then .damage [b₀] :: symbols (b₁ :: rest₁)
          else if more == 1 then .char (assemble (b₀.toNat % 32) [b₁]) :: symbols rest₁
          else
            match rest₁ with
            | [] => [.damage [b₀, b₁]]
            | b₂ :: rest₂ =>
              if !isContinuation b₂ then .damage [b₀, b₁] :: symbols (b₂ :: rest₂)
              else if more == 2 then .char (assemble (b₀.toNat % 16) [b₁, b₂]) :: symbols rest₂
              else
                match rest₂ with
                | [] => [.damage [b₀, b₁, b₂]]
                | b₃ :: rest₃ =>
                  if !isContinuation b₃ then .damage [b₀, b₁, b₂] :: symbols (b₃ :: rest₃)
                  else .char (assemble (b₀.toNat % 8) [b₁, b₂, b₃]) :: symbols rest₃

def Symbol.char? : Symbol → Option Char
  | .char c => some c
  | .damage _ => none

/-- The text of a byte string without damage. -/
def strict? (b : Bytes) : Option (List Char) :=
  (symbols b).mapM Symbol.char?

/-- The text of a byte string, each damaged run shown as one replacement character. -/
def lossy (b : Bytes) : List Char :=
  (symbols b).map fun s => s.char?.getD '\ufffd'

end Text
end ArbBundle
