/-!
# Texts from bytes

UTF-8 without refusal: bytes that belong to no character become replacement characters, one for each
longest run that could have begun a character. A byte that breaks off a character is itself read from
the start.
-/

namespace WiringQuote.Text

/-- Stands for bytes that are no text. -/
def replacement : Char := '\ufffd'

/-- A character that has begun: the bits so far, the number of bytes that are missing, and the range
in which the next of them must lie. -/
structure Begun where
  bits : Nat
  missing : Nat
  low : Nat
  high : Nat
deriving DecidableEq, Repr

/-- What a byte at the start of a character is. -/
inductive FirstByte where
  | whole (c : Char)
  | begun (b : Begun)
  | invalid

/-- Reads the first byte of a character. -/
def firstByte (b : Nat) : FirstByte :=
  if b < 0x80 then .whole (Char.ofNat b)
  else if b < 0xC2 then .invalid
  else if b < 0xE0 then .begun ⟨b - 0xC0, 1, 0x80, 0xBF⟩
  else if b = 0xE0 then .begun ⟨0, 2, 0xA0, 0xBF⟩
  else if b = 0xED then .begun ⟨0xD, 2, 0x80, 0x9F⟩
  else if b < 0xF0 then .begun ⟨b - 0xE0, 2, 0x80, 0xBF⟩
  else if b = 0xF0 then .begun ⟨0, 3, 0x90, 0xBF⟩
  else if b < 0xF4 then .begun ⟨b - 0xF0, 3, 0x80, 0xBF⟩
  else if b = 0xF4 then .begun ⟨4, 3, 0x80, 0x8F⟩
  else .invalid

/-- The characters that a byte completes on its own, and the one that it begins. -/
def startByte (b : Nat) : List Char × Option Begun :=
  match firstByte b with
  | .whole c => ([c], none)
  | .begun started => ([], some started)
  | .invalid => ([replacement], none)

/-- The characters of bytes behind those of a character that may have begun. -/
def decodeBytes : Option Begun → List UInt8 → List Char
  | none, [] => []
  | some _, [] => [replacement]
  | none, b :: rest =>
    let (done, started) := startByte b.toNat
    done ++ decodeBytes started rest
  | some begun, b :: rest =>
    if begun.low ≤ b.toNat ∧ b.toNat ≤ begun.high then
      let bits := begun.bits * 64 + (b.toNat - 0x80)
      if begun.missing = 1 then Char.ofNat bits :: decodeBytes none rest
      else decodeBytes (some ⟨bits, begun.missing - 1, 0x80, 0xBF⟩) rest
    else
      let (done, started) := startByte b.toNat
      replacement :: (done ++ decodeBytes started rest)

/-- The characters of bytes. -/
def utf8Chars (bytes : List UInt8) : List Char := decodeBytes none bytes

example : utf8Chars [0xC3, 0xBC, 0x41] = ['ü', 'A'] := by decide
example : utf8Chars [0xE2, 0x82, 0x28, 0xFF] = [replacement, '(', replacement] := by decide
example : utf8Chars [0xED, 0xA0, 0x80] = [replacement, replacement, replacement] := by decide

end WiringQuote.Text
