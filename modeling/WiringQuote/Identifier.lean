import WiringQuote.Text.Quoted

/-!
# Identifiers

Sessions and selected packages are named by identifiers that are given out one after the other. The
identifier of a session starts with its number in eight hexadecimal digits and is filled with zeros;
that of a selected package keeps only those eight digits, its tag.
-/

namespace WiringQuote.Identifier

/-- The number in hexadecimal digits, at least eight of them. -/
def tag (number : Nat) : String := String.ofList (Text.hex 8 number)

/-- The tag, filled up to thirty-two digits. -/
def text (number : Nat) : String := tag number ++ String.ofList (List.replicate 24 '0')

example : tag 0x1A = "0000001a" := by decide +kernel

end WiringQuote.Identifier

namespace WiringQuote

/-- The identifiers that are given out, by their numbers. -/
structure Identifiers where
  /-- The identifier of a session. -/
  text : Nat → String
  /-- What tells apart the instances of a package. -/
  tag : Nat → String

/-- Identifiers that count. -/
def Identifiers.counted : Identifiers := ⟨Identifier.text, Identifier.tag⟩

end WiringQuote
