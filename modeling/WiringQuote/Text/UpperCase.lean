/-!
# Capital letters

The capital letters that names in ASCII are matched in. Few letters outside ASCII have capitals in
ASCII: the dotless i, the long s, and those that stand for two or three letters.
-/

namespace WiringQuote.Text

/-- The code points of the letters outside ASCII whose capitals are in ASCII, with these. -/
def foreignCapitals : List (Nat × String) :=
  [(0xDF, "SS"), (0x131, "I"), (0x17F, "S"), (0xFB00, "FF"), (0xFB01, "FI"), (0xFB02, "FL"),
    (0xFB03, "FFI"), (0xFB04, "FFL"), (0xFB05, "ST"), (0xFB06, "ST")]

/-- The capitals of a character; a character without capitals in ASCII stands for itself. -/
def capitals (c : Char) : List Char :=
  match foreignCapitals.find? fun entry => entry.1 = c.toNat with
  | some (_, letters) => letters.toList
  | none => [c.toUpper]

/-- The text in capital letters, as far as they are in ASCII. -/
def upper (s : String) : String := String.ofList (s.toList.flatMap capitals)

example : upper "warn\u0131ng" = "WARNING" := by decide +kernel

end WiringQuote.Text
