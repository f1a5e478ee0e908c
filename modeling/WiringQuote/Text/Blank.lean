/-!
# Blank characters

The characters that separate words, in every script, and the information separators U+001C to
U+001F. Texts from users and from stored rows are trimmed of them at both ends. White space is what
remains without the information separators.
-/

namespace WiringQuote.Text

/-- The code points of the blank characters, as ascending ranges. -/
def blankRanges : List (Nat × Nat) :=
  [(0x09, 0x0D), (0x1C, 0x20), (0x85, 0x85), (0xA0, 0xA0), (0x1680, 0x1680), (0x2000, 0x200A),
    (0x2028, 0x2029), (0x202F, 0x202F), (0x205F, 0x205F), (0x3000, 0x3000)]

/-- The code point lies in one of the ranges. -/
def inRanges (ranges : List (Nat × Nat)) (code : Nat) : Bool :=
  ranges.any fun (first, last) => first ≤ code && code ≤ last

def isBlank (c : Char) : Bool := inRanges blankRanges c.toNat

def isInformationSeparator (c : Char) : Bool := 0x1C ≤ c.toNat && c.toNat ≤ 0x1F

def isWhiteSpace (c : Char) : Bool := isBlank c && !isInformationSeparator c

def isAscii (c : Char) : Bool := c.toNat < 128

/-- The characters without those of a class at both ends. -/
def trimClass (trimmed : Char → Bool) (cs : List Char) : List Char :=
  ((cs.dropWhile trimmed).reverse.dropWhile trimmed).reverse

/-- The characters without the blank ones at both ends. -/
def trimChars (cs : List Char) : List Char := trimClass isBlank cs

def trim (s : String) : String := String.ofList (trimChars s.toList)

/-- The runs of characters between the separators, in order; there is always one more than
separators. -/
def splitChars (separator : Char) : List Char → List (List Char)
  | [] => [[]]
  | c :: rest =>
    if c = separator then [] :: splitChars separator rest
    else match splitChars separator rest with
      | [] => [[c]]
      | piece :: others => (c :: piece) :: others

/-- The pieces of a text between the separators. -/
def pieces (separator : Char) (s : String) : List String :=
  (splitChars separator s.toList).map String.ofList

/-- Every occurrence of one character becomes another. -/
def replaceChar (old new : Char) (s : String) : String :=
  s.map fun c => if c = old then new else c

/-- A decimal comma becomes a decimal point. -/
def commaToPoint (s : String) : String := replaceChar ',' '.' s

end WiringQuote.Text
