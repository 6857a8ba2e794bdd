/-!
Blank characters: the code points with the property White_Space, and trimming of texts
by them.
-/

namespace AssistantEngine

namespace Text

/-- The ranges of code points that are white space, in ascending order. -/
def blankRanges : List (Nat × Nat) :=
  [(0x09, 0x0D), (0x20, 0x20), (0x85, 0x85), (0xA0, 0xA0), (0x1680, 0x1680), (0x2000, 0x200A),
    (0x2028, 0x2029), (0x202F, 0x202F), (0x205F, 0x205F), (0x3000, 0x3000)]

def isBlank (character : Char) : Bool :=
  blankRanges.any fun range => range.1 ≤ character.toNat && character.toNat ≤ range.2

def trimStartChars (characters : List Char) : List Char := characters.dropWhile isBlank

def trimEndChars (characters : List Char) : List Char :=
  (characters.reverse.dropWhile isBlank).reverse

def trim (text : String) : String := String.ofList (trimEndChars (trimStartChars text.toList))

def trimEnd (text : String) : String := String.ofList (trimEndChars text.toList)

/-- The texts in order with a separator between neighbours. -/
def join (separator : String) (texts : List String) : String := String.intercalate separator texts

/-- ASCII letters in lower case, all else unchanged. -/
def asciiLower (text : String) : String := String.ofList (text.toList.map Char.toLower)

end Text

end AssistantEngine
