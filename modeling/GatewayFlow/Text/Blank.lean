/-!
# Blank characters

Two classes of white space and the trimming of a text at both ends. `isSpace` is the class of
spacing characters; `isBlank` adds the four separators U+001C to U+001F.
-/
namespace GatewayFlow.Text

/-- The characters that only take up room: tabs, line ends and the spaces of every script. -/
def isSpace (c : Char) : Bool :=
  let n := c.toNat
  (0x9 ≤ n && n ≤ 0xD) || n == 0x20 || n == 0x85 || n == 0xA0 || n == 0x1680 ||
    (0x2000 ≤ n && n ≤ 0x200A) || n == 0x2028 || n == 0x2029 || n == 0x202F ||
    n == 0x205F || n == 0x3000

def isBlank (c : Char) : Bool :=
  isSpace c || (0x1C ≤ c.toNat && c.toNat ≤ 0x1F)

/-- Drops the longest run of characters of a class from the end. -/
def dropEndWhile (p : Char → Bool) (cs : List Char) : List Char :=
  (cs.reverse.dropWhile p).reverse

/-- Drops the characters of a class from both ends. -/
def trimBy (p : Char → Bool) (cs : List Char) : List Char :=
  dropEndWhile p (cs.dropWhile p)

def trim (cs : List Char) : List Char :=
  trimBy isBlank cs

end GatewayFlow.Text
