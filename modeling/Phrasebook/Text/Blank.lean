/-!
# Blank characters and trimming

Blank is the Unicode property White_Space: the tabulator and line ends, the
space, and the spaces and separators of other scripts. Trimming takes blanks off
the ends of a text.
-/

namespace Phrasebook
namespace Text

def isBlank (c : Char) : Bool :=
  let n := c.toNat
  (9 ≤ n && n ≤ 13) || n == 32 || n == 0x85 || n == 0xA0 || n == 0x1680 ||
    (0x2000 ≤ n && n ≤ 0x200A) || n == 0x2028 || n == 0x2029 || n == 0x202F ||
      n == 0x205F ||
    n == 0x3000

def trimLeft (s : List Char) : List Char :=
  s.dropWhile isBlank

def trimRight (s : List Char) : List Char :=
  (s.reverse.dropWhile isBlank).reverse

def trimBoth (s : List Char) : List Char :=
  trimRight (trimLeft s)

def trim (s : String) : String :=
  String.ofList (trimBoth s.toList)

def isBlankText (s : String) : Bool :=
  s.toList.all isBlank

theorem trimLeft_cons_of_not_blank {c : Char} {s : List Char}
    (h : isBlank c = false) :
    trimLeft (c :: s) = c :: s := by
  simp [trimLeft, h]

@[simp] theorem trimBoth_nil : trimBoth [] = [] := rfl

end Text
end Phrasebook
