import IssueQuery.Text.Alphabetic
import IssueQuery.Text.Marks
import IssueQuery.Text.Numbers
import IssueQuery.Text.GraphemeExtend
import IssueQuery.Text.Unprintable

/-! The classes of characters that queries, names and quoted values are made of. Word characters and
alphanumeric ones overlap, and neither class holds the other: a combining mark is only the former,
a superscript digit only the latter. -/

namespace IssueQuery.Text

def isBlank (c : Char) : Bool :=
  let n := c.toNat
  (0x9 ≤ n && n ≤ 0xD) || n == 0x20 || n == 0x85 || n == 0xA0 || n == 0x1680 ||
    (0x2000 ≤ n && n ≤ 0x200A) || n == 0x2028 || n == 0x2029 || n == 0x202F || n == 0x205F ||
    n == 0x3000

def isAlphanumeric (c : Char) : Bool :=
  if c.toNat < 0x80 then c.isAlphanum
  else covers alphabeticRanges c.toNat || covers decimalDigitRanges c.toNat ||
    covers otherNumberRanges c.toNat

def isConnector (c : Char) : Bool :=
  let n := c.toNat
  n == 0x5F || n == 0x203F || n == 0x2040 || n == 0x2054 || n == 0xFE33 || n == 0xFE34 ||
    (0xFE4D ≤ n && n ≤ 0xFE4F) || n == 0xFF3F

def isJoiner (c : Char) : Bool :=
  c.toNat == 0x200C || c.toNat == 0x200D

/-- A character of a bare word: a letter, mark, decimal digit, connector or joiner. -/
def isWord (c : Char) : Bool :=
  if c.toNat < 0x80 then c.isAlphanum || c == '_'
  else covers alphabeticRanges c.toNat || covers markRanges c.toNat ||
    covers decimalDigitRanges c.toNat || isConnector c || isJoiner c

def extendsGrapheme (c : Char) : Bool :=
  0x80 ≤ c.toNat && covers graphemeExtendRanges c.toNat

def isPrintable (c : Char) : Bool :=
  if c.toNat < 0x7F then 0x20 ≤ c.toNat else !covers unprintableRanges c.toNat

def blank (text : List Char) : Bool :=
  text.all isBlank

def trimStart (text : List Char) : List Char :=
  text.dropWhile isBlank

def trim (text : List Char) : List Char :=
  (trimStart (trimStart text).reverse).reverse

end IssueQuery.Text
