/-!
Comparisons that heaps of numbers, texts and keyed texts are ordered by.
-/

namespace Agenda

inductive NumberOrder where
  | ascending
  | descending
  | magnitude
  | unordered
  deriving DecidableEq, Repr

def NumberOrder.less : NumberOrder → Int → Int → Bool
  | .ascending, a, b => a < b
  | .descending, a, b => b < a
  | .magnitude, a, b => a.natAbs < b.natAbs
  | .unordered, _, _ => false

inductive TextOrder where
  /-- By code points, which is also the order of the encoded bytes. -/
  | lexicographic
  /-- The text with the longer encoding comes first. -/
  | longest
  deriving DecidableEq, Repr

def TextOrder.less : TextOrder → String → String → Bool
  | .lexicographic, a, b => a < b
  | .longest, a, b => b.utf8ByteSize < a.utf8ByteSize

/-- Orders of texts with a number as their key; the text does not count. -/
inductive KeyOrder where
  | ascending
  | descending
  deriving DecidableEq, Repr

def KeyOrder.less : KeyOrder → Int × String → Int × String → Bool
  | .ascending, a, b => a.1 < b.1
  | .descending, a, b => b.1 < a.1

end Agenda
