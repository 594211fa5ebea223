/-!
Number literals. An integer that 64 bits hold is exact. Any other literal is held as its leading
digits, as many as 64 bits hold, and a power of ten, and stands for the double-precision number
that those two make when each is rounded first (`Numeral.isFinite` says whether there is one).
-/

namespace TypeCatalog

/-- A number literal. -/
inductive Numeral
  /-- An integer that 64 bits hold, `-0` excepted. -/
  | integer (value : Int)
  /-- Any other literal: `digits` times ten to the power `exponent`. -/
  | decimal (negative : Bool) (digits : Nat) (exponent : Int)
  deriving DecidableEq, Repr

namespace Numeral

/-! ### Digits -/

/-- Whether `c` is a decimal digit. -/
def isDigit (c : Char) : Bool := '0' ≤ c && c ≤ '9'

/-- The value of a decimal digit. -/
def digitValue (c : Char) : Nat := c.toNat - '0'.toNat

/-- The value of decimal digits. -/
def ofDigits (ds : List Char) : Nat := ds.foldl (fun n c => n * 10 + digitValue c) 0

/-- Appends digits to a number while 64 bits hold it, and gives the digits that are left. -/
def append (n : Nat) : List Char → Nat × List Char
  | [] => (n, [])
  | d :: ds =>
    if n * 10 + digitValue d < UInt64.size then append (n * 10 + digitValue d) ds
    else (n, d :: ds)

/-- The integer of digits without a sign before it. -/
def ofWhole (negative : Bool) (whole : List Char) : Numeral :=
  let (n, left) := append 0 whole
  if left.isEmpty ∧ ¬ negative then integer n
  else if left.isEmpty ∧ 0 < n ∧ 2 * n ≤ UInt64.size then integer (-n)
  else decimal negative n left.length

/-- The number of digits before and behind a point, times a power of ten. Digits that are left
before the point count as places, those behind it do not count. -/
def ofParts (negative : Bool) (whole places : List Char) (exponent : Int) : Numeral :=
  let (n, left) := append 0 whole
  let (n, unread) := append n places
  decimal negative n (left.length - (places.length - unread.length : Nat) + exponent)

/-! ### Double precision -/

/-- The double-precision number that is nearest to `n`, of two the even one. -/
def nearestDouble (n : Nat) : Nat :=
  let unit := Nat.pow 2 (n.log2 - 52)
  let below := n / unit
  let rest := n % unit
  if unit < 2 * rest ∨ (2 * rest = unit ∧ below % 2 = 1) then (below + 1) * unit
  else below * unit

/-- The least magnitude that no finite double-precision number is nearest to. -/
def overflowBound : Nat := Nat.pow 2 1024 - Nat.pow 2 970

/-- The greatest power of ten that is finite in double precision. -/
def greatestPower : Nat := 308

/-- Whether the literal stands for a finite number. -/
def isFinite : Numeral → Bool
  | integer _ => true
  | decimal _ digits exponent =>
    digits = 0 || exponent < 0 || (exponent ≤ greatestPower &&
      nearestDouble digits * nearestDouble (Nat.pow 10 exponent.toNat) < overflowBound)

end Numeral

end TypeCatalog
