import Mathlib.Data.List.DropRight
import TskProtocol.Js

namespace TskProtocol

/-- A finite number that is not written as an integer, by the fewest digits that stand for it: they
follow the point of `0.digits × 10^point`. -/
structure JsDecimal where
  negative : Bool
  digits : JsString
  point : Int
  all_digits : digits.all isDecimalDigit = true
  ne_nil : digits ≠ []
  head_ne : digits.head? ≠ some 48
  last_ne : digits.getLast? ≠ some 48
  not_integer : ¬ ((digits.length : Int) ≤ point ∧ point ≤ 21)
  deriving DecidableEq, Repr

namespace JsDecimal

/-- The digits of a fraction behind their point. -/
def fractionText (fraction : JsString) : JsString := if fraction = [] then [] else 46 :: fraction

def exponentText (exponent : Int) : JsString :=
  101 :: (if exponent < 0 then 45 else 43) :: JsString.ofNat exponent.natAbs

/-- `Number.prototype.toString` behind the sign. -/
def unsignedText (d : JsDecimal) : JsString :=
  if 0 < d.point ∧ d.point ≤ 21 then
    d.digits.take d.point.toNat ++ fractionText (d.digits.drop d.point.toNat)
  else if -6 < d.point ∧ d.point ≤ 0 then
    [48] ++ fractionText (List.replicate d.point.natAbs 48 ++ d.digits)
  else d.digits.take 1 ++ fractionText (d.digits.drop 1) ++ exponentText (d.point - 1)

def text (d : JsDecimal) : JsString :=
  if d.negative then 45 :: d.unsignedText else d.unsignedText

end JsDecimal

end TskProtocol
