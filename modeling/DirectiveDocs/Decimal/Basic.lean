import DirectiveDocs.Decimal.Shortest

namespace DirectiveDocs

/-- A number of a data format: an integer, or a binary64 number kept as the decimal it was
written as. -/
inductive Decimal where
  | integer (value : Int)
  | real (negative : Bool) (digits : Nat) (exponent : Int)
  | infinity (negative : Bool)
  | nan
  deriving DecidableEq, Repr

namespace Decimal

/-- The value's text: an integer in full, a real number with the fewest digits that read back. -/
def display : Decimal → String
  | integer n => toString n
  | real negative digits exponent =>
    let magnitude := match Binary64.nearest digits exponent with
      | some b => let (d, e) := b.shortest; positional d e
      | none => "inf"
    (if negative then "-" else "") ++ magnitude
  | infinity negative => if negative then "-inf" else "inf"
  | nan => "NaN"

/-- Whether an integer has a form of 64 bits, with or without a sign. -/
def fitsWord (n : Int) : Bool :=
  -(Nat.pow 2 63 : Nat) ≤ n && n < (Nat.pow 2 64 : Nat)

def describe : Decimal → String
  | integer n => "integer `" ++ toString n ++ "`"
  | d => "floating point `" ++ d.display ++ "`"

end Decimal
end DirectiveDocs
