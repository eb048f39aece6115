namespace DirectiveDocs.Decimal

/-- A nonnegative number `significand * 2 ^ exponent` of the binary64 format. -/
structure Binary64 where
  significand : Nat
  exponent : Int

/-- The least significand of a number that is not subnormal. -/
def Binary64.least : Nat := Nat.pow 2 52

/-- A quotient rounded to the nearest integer, a tie to the even neighbour. -/
def roundDiv (num den : Nat) : Nat :=
  let q := num / den
  let r := num % den
  if 2 * r < den then q
  else if den < 2 * r then q + 1
  else if q % 2 = 0 then q else q + 1

/-- `base ^ e` as a numerator and a denominator. -/
def power (base : Nat) (e : Int) : Nat × Nat :=
  if e < 0 then (1, Nat.pow base (-e).toNat) else (Nat.pow base e.toNat, 1)

def digitCount (n : Nat) : Nat :=
  (Nat.toDigits 10 n).length

/-- The binary64 number nearest to `digits * 10 ^ exponent`; none when it overflows. A number
below `10 ^ -400` is nearest to zero, and one from `10 ^ 400` on overflows. -/
def Binary64.nearest (digits : Nat) (exponent : Int) : Option Binary64 :=
  let magnitude := exponent + digitCount digits
  if digits = 0 ∨ magnitude < -400 then some ⟨0, -1074⟩
  else if 400 < magnitude then none
  else
    let (p, d) := power 10 exponent
    let num := digits * p
    let guess : Int := (num.log2 : Int) - (d.log2 : Int) - 52
    let quotient (q : Int) : Nat × Nat :=
      let (b, c) := power 2 q
      (num * c, d * b)
    let (n₀, d₀) := quotient guess
    let q :=
      if n₀ / d₀ < least then guess - 1 else if 2 * least ≤ n₀ / d₀ then guess + 1 else guess
    let q := max q (-1074)
    let (n₁, d₁) := quotient q
    let m := roundDiv n₁ d₁
    let b : Binary64 := if m = 2 * least then ⟨least, q + 1⟩ else ⟨m, q⟩
    if 971 < b.exponent then none else some b

/-- Whether `d * 10 ^ e` rounds to the number: it lies between the two midpoints, ends included
for an even significand. -/
def Binary64.covers (b : Binary64) (d : Nat) (e : Int) : Bool :=
  let (p, c) := power 10 e
  let (t, u) := power 2 (b.exponent - 2)
  let value := d * p * u
  let unit := c * t
  let narrow := b.significand = Binary64.least ∧ -1074 < b.exponent
  let low := (4 * b.significand - (if narrow then 1 else 2)) * unit
  let high := (4 * b.significand + 2) * unit
  if b.significand % 2 = 0 then low ≤ value && value ≤ high else low < value && value < high

/-- Tries the two neighbours on the grid of each digit count in turn. -/
def Binary64.shortestFrom (b : Binary64) (num den : Nat) (top : Int) : Nat → Nat → Nat × Int
  | 0, _ => (0, 0)
  | fuel + 1, n =>
    let e := top - n
    let (p, c) := power 10 e
    let low := num * c / (den * p)
    let nearer := roundDiv (num * c) (den * p)
    let other := if nearer = low then low + 1 else low
    if b.covers nearer e then (nearer, e)
    else if b.covers other e then (other, e)
    else b.shortestFrom num den top fuel (n + 1)

/-- The fewest digits that read back as the number, as digits and a power of ten. -/
def Binary64.shortest (b : Binary64) : Nat × Int :=
  if b.significand = 0 then (0, 0)
  else
    let (t, u) := power 2 b.exponent
    let num := b.significand * t
    let guess : Int := (digitCount num : Int) - (digitCount u : Int)
    let (p, c) := power 10 guess
    let top := if num * c < u * p then guess else guess + 1
    b.shortestFrom num u top 17 1

/-- Positional digits with a point and at least one digit on each side of it. -/
def positional (digits : Nat) (e : Int) : String :=
  let ds := Nat.toDigits 10 digits
  if 0 ≤ e then String.ofList (ds ++ List.replicate e.toNat '0' ++ ['.', '0'])
  else
    let k := (-e).toNat
    let padded := List.replicate (k + 1 - ds.length) '0' ++ ds
    let whole := padded.take (padded.length - k)
    let fraction := (padded.drop (padded.length - k)).reverse.dropWhile (· == '0') |>.reverse
    String.ofList (whole ++ '.' :: (if fraction.isEmpty then ['0'] else fraction))

end DirectiveDocs.Decimal
