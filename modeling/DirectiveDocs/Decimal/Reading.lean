import DirectiveDocs.Decimal.Basic

namespace DirectiveDocs.Decimal

def digitValue? (c : Char) : Option Nat :=
  if '0' ≤ c ∧ c ≤ '9' then some (c.toNat - '0'.toNat)
  else if 'a' ≤ c ∧ c ≤ 'f' then some (c.toNat - 'a'.toNat + 10)
  else if 'A' ≤ c ∧ c ≤ 'F' then some (c.toNat - 'A'.toNat + 10)
  else none

def isDigit (base : Nat) (c : Char) : Bool :=
  match digitValue? c with
  | some d => d < base
  | none => false

def ofDigits (base : Nat) (cs : List Char) : Nat :=
  cs.foldl (fun n c => n * base + (digitValue? c).getD 0) 0

/-- A number written with at least one digit and nothing else. -/
def natural? (base : Nat) (cs : List Char) : Option Nat :=
  if cs.isEmpty || !cs.all (isDigit base) then none else some (ofDigits base cs)

def splitSign : List Char → Bool × List Char
  | '-' :: cs => (true, cs)
  | '+' :: cs => (false, cs)
  | cs => (false, cs)

/-- A power of ten after the letter `e`; nothing is the power zero. -/
def exponent? : List Char → Option Int
  | [] => some 0
  | c :: cs =>
    if c = 'e' ∨ c = 'E' then
      let (negative, ds) := splitSign cs
      (natural? 10 ds).map (fun n => if negative then -(n : Int) else n)
    else none

/-- A real number: an optional sign, digits with at most one point among them, an optional
power of ten. -/
def real? (cs : List Char) : Option Decimal :=
  let (negative, cs) := splitSign cs
  let whole := cs.takeWhile (isDigit 10)
  let (fraction, rest) := match cs.dropWhile (isDigit 10) with
    | '.' :: rest => (rest.takeWhile (isDigit 10), rest.dropWhile (isDigit 10))
    | rest => ([], rest)
  if whole.isEmpty && fraction.isEmpty then none
  else
    (exponent? rest).map (fun e =>
      .real negative (ofDigits 10 (whole ++ fraction)) (e - fraction.length))

/-- Whether an integer has a form of 128 bits, and a real number one of the binary64 format. -/
def inRange : Decimal → Bool
  | integer n => -(Nat.pow 2 127 : Nat) ≤ n && n < (Nat.pow 2 128 : Nat)
  | real _ digits exponent => (Binary64.nearest digits exponent).isSome
  | _ => true

end DirectiveDocs.Decimal
