import Accounts.Text.Numerals

/-! The decimal text of a double in the fewest digits that read back as it.

The numbers that round to a double make an interval around it. The text has the coarsest decimal
grid with a point in that interval, and of that grid the point nearest to the double. -/

namespace Accounts.Text

structure Binary where
  units : Nat
  exponent : Int
  deriving DecidableEq, Repr

def leastExponent : Int := -1074

/-- The size that the lower 63 bits of a double spell: 52 bits of the number of units below 11 bits
of the exponent. The number of units has one bit more, which is set unless the exponent is least. -/
def Binary.ofBits (bits : Nat) : Binary :=
  let fraction := bits % 0x10000000000000
  let exponent := bits / 0x10000000000000 % 0x800
  if exponent = 0 then ⟨fraction, leastExponent⟩
  else ⟨fraction + 0x10000000000000, leastExponent + exponent - 1⟩

def Binary.inSteps (size : Binary) (quarters : Nat) (power : Int) : Nat × Nat :=
  (quarters * Nat.pow 2 (size.exponent - 2).toNat * Nat.pow 10 (-power).toNat,
   Nat.pow 2 (2 - size.exponent).toNat * Nat.pow 10 power.toNat)

/-- How far below a size the numbers that round to it begin, in quarters of units. Where the unit
changes the next size below is nearer. -/
def Binary.reachBelow (size : Binary) : Nat :=
  if size.units = 0x10000000000000 ∧ leastExponent < size.exponent then 1 else 2

/-- Whether a point of a decimal grid rounds to a size. The ends of the interval round to it if its
number of units is even. -/
def Binary.rounds (size : Binary) (power : Int) (point : Nat) : Bool :=
  let (least, _) := size.inSteps (4 * size.units - size.reachBelow) power
  let (greatest, step) := size.inSteps (4 * size.units + 2) power
  if size.units % 2 = 0 then least ≤ point * step && point * step ≤ greatest
  else least < point * step && point * step < greatest

def Binary.pointOn? (size : Binary) (power : Int) : Option Nat :=
  let (exact, step) := size.inSteps (4 * size.units) power
  let below := exact / step
  let twice := 2 * (exact % step)
  let nearer := if twice < step ∨ twice = step ∧ below % 2 = 0 then below else below + 1
  let farther := if nearer = below then below + 1 else below
  if size.rounds power nearer then some nearer
  else if size.rounds power farther then some farther
  else none

def coarsestPower : Int := 309

def gridCount : Nat := 660

def Binary.shortest (size : Binary) : Nat × Int :=
  ((List.range gridCount).findSome? fun (k : Nat) =>
    let power := coarsestPower - k
    (size.pointOn? power).map fun point => (point, power)).getD (0, 0)

def scientific (digits : List Char) (power : Int) : List Char :=
  digits.take 1 ++ (if digits.length = 1 then [] else '.' :: digits.drop 1) ++
    'e' :: (if power < 0 then '-' else '+') :: decimal power.natAbs

def positional (digits : List Char) (power : Int) : List Char :=
  if power < 0 then '0' :: '.' :: List.replicate (-power - 1).toNat '0' ++ digits
  else
    let whole := power.toNat + 1
    let part := digits.drop whole
    digits.take whole ++ List.replicate (whole - digits.length) '0' ++
      '.' :: (if part = [] then ['0'] else part)

/-- The text of a finite double. It is positional where the first digit counts a power of ten from
the fifth negative to the fifteenth. -/
def printDouble (value : Float) : List Char :=
  let bits := value.toBits.toNat
  let size := Binary.ofBits (bits % 0x8000000000000000)
  let sign := if bits < 0x8000000000000000 then [] else ['-']
  if size.units = 0 then sign ++ "0.0".toList
  else
    let (number, last) := size.shortest
    let digits := decimal number
    let power := last + digits.length - 1
    sign ++ if -5 ≤ power ∧ power ≤ 15 then positional digits power else scientific digits power

end Accounts.Text
