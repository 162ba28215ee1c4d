/-!
Decimal text of a double. `shortest` finds the fewest significant digits that read back as the
same value and, among the decimals of that length, the nearest; `Layout` says how such digits
are set: positional between two exponents, scientific outside.
-/
namespace MachineCode.Decimal

/-- A positive decimal `0.d₁d₂… · 10 ^ point`. -/
structure Digits where
  digits : List Nat
  point : Int
  deriving DecidableEq, Repr

/-- A positive binary value `mant · 2 ^ exp`, and whether the gap below it is half the gap above. -/
structure Binary where
  mant : Nat
  exp : Int
  narrow : Bool
  deriving DecidableEq, Repr

def Binary.ofBits (bits : UInt64) : Binary :=
  let n := bits.toNat
  let frac := n % 0x10000000000000
  let e := n >>> 52 % 0x800
  if e = 0 then ⟨frac, -1074, false⟩
  else ⟨frac + 0x10000000000000, Int.ofNat e - 1075, frac == 0 && decide (1 < e)⟩

structure Interval where
  low : Nat
  value : Nat
  high : Nat
  den : Nat
  closed : Bool

def Binary.interval (b : Binary) : Interval :=
  let up := 1 <<< (b.exp - 2).toNat
  let den := 1 <<< (2 - b.exp).toNat
  ⟨(4 * b.mant - if b.narrow then 1 else 2) * up, 4 * b.mant * up, (4 * b.mant + 2) * up, den,
    b.mant % 2 == 0⟩

/-- Whether `c · 10 ^ k` reads back as the value. -/
def Interval.covers (i : Interval) (c : Nat) (k : Int) : Bool :=
  let x := c * Nat.pow 10 k.toNat * i.den
  let s := Nat.pow 10 (-k).toNat
  if i.closed then i.low * s ≤ x && x ≤ i.high * s else i.low * s < x && x < i.high * s

def Interval.atLeastPow (i : Interval) (k : Int) : Bool :=
  Nat.pow 10 k.toNat * i.den ≤ i.value * Nat.pow 10 (-k).toNat

def Interval.leading (i : Interval) : Nat → Int → Int
  | 0, k => k
  | n + 1, k => if i.atLeastPow k then k else i.leading n (k - 1)

/-- The best decimal of `n` digits, if one reads back: the nearer neighbour of the value on the
grid, on a tie the one whose last digit is even. -/
def Interval.best (i : Interval) (k : Int) : Option Nat :=
  let num := i.value * Nat.pow 10 (-k).toNat
  let den := i.den * Nat.pow 10 k.toNat
  let below := num / den
  let rest := num % den
  let nearBelow := 2 * rest < den || (2 * rest == den && below % 2 == 0)
  let first := if nearBelow then below else below + 1
  let second := if nearBelow then below + 1 else below
  if i.covers first k then some first else if i.covers second k then some second else none

def Interval.search (i : Interval) (lead : Int) : Nat → Nat → Nat × Int
  | 0, _ => (0, 0)
  | fuel + 1, n =>
    let k := lead - n
    match i.best k with
    | some c => (c, k)
    | none => i.search lead fuel (n + 1)

/-- Decimal digits of a number, without the zeros at its end. -/
def significant (c : Nat) : List Nat :=
  ((Nat.toDigits 10 c).map (fun d => d.toNat - 48)).reverse.dropWhile (· == 0) |>.reverse

def Binary.shortest (b : Binary) : Digits :=
  let i := b.interval
  let (c, k) := i.search (i.leading 700 309) 20 0
  ⟨significant c, k + (Nat.toDigits 10 c).length⟩

structure Layout where
  /-- The least exponent of the leading digit that is written positionally. -/
  least : Int
  /-- The first exponent of the leading digit that is no longer written positionally. -/
  bound : Int
  /-- The least number of digits of a written exponent. -/
  exponentDigits : Nat
  notANumber : String
  positiveInfinity : String
  negativeInfinity : String

def digitText (ds : List Nat) : String := String.ofList (ds.map fun d => Char.ofNat (48 + d))

def positional (d : Digits) : String :=
  if d.point ≤ 0 then
    "0." ++ digitText (List.replicate (-d.point).toNat 0 ++ d.digits)
  else
    let whole := d.point.toNat
    if d.digits.length ≤ whole then
      digitText (d.digits ++ List.replicate (whole - d.digits.length) 0)
    else
      digitText (d.digits.take whole) ++ "." ++ digitText (d.digits.drop whole)

def scientific (l : Layout) (d : Digits) : String :=
  let e := d.point - 1
  let tail := d.digits.drop 1
  let es := toString e.natAbs
  digitText (d.digits.take 1) ++ (if tail.isEmpty then "" else "." ++ digitText tail) ++
    (if e < 0 then "e-" else "e+") ++
    String.ofList (List.replicate (l.exponentDigits - es.length) '0') ++ es

def Layout.render (l : Layout) (bits : UInt64) : String :=
  let n := bits.toNat
  let negative := n ≥ 0x8000000000000000
  let magnitude := n % 0x8000000000000000
  if magnitude > 0x7ff0000000000000 then l.notANumber
  else if magnitude == 0x7ff0000000000000 then
    if negative then l.negativeInfinity else l.positiveInfinity
  else
    let body :=
      if magnitude == 0 then "0"
      else
        let d := (Binary.ofBits bits).shortest
        if d.point - 1 < l.least || l.bound ≤ d.point - 1 then scientific l d else positional d
    if negative then "-" ++ body else body

end MachineCode.Decimal
