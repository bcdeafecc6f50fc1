import RecordDirectory.Binary64

/-!
The shortest decimal text of a binary number.

Among the decimals that are read back as the number, those with the fewest digits are taken, and of
these the one nearest to it. Such decimals fill an interval around the number, whose ends belong to it
when the significand is even. On the grid of decimals with `n` digits only the two neighbours of the
number have to be looked at: if any point of the grid lies in the interval, one of them does.
-/

namespace RecordDirectory
namespace Binary64

/-- A positive decimal, `digits * 10 ^ exponent`. -/
structure ShortDecimal where
  digits : Nat
  exponent : Int
deriving DecidableEq

def ShortDecimal.leadExponent (d : ShortDecimal) : Int :=
  (Nat.toDigits 10 d.digits).length - 1 + d.exponent

/-- The numbers that are read as a given number, with all ends over one denominator. -/
structure Interval where
  low : Nat
  value : Nat
  high : Nat
  denominator : Nat
  closed : Bool

/-- The interval of a positive number, in quarters of the unit in its last binary place: half a unit
each way, but a quarter below a power of two, where the numbers beneath lie closer. -/
def interval (x : Binary64) : Interval :=
  let unit := twoTo x.exponent.toNat
  let below := if x.significand = twoTo (precision - 1) ∧ leastExponent < x.exponent then 1 else 2
  { low := (4 * x.significand - below) * unit
    value := 4 * x.significand * unit
    high := (4 * x.significand + 2) * unit
    denominator := 4 * twoTo (-x.exponent).toNat
    closed := x.significand % 2 == 0 }

/-- Whether `digits * 10 ^ exponent` lies in the interval. -/
def Interval.holds (i : Interval) (digits : Nat) (exponent : Int) : Bool :=
  let num := digits * tenTo exponent.toNat * i.denominator
  let scale := tenTo (-exponent).toNat
  if i.closed then i.low * scale ≤ num && num ≤ i.high * scale
  else i.low * scale < num && num < i.high * scale

/-- The exponent of the greatest power of ten not above the value: a guess from the binary exponent,
put right by at most a few steps. -/
def floorLog10 (num den : Nat) : Int :=
  let reaches (e : Int) : Bool := den * tenTo e.toNat ≤ num * tenTo (-e).toNat
  let guess : Int := ((num.log2 : Int) - (den.log2 : Int)) * 30103 / 100000
  let rec settle : Nat → Int → Int
    | 0, e => e
    | n + 1, e => if reaches (e + 1) then settle n (e + 1) else if reaches e then e else settle n (e - 1)
  settle 4 guess

/-- The point of the grid `10 ^ exponent` in the interval that is nearest to the value. -/
def Interval.nearestOn? (i : Interval) (exponent : Int) : Option Nat :=
  let num := i.value * tenTo (-exponent).toNat
  let den := i.denominator * tenTo exponent.toNat
  let down := num / den
  let rest := num % den
  match i.holds down exponent && 0 < down, i.holds (down + 1) exponent with
  | true, true =>
    some (if 2 * rest < den then down
      else if den < 2 * rest then down + 1
      else if down % 2 = 0 then down else down + 1)
  | true, false => some down
  | false, true => some (down + 1)
  | false, false => none

def ShortDecimal.stripZeros (fuel : Nat) (d : ShortDecimal) : ShortDecimal :=
  match fuel with
  | 0 => d
  | fuel + 1 => if d.digits % 10 = 0 then stripZeros fuel ⟨d.digits / 10, d.exponent + 1⟩ else d

/-- The first of several digit counts whose grid meets the interval. -/
def Interval.firstOn (i : Interval) (lead : Int) : List Nat → ShortDecimal
  | [] => ⟨i.value / i.denominator, 0⟩
  | n :: rest =>
    let exponent := lead - (n : Int) + 1
    match i.nearestOn? exponent with
    | some digits => ShortDecimal.stripZeros 20 ⟨digits, exponent⟩
    | none => firstOn i lead rest

/-- The shortest decimal of a positive number; seventeen digits are always enough. -/
def shortest (x : Binary64) : ShortDecimal :=
  let i := x.interval
  i.firstOn (floorLog10 i.value i.denominator) ((List.range 17).map (· + 1))

/-- How a decimal is written: positionally when the exponent of its first digit lies between two
bounds, and with that exponent spelled out otherwise. -/
structure Layout where
  leastPlain : Int
  greatestPlain : Int

/-- Positional from `0.00001` to fifteen zeros. -/
def plainLayout : Layout := ⟨-5, 15⟩

/-- The digits at their decimal places, always with a fraction. -/
def ShortDecimal.positional (d : ShortDecimal) : List Char :=
  let digits := Nat.toDigits 10 d.digits
  let lead := d.leadExponent
  if 0 ≤ d.exponent then
    digits ++ List.replicate d.exponent.toNat '0' ++ ['.', '0']
  else if 0 ≤ lead then
    digits.take (lead.toNat + 1) ++ '.' :: digits.drop (lead.toNat + 1)
  else
    ['0', '.'] ++ List.replicate (-lead - 1).toNat '0' ++ digits

/-- The first digit, the others after a point, and the exponent with its sign. -/
def ShortDecimal.scientific (d : ShortDecimal) : List Char :=
  let digits := Nat.toDigits 10 d.digits
  let lead := d.leadExponent
  let fraction := match digits.drop 1 with
    | [] => []
    | rest => '.' :: rest
  digits.take 1 ++ fraction ++ ['e', if lead < 0 then '-' else '+'] ++ Nat.toDigits 10 lead.natAbs

def text (x : Binary64) : List Char :=
  let size :=
    if x.significand = 0 then
      ['0', '.', '0']
    else
      let d := x.shortest
      if plainLayout.leastPlain ≤ d.leadExponent ∧ d.leadExponent ≤ plainLayout.greatestPlain then
        d.positional
      else
        d.scientific
  if x.negative then '-' :: size else size

end Binary64
end RecordDirectory
