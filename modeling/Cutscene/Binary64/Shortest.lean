import Cutscene.Binary64

/-!
# Shortest decimal notation

A finite number is written with the fewest decimal digits that read back as the number, and of
the notations with so many digits with the one nearest to it. The reals that read back as a
number form an interval around it, whose ends belong to it when the number's own magnitude is
even. For each count of digits only the two neighbours of the number on that decimal grid have
to be tried.
-/

namespace Cutscene

namespace Binary64

/-- A positive quotient of whole numbers. -/
structure Ratio where
  num : Nat
  den : Nat

namespace Ratio

/-- `m · 2 ^ q` as a quotient. -/
def ofBinary (m : Nat) (q : Int) : Ratio :=
  if 0 ≤ q then ⟨m <<< q.toNat, 1⟩ else ⟨m, 1 <<< (-q).toNat⟩

/-- `d · 10 ^ k` as a quotient. -/
def ofDecimal (d : Nat) (k : Int) : Ratio :=
  if 0 ≤ k then ⟨d * Nat.pow 10 k.toNat, 1⟩ else ⟨d, Nat.pow 10 (-k).toNat⟩

/-- Strictly below. -/
def blt (a b : Ratio) : Bool := a.num * b.den < b.num * a.den

/-- At most. -/
def ble (a b : Ratio) : Bool := a.num * b.den ≤ b.num * a.den

/-- The distance between two quotients. -/
def distance (a b : Ratio) : Ratio :=
  let x := a.num * b.den
  let y := b.num * a.den
  ⟨(x - y) + (y - x), a.den * b.den⟩

/-- The greatest power of ten that the quotient reaches. -/
def floorLog10 (a : Ratio) : Int :=
  (decimalLength (a.num * Nat.pow 10 400 / a.den) : Int) - 401

/-- The greatest multiple of `10 ^ k` that the quotient reaches. -/
def onGrid (a : Ratio) (k : Int) : Nat :=
  if 0 ≤ k then a.num / (a.den * Nat.pow 10 k.toNat) else a.num * Nat.pow 10 (-k).toNat / a.den

end Ratio

/-- Whether `d · 10 ^ k` lies in the interval of reals that read back as `m · 2 ^ q`, a finite
positive number. Below a power of two the interval is only half as wide. -/
def readsBack (m : Nat) (q : Int) (d : Nat) (k : Int) : Bool :=
  let low :=
    if m = binade ∧ -1074 < q then Ratio.ofBinary (4 * m - 1) (q - 2)
    else Ratio.ofBinary (2 * m - 1) (q - 1)
  let high := Ratio.ofBinary (2 * m + 1) (q - 1)
  let x := Ratio.ofDecimal d k
  if m % 2 = 0 then low.ble x && x.ble high else low.blt x && x.blt high

/-- The notation `digits · 10 ^ exponent` with the given count of digits, if one reads back. Of
two that do, the nearer is chosen, and of two equally near the one with an even last digit. -/
def notation? (m : Nat) (q : Int) (count : Nat) : Option (Nat × Int) :=
  let x := Ratio.ofBinary m q
  let k := x.floorLog10 - count + 1
  let below := x.onGrid k
  let above := below + 1
  match 0 < below && readsBack m q below k, readsBack m q above k with
  | false, false => none
  | true, false => some (below, k)
  | false, true => some (above, k)
  | true, true =>
    let toBelow := x.distance (Ratio.ofDecimal below k)
    let toAbove := x.distance (Ratio.ofDecimal above k)
    if toBelow.blt toAbove || (toBelow.ble toAbove && below % 2 == 0) then some (below, k)
    else some (above, k)

/-- A notation without the zeros at its end. -/
def withoutZeros (limit : Nat) (d : Nat) (k : Int) : Nat × Int :=
  match limit with
  | 0 => (d, k)
  | limit + 1 => if d % 10 = 0 then withoutZeros limit (d / 10) (k + 1) else (d, k)

/-- The shortest notation `digits · 10 ^ exponent` of a finite positive number. Seventeen
digits always read back. -/
def shortest (x : Binary64) : Nat × Int :=
  let (m, q) := x.scaled
  match (List.range 17).findSome? fun n => notation? m q (n + 1) with
  | some (d, k) => withoutZeros 20 d k
  | none => (0, 0)

/-- A text for a number: positional from `10 ^ -5` up to below `10 ^ 16`, always with a point;
beyond that with an exponent, and with a point only if there is more than one digit. -/
def digitsText (digits : Nat) (exponent : Int) : List Char :=
  let row := Nat.toDigits 10 digits
  let point : Int := row.length + exponent
  if 0 ≤ exponent ∧ point ≤ 16 then
    row ++ List.replicate exponent.toNat '0' ++ ['.', '0']
  else if 0 < point ∧ point ≤ 16 then
    row.take point.toNat ++ '.' :: row.drop point.toNat
  else if -5 < point ∧ point ≤ 0 then
    '0' :: '.' :: List.replicate (-point).toNat '0' ++ row
  else
    let power := point - 1
    let tail :=
      'e' :: (if power < 0 then ['-'] else []) ++ Nat.toDigits 10 power.natAbs
    match row with
    | [digit] => digit :: tail
    | digit :: more => digit :: '.' :: more ++ tail
    | [] => tail

/-- The text of a finite number. -/
def text (x : Binary64) : List Char :=
  let body := if x.magnitude = 0 then ['0', '.', '0'] else
    let (d, k) := x.shortest
    digitsText d k
  if x.negative then '-' :: body else body

end Binary64

end Cutscene
