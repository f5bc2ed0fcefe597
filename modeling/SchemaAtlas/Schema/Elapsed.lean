/-!
The time between two readings of a clock in seconds, as whole milliseconds. A half goes to the even
neighbour. Beside it, seconds as whole counts of a tick that divides every reading.
-/
namespace SchemaAtlas.Elapsed

/-- The whole number nearest to a quotient. -/
def roundToEven (numerator denominator : Nat) : Nat :=
  let quotient := numerator / denominator
  let rest := numerator % denominator
  if 2 * rest < denominator then quotient
  else if denominator < 2 * rest then quotient + 1
  else quotient + quotient % 2

/-- A finite binary number as sign, mantissa and exponent of two. -/
def parts (value : Float) : Bool × Nat × Int :=
  let bits := value.toBits.toNat
  let exponent := bits / Nat.pow 2 52 % Nat.pow 2 11
  let fraction := bits % Nat.pow 2 52
  let mantissa := if exponent == 0 then fraction else fraction + Nat.pow 2 52
  (bits / Nat.pow 2 63 == 1, mantissa, (max exponent 1 : Nat) - 1075)

def nearest (value : Float) : Int :=
  let (negative, mantissa, exponent) := parts value
  let magnitude :=
    if 0 ≤ exponent then mantissa * Nat.pow 2 exponent.toNat
    else roundToEven mantissa (Nat.pow 2 (-exponent).toNat)
  if negative then -(magnitude : Int) else magnitude

/-- The time between two readings, unless no double holds it. -/
def milliseconds? (start stop : Float) : Option Int :=
  let time := (stop - start) * 1000
  if time.isFinite then some (nearest time) else none

/-- The time between two readings that are whole seconds. -/
def wholeMilliseconds (start stop : Int) : Int := (stop - start) * 1000

def ticksPerSecond : Int := Nat.pow 2 1074

/-- The least positive double is one tick, and every finite one is a whole count of ticks. -/
def ticks (seconds : Float) : Int :=
  let (negative, mantissa, exponent) := parts seconds
  let magnitude := mantissa * Nat.pow 2 (exponent + 1074).toNat
  if negative then -(magnitude : Int) else magnitude

-- A difference of two readings is rounded to a double before it is compared.
/-- The longest time that rounds to the given one, both in ticks. A half above it counts if the last
of its fifty-three binary digits is even. -/
def longest (time : Int) : Int :=
  if time < Nat.pow 2 53 then time
  else
    let step : Int := Nat.pow 2 (time.toNat.log2 - 52)
    let half := time + step / 2
    if time / step % 2 == 0 then half else half - 1

theorem roundToEven_exact (quotient : Nat) {denominator : Nat} (positive : 0 < denominator) :
    roundToEven (quotient * denominator) denominator = quotient := by
  simp [roundToEven, Nat.mul_div_cancel _ positive, positive]

end SchemaAtlas.Elapsed
