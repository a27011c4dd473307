import AffixSpeller.Text.Basic

/-!
# Decimal numbers

Numbers are written with ASCII digits, a sign in front being optional. Counts fit 64 bits
unsigned and take no minus; integers fit 64 bits signed.

## Main definitions

* `Text.decimal?`: the value of a non-empty string of digits.
* `Text.count?`: the value of a count.
* `Text.integer?`: the value of a signed integer.
-/

namespace AffixSpeller.Text

/-- The value of a digit in a base up to sixteen, letters standing for ten and more. -/
def digit? (base : Nat) (c : Char) : Option Nat :=
  let value :=
    if '0' ≤ c ∧ c ≤ '9' then c.toNat - '0'.toNat
    else if 'a' ≤ c ∧ c ≤ 'f' then c.toNat - 'a'.toNat + 10
    else if 'A' ≤ c ∧ c ≤ 'F' then c.toNat - 'A'.toNat + 10
    else base
  if value < base then some value else none

/-- The value of a non-empty string of digits in the given base. -/
def numeral? (base : Nat) : Text → Option Nat
  | [] => none
  | cs => cs.foldlM (fun n c => (digit? base c).map (base * n + ·)) 0

/-- The value of a non-empty string of decimal digits. -/
def decimal? (t : Text) : Option Nat :=
  numeral? 10 t

/-- The value of a count: digits with an optional plus, at most `2 ^ 64 - 1`. -/
def count? (t : Text) : Option Nat :=
  let value := match t with
    | '+' :: digits => decimal? digits
    | digits => decimal? digits
  value.filter (· ≤ 18446744073709551615)

/-- The value of an integer: digits with an optional sign, from `-2 ^ 63` up to `2 ^ 63 - 1`. -/
def integer? (t : Text) : Option Int :=
  let value : Option Int := match t with
    | '+' :: digits => (decimal? digits).map fun n => (n : Int)
    | '-' :: digits => (decimal? digits).map fun n => -(n : Int)
    | digits => (decimal? digits).map fun n => (n : Int)
  value.filter fun i => -9223372036854775808 ≤ i && i ≤ 9223372036854775807

end AffixSpeller.Text
