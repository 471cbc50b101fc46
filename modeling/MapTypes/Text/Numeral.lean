/-!
Numbers in text. Reading accepts an optional sign and ASCII digits and nothing else: no blanks, no
separators, no value beyond the word it is meant for. Writing gives hexadecimal digits in lower
case. A duration is written in the largest unit that gives a whole part, with its fraction to the
nanosecond but without the zeros at the end.
-/

namespace MapTypes.Text

/-- The number a run of ASCII digits denotes in base ten. -/
def decimalValue (digits : List Char) : Nat :=
  digits.foldl (fun value digit => 10 * value + (digit.toNat - '0'.toNat)) 0

/-- Reads one or more ASCII digits. -/
def digits? (text : List Char) : Option Nat :=
  if text ≠ [] ∧ text.all Char.isDigit then some (decimalValue text) else none

/-- The number of values of a 64-bit word. -/
def wordSize : Nat := 0x10000000000000000

/-- Reads a number that fits a 64-bit word, with a plus sign or none. -/
def unsigned64? (text : String) : Option Nat :=
  let number := match text.toList with
    | '+' :: digits => digits? digits
    | digits => digits? digits
  number.filter (· < wordSize)

/-- The first number beyond the signed 64-bit words. -/
def signedLimit : Int := 0x8000000000000000

/-- Reads a number that fits a signed 64-bit word, with a sign or none. -/
def signed64? (text : String) : Option Int :=
  let number := match text.toList with
    | '-' :: digits => (digits? digits).map fun value => -(value : Int)
    | '+' :: digits => (digits? digits).map fun value => (value : Int)
    | digits => (digits? digits).map fun value => (value : Int)
  number.filter fun value => -signedLimit ≤ value ∧ value < signedLimit

/-- Hexadecimal digits in lower case, without leading zeros. -/
def hexDigits (number : Nat) : List Char :=
  Nat.toDigits 16 number

/-- Hexadecimal digits in lower case, padded with zeros to a width. -/
def paddedHex (width number : Nat) : String :=
  let digits := hexDigits number
  String.ofList (List.replicate (width - digits.length) '0' ++ digits)

/-- The digits of a fraction after the point, given as `part` of `10 ^ places`; nothing for zero. -/
def fractionDigits (places part : Nat) : String :=
  if part = 0 then ""
  else
    let digits := Nat.toDigits 10 part
    let padded := List.replicate (places - digits.length) '0' ++ digits
    "." ++ String.ofList (padded.reverse.dropWhile (· == '0')).reverse

/-- A number of nanoseconds in a unit of `10 ^ places` nanoseconds. -/
def durationIn (places : Nat) (unit : String) (nanoseconds : Nat) : String :=
  let whole := Nat.pow 10 places
  Nat.repr (nanoseconds / whole) ++ fractionDigits places (nanoseconds % whole) ++ unit

/-- A number of nanoseconds. -/
def duration (nanoseconds : Nat) : String :=
  if nanoseconds < 1000 then durationIn 0 "ns" nanoseconds
  else if nanoseconds < 1000000 then durationIn 3 "µs" nanoseconds
  else if nanoseconds < 1000000000 then durationIn 6 "ms" nanoseconds
  else durationIn 9 "s" nanoseconds

end MapTypes.Text
