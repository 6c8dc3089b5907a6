/-
**Numbers and other scalars of TOML.**

Whole numbers are decimal, or hexadecimal, octal or binary behind `0x`, `0o` or `0b`, and fit into
64 bits with a sign. Other numbers have a fraction or an exponent, or are infinite or not a number;
one too large is refused, and one too small becomes infinite. Low lines may stand between digits.
-/

import Offside.Toml.Moment

namespace Offside.Toml

open Offside.Text (Reader)
open Offside.Text.Reader

/-! ### Digits -/

/-- Digits of a class, with low lines between them. -/
def digitsWithLines (isDigit : Char → Bool) : Reader (List Char) := do
  return (← separated1 (takeWhile1 isDigit) (exactly '_')).flatten

/-- The digits of a number that does not begin with a zero, or a single zero. -/
def plainDigits : Reader (List Char) := do
  match ← peek? with
  | some '0' =>
    exactly '0'
    return ['0']
  | _ => digitsWithLines Char.isDigit

/-! ### Whole numbers -/

/-- Checks that a number fits into 64 bits with a sign. -/
def within64 (value : Int) : Reader Value :=
  if -(Int.pow 2 63) ≤ value ∧ value < Int.pow 2 63 then return .integer value else failure

/-- A whole number in another base than ten. -/
def basedInteger (mark : Char) (base : Nat) (isDigit : Char → Bool) : Reader Value := do
  word ['0', mark]
  within64 (valueOf base (← digitsWithLines isDigit))

/-- A decimal whole number. -/
def decimalInteger : Reader Value := do
  let negative := (← optional? sign) == some '-'
  let magnitude := valueOf 10 (← plainDigits)
  within64 (if negative then -(magnitude : Int) else magnitude)

/-- A whole number. -/
def integer : Reader Value :=
  basedInteger 'x' 16 isHexDigit <|>
    basedInteger 'o' 8 (fun c => '0' ≤ c && c ≤ '7') <|>
    basedInteger 'b' 2 (fun c => c == '0' || c == '1') <|>
    decimalInteger

/-! ### Other numbers -/

/-- The digits of a fraction. -/
def fraction : Reader (List Char) := do
  exactly '.'
  digitsWithLines Char.isDigit

/-- An exponent. -/
def exponent : Reader Int := do
  let _ ← one fun c => c == 'e' || c == 'E'
  let negative := (← optional? sign) == some '-'
  let magnitude := valueOf 10 (← digitsWithLines Char.isDigit)
  return if negative then -(magnitude : Int) else magnitude

/-- A number with a fraction or an exponent. -/
def decimalFloat : Reader Value := do
  let negative := (← optional? sign) == some '-'
  let whole ← plainDigits
  let places ← optional? fraction
  let power ← optional? exponent
  if places.isNone && power.isNone then failure
  else
    let places := places.getD []
    let value :=
      Number.Binary64.ofDecimal negative (valueOf 10 (whole ++ places))
        (power.getD 0 - places.length)
    if value = .infinite false then failure else return .float value

/-- A number that has no digits. -/
def namedFloat : Reader Value := do
  let negative := (← optional? sign) == some '-'
  (do word ['i', 'n', 'f']; return .float (.infinite negative)) <|> do
    word ['n', 'a', 'n']
    return .float .notANumber

/-! ### Scalars -/

/-- A value that is not made of other values. -/
def scalar : Reader Value := do
  match ← peek? with
  | some '"' => return .text (← text)
  | some '\'' => return .text (← text)
  | some 't' =>
    word "true".toList
    return .truth true
  | some 'f' =>
    word "false".toList
    return .truth false
  | _ => (do return .moment (← momentText .written)) <|> decimalFloat <|> integer <|> namedFloat

end Offside.Toml
