/-
**Moments of TOML.**

A moment is a date, a time of day or both, and with both perhaps an offset. Its text is brought into
one form: `T` between date and time, `Z` for the zero offset by name, an offset of less than sixty
minutes beside the hours, and a fraction of a second of up to nine digits without zeros at the end.

A moment is written as it is in a document. A text inside a document may stand for a moment too:
`Value.revealMoments` finds the tables that have such a text under a key of their own.
-/

import Offside.Toml.Text
import Offside.Toml.Value

namespace Offside.Toml

open Offside.Text (Reader)
open Offside.Text.Reader

/-- The number that digits stand for in a base. -/
def valueOf (base : Nat) (digits : List Char) : Nat :=
  digits.foldl (fun value digit => base * value + Unicode.hexValue [digit]) 0

/-- A sign. -/
def sign : Reader Char := one fun c => c == '+' || c == '-'

/-- How far the parts of a moment may go. -/
structure MomentLimits where
  hour : Nat
  offsetHour : Nat
  offsetMinute : Nat

/-- The limits of a moment that is written in a document. -/
def MomentLimits.written : MomentLimits := ⟨23, 23, 59⟩

/-- The limits of a moment that a text stands for. -/
def MomentLimits.quoted : MomentLimits := ⟨24, 99, 99⟩

/-- A number of two digits within bounds. -/
def twoDigits (low high : Nat) : Reader Nat := do
  let value := valueOf 10 (← exactlyMany Char.isDigit 2)
  if low ≤ value ∧ value ≤ high then return value else failure

/-- A number in the given number of digits at least. -/
def padded (width value : Nat) : List Char :=
  let digits := Nat.toDigits 10 value
  List.replicate (width - digits.length) '0' ++ digits

/-- Whether a year has a leap day. -/
def isLeapYear (year : Nat) : Bool := (year % 4 == 0 && year % 100 != 0) || year % 400 == 0

/-- The number of days in a month. -/
def daysIn (year month : Nat) : Nat :=
  if month = 2 then if isLeapYear year then 29 else 28
  else if [4, 6, 9, 11].contains month then 30 else 31

/-- A date. -/
def date : Reader (List Char) := do
  let year := valueOf 10 (← exactlyMany Char.isDigit 4)
  exactly '-'
  let month ← twoDigits 1 12
  exactly '-'
  let day ← twoDigits 1 31
  if day ≤ daysIn year month then
    return padded 4 year ++ '-' :: padded 2 month ++ '-' :: padded 2 day
  else failure

/-- The fraction of a second, cut to nine digits, without zeros at the end. -/
def secondFraction : Reader (List Char) := do
  exactly '.'
  let digits := (← takeWhile1 Char.isDigit).take 9
  let significant := (digits.reverse.dropWhile (· == '0')).reverse
  return if significant.isEmpty then [] else '.' :: significant

/-- A time of day; a minute may have a leap second. -/
def timeOfDay (limits : MomentLimits) : Reader (List Char) := do
  let hour ← twoDigits 0 limits.hour
  exactly ':'
  let minute ← twoDigits 0 59
  exactly ':'
  let second ← twoDigits 0 60
  let fraction := (← optional? secondFraction).getD []
  return padded 2 hour ++ ':' :: padded 2 minute ++ ':' :: padded 2 second ++ fraction

/-- An offset from universal time, of a day at most. -/
def offset (limits : MomentLimits) : Reader (List Char) :=
  (do
    let _ ← one fun c => c == 'Z' || c == 'z'
    return ['Z']) <|> do
    let direction ← sign
    let hour ← twoDigits 0 limits.offsetHour
    exactly ':'
    let minute ← twoDigits 0 limits.offsetMinute
    let minutes := 60 * hour + minute
    if minutes ≤ 24 * 60 then
      return (if minutes = 0 then '+' else direction) ::
        padded 2 (minutes / 60) ++ ':' :: padded 2 (minutes % 60)
    else failure

/-- A time of day after a date, with an offset if there is one. -/
def timeAfterDate (limits : MomentLimits) : Reader (List Char) := do
  let _ ← one fun c => c == 'T' || c == 't' || c == ' '
  let time ← timeOfDay limits
  return 'T' :: time ++ (← optional? (offset limits)).getD []

/-- A moment, in its one form. -/
def momentText (limits : MomentLimits) : Reader (List Char) :=
  (do return (← date) ++ (← optional? (timeAfterDate limits)).getD []) <|> timeOfDay limits

/-! ### Texts that stand for moments -/

/-- The key of a text that stands for a moment. -/
def momentKey : String := "$__toml_private_datetime"

namespace Value

/-- The moment that a text stands for. -/
def asMoment? : Value → Option Value
  | .text chars => (readAll? (momentText .quoted) chars).map .moment
  | _ => none

mutual

/-- Puts moments in the place of the tables whose first key is `momentKey`; what such a table holds
under other keys is left out. Nothing has a meaning if one of them holds no moment. -/
def revealMoments : Value → Option Value
  | .array items => (revealItems items).map .array
  | .tables items => (revealItems items).map .tables
  | .table form ((key, value) :: rest) =>
    if key = momentKey then value.asMoment?
    else do
      let value ← revealMoments value
      return .table form ((key, value) :: (← revealEntries rest))
  | value => some value

/-- Puts moments into the values of a list. -/
def revealItems : List Value → Option (List Value)
  | [] => some []
  | item :: rest => do return (← revealMoments item) :: (← revealItems rest)

/-- Puts moments into the values of entries. -/
def revealEntries : List (String × Value) → Option (List (String × Value))
  | [] => some []
  | (key, value) :: rest => do return (key, ← revealMoments value) :: (← revealEntries rest)

end

end Value

end Offside.Toml
