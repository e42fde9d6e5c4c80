import AdmissionControl.Settings.Document
import AdmissionControl.Toml.Lexeme

namespace AdmissionControl.Toml

open Settings Text

-- Digits, with single underscores allowed between them. The underscores are
-- left out of what is found.
def digitRun? (base : Nat) (cs : List Char) : Option (List Char × List Char) :=
  match cs with
  | [] => none
  | c :: rest =>
    if isDigit base c then some (go c rest)
    else none
where
  go (c : Char) : List Char → List Char × List Char
    | '_' :: d :: rest =>
      if isDigit base d then
        let (digits, rest) := go d rest
        (c :: digits, rest)
      else ([c], '_' :: d :: rest)
    | d :: rest =>
      if isDigit base d then
        let (digits, rest) := go d rest
        (c :: digits, rest)
      else ([c], d :: rest)
    | [] => ([c], [])

def sign (cs : List Char) : Bool × List Char :=
  match cs with
  | '-' :: rest => (true, rest)
  | '+' :: rest => (false, rest)
  | cs => (false, cs)

-- A decimal number has no leading zero, but it may be zero.
def decimalDigits? (cs : List Char) : Option (List Char × List Char) :=
  match cs with
  | '0' :: rest => some (['0'], rest)
  | cs => digitRun? 10 cs

def inRange (n : Int) : Bool := Int64.minValue.toInt ≤ n && n ≤ Int64.maxValue.toInt

def based? (base : Nat) (cs : List Char) : Option (Document × List Char) := do
  let (digits, rest) ← digitRun? base cs
  let n ← natOfDigits? base digits
  if inRange n then some (.integer n, rest) else none

def integer? (cs : List Char) : Option (Document × List Char) :=
  match cs with
  | '0' :: 'x' :: rest => based? 16 rest
  | '0' :: 'o' :: rest => based? 8 rest
  | '0' :: 'b' :: rest => based? 2 rest
  | cs => do
    let (negative, rest) := sign cs
    let (digits, rest) ← decimalDigits? rest
    let n ← natOfDigits? 10 digits
    let n : Int := if negative then -(n : Int) else n
    if inRange n then some (.integer n, rest) else none

-- An exponent, if there is one. Without one, ten is to be raised to zero.
def exponent? (cs : List Char) : Option (Option Int × List Char) :=
  match cs with
  | c :: rest =>
    if c = 'e' ∨ c = 'E' then do
      let (negative, rest) := sign rest
      let (digits, rest) ← digitRun? 10 rest
      let n ← natOfDigits? 10 digits
      return (some (if negative then -(n : Int) else n), rest)
    else some (none, cs)
  | [] => some (none, [])

-- The least number that is too large for a double: halfway between the largest
-- finite one and the next power of two.
def overflowBound : Nat := (1 <<< 1024) - (1 <<< 970)

-- Whether a decimal number is finite as a double. Beyond 400 places before or
-- after the point its digits make no difference.
def isFinite (digits : Nat) (places : Nat) (exponent : Int) : Bool :=
  let length : Int := (Nat.toDigits 10 digits).length
  let shift := exponent - places
  if digits = 0 then true
  else if 400 < length + shift then false
  else if length + shift < -400 then true
  else if 0 ≤ shift then digits * Nat.pow 10 shift.toNat < overflowBound
  else digits < overflowBound * Nat.pow 10 (-shift).toNat

-- A number with a fraction, an exponent or both. One that is too large is
-- refused, one that is too small is not.
def real? (cs : List Char) : Option (Document × List Char) := do
  let (negative, rest) := sign cs
  let (whole, rest) ← decimalDigits? rest
  let (fraction, rest) ←
    match rest with
    | '.' :: rest => (digitRun? 10 rest).map fun (digits, rest) => (some digits, rest)
    | rest => some (none, rest)
  let (exponent, rest) ← exponent? rest
  if fraction.isNone ∧ exponent.isNone then none
  else
    let places := (fraction.getD []).length
    let digits ← natOfDigits? 10 (whole ++ fraction.getD [])
    if negative ∨ isFinite digits places (exponent.getD 0) then some (.real, rest) else none

def specialReal? (cs : List Char) : Option (Document × List Char) :=
  match (sign cs).2 with
  | 'i' :: 'n' :: 'f' :: rest => some (.real, rest)
  | 'n' :: 'a' :: 'n' :: rest => some (.real, rest)
  | _ => none

-- A number of exactly so many digits, within bounds.
def fixed? (width low high : Nat) (cs : List Char) : Option (Nat × List Char) := do
  let n ← natOfDigits? 10 (cs.take width)
  if (cs.take width).length = width ∧ low ≤ n ∧ n ≤ high then some (n, cs.drop width)
  else none

def expect? (c : Char) (cs : List Char) : Option (List Char) :=
  if cs.head? = some c then some cs.tail else none

def isLeapYear (year : Nat) : Bool :=
  (year % 4 == 0 && year % 100 != 0) || year % 400 == 0

def daysIn (year month : Nat) : Nat :=
  if month = 2 then (if isLeapYear year then 29 else 28)
  else if month = 4 ∨ month = 6 ∨ month = 9 ∨ month = 11 then 30
  else 31

def date? (cs : List Char) : Option (List Char) := do
  let (year, rest) ← fixed? 4 0 9999 cs
  let (month, rest) ← fixed? 2 1 12 (← expect? '-' rest)
  let (_, rest) ← fixed? 2 1 (daysIn year month) (← expect? '-' rest)
  return rest

-- Hours, minutes and seconds, the last perhaps with a fraction. A leap second
-- is a second like any other.
def time? (cs : List Char) : Option (List Char) := do
  let (_, rest) ← fixed? 2 0 23 cs
  let (_, rest) ← fixed? 2 0 59 (← expect? ':' rest)
  let (_, rest) ← fixed? 2 0 60 (← expect? ':' rest)
  match rest with
  | '.' :: after =>
    let digits := after.takeWhile (isDigit 10)
    return if digits.isEmpty then rest else after.dropWhile (isDigit 10)
  | rest => return rest

def offset? (cs : List Char) : Option (List Char) :=
  match cs with
  | 'Z' :: rest => some rest
  | 'z' :: rest => some rest
  | c :: rest =>
    if c = '+' ∨ c = '-' then do
      let (_, rest) ← fixed? 2 0 23 rest
      let (_, rest) ← fixed? 2 0 59 (← expect? ':' rest)
      return rest
    else none
  | [] => none

-- A date, a time, or a date with a time and perhaps an offset.
def moment? (cs : List Char) : Option (Document × List Char) :=
  match date? cs with
  | some rest =>
    let timed :=
      match rest with
      | c :: after => if c = 'T' ∨ c = 't' ∨ c = ' ' then time? after else none
      | [] => none
    match timed with
    | some after => some (.moment, (offset? after).getD after)
    | none => some (.moment, rest)
  | none => (time? cs).map fun rest => (.moment, rest)

def word? (word : String) (value : Document) (cs : List Char) : Option (Document × List Char) :=
  if word.toList.isPrefixOf cs then some (value, cs.drop word.toList.length) else none

def scalar? (cs : List Char) : Option (Document × List Char) :=
  match cs with
  | 't' :: _ => word? "true" (.boolean true) cs
  | 'f' :: _ => word? "false" (.boolean false) cs
  | cs => moment? cs <|> real? cs <|> specialReal? cs <|> integer? cs

end AdmissionControl.Toml
