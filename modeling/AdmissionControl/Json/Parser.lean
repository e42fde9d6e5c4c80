import AdmissionControl.Json.Value
import AdmissionControl.Text.Digits

namespace AdmissionControl.Json

open Text

def skipSpace (cs : List Char) : List Char :=
  cs.dropWhile fun c => c == ' ' || c == '\t' || c == '\n' || c == '\r'

-- The number that four hexadecimal digits stand for, and what follows them.
def unit? (cs : List Char) : Option (Nat × List Char) := do
  let n ← natOfDigits? 16 (cs.take 4)
  if (cs.take 4).length = 4 then some (n, cs.drop 4) else none

def isScalar (n : Nat) : Bool :=
  n < 0xD800 || (0xDFFF < n && n < 0x110000)

-- The character of an escape, after its `\u`. Characters outside the first
-- plane take two escapes, a high and a low surrogate.
def escaped? (cs : List Char) : Option (Char × List Char) := do
  let (high, rest) ← unit? cs
  if isScalar high then return (Char.ofNat high, rest)
  match rest with
  | '\\' :: 'u' :: rest =>
    let (low, rest) ← unit? rest
    if high < 0xDC00 ∧ 0xDC00 ≤ low ∧ low < 0xE000 then
      return (Char.ofNat (0x10000 + (high - 0xD800) * 0x400 + (low - 0xDC00)), rest)
    else none
  | _ => none

-- The rest of a string whose opening quote has been read. `fuel` bounds the
-- number of characters looked at.
def stringBody (fuel : Nat) (cs : List Char) (read : List Char) : Option (String × List Char) :=
  match fuel, cs with
  | _, '"' :: rest => some (String.ofList read.reverse, rest)
  | fuel + 1, '\\' :: 'u' :: rest => do
    let (c, rest) ← escaped? rest
    stringBody fuel rest (c :: read)
  | fuel + 1, '\\' :: c :: rest =>
    match c with
    | '"' => stringBody fuel rest ('"' :: read)
    | '\\' => stringBody fuel rest ('\\' :: read)
    | '/' => stringBody fuel rest ('/' :: read)
    | 'b' => stringBody fuel rest ('\x08' :: read)
    | 'f' => stringBody fuel rest ('\x0c' :: read)
    | 'n' => stringBody fuel rest ('\n' :: read)
    | 'r' => stringBody fuel rest ('\r' :: read)
    | 't' => stringBody fuel rest ('\t' :: read)
    | _ => none
  | fuel + 1, c :: rest =>
    if c.toNat < 0x20 then none else stringBody fuel rest (c :: read)
  | _, _ => none

-- Digits without a needless leading zero.
def wholePart? (cs : List Char) : Option (List Char × List Char) :=
  let digits := cs.takeWhile (isDigit 10)
  let rest := cs.dropWhile (isDigit 10)
  match digits with
  | [] => none
  | ['0'] => some (digits, rest)
  | '0' :: _ => none
  | _ => some (digits, rest)

def fraction? : List Char → Option (List Char × List Char)
  | '.' :: cs =>
    let digits := cs.takeWhile (isDigit 10)
    if digits.isEmpty then none else some ('.' :: digits, cs.dropWhile (isDigit 10))
  | cs => some ([], cs)

def exponent? : List Char → Option (List Char × List Char)
  | c :: cs =>
    if c = 'e' ∨ c = 'E' then
      let (sign, cs) :=
        match cs with
        | '+' :: rest => (['+'], rest)
        | '-' :: rest => (['-'], rest)
        | cs => ([], cs)
      let digits := cs.takeWhile (isDigit 10)
      if digits.isEmpty then none
      else some (c :: (sign ++ digits), cs.dropWhile (isDigit 10))
    else some ([], c :: cs)
  | [] => some ([], [])

def number? (cs : List Char) : Option (Json × List Char) := do
  let (sign, cs) :=
    match cs with
    | '-' :: rest => (['-'], rest)
    | cs => ([], cs)
  let (whole, cs) ← wholePart? cs
  let (fraction, cs) ← fraction? cs
  let (exponent, cs) ← exponent? cs
  if fraction.isEmpty ∧ exponent.isEmpty then
    let magnitude ← natOfDigits? 10 whole
    if sign.isEmpty then return (.integer magnitude, cs)
    else if magnitude = 0 then return (.decimal "-0.0", cs)
    else return (.integer (-(magnitude : Int)), cs)
  else return (.decimal (String.ofList (sign ++ whole ++ fraction ++ exponent)), cs)

def word? (word : String) (value : Json) (cs : List Char) : Option (Json × List Char) :=
  if word.toList.isPrefixOf cs then some (value, cs.drop word.toList.length) else none

mutual

-- One value and what follows it. `fuel` bounds the number of values and
-- separators looked at.
def value? (fuel : Nat) (cs : List Char) : Option (Json × List Char) :=
  match fuel with
  | 0 => none
  | fuel + 1 =>
    match skipSpace cs with
    | '"' :: rest => (stringBody rest.length rest []).map fun (text, rest) => (.string text, rest)
    | '[' :: rest =>
      match skipSpace rest with
      | ']' :: rest => some (.array [], rest)
      | rest => (items? fuel rest).map fun (items, rest) => (.array items, rest)
    | '\x7b' :: rest =>
      match skipSpace rest with
      | '\x7d' :: rest => some (.object [], rest)
      | rest => (members? fuel rest).map fun (members, rest) => (ofMembers members, rest)
    | 't' :: rest => word? "true" (.bool true) ('t' :: rest)
    | 'f' :: rest => word? "false" (.bool false) ('f' :: rest)
    | 'n' :: rest => word? "null" .null ('n' :: rest)
    | rest => number? rest

def items? (fuel : Nat) (cs : List Char) : Option (List Json × List Char) :=
  match fuel with
  | 0 => none
  | fuel + 1 => do
    let (item, rest) ← value? fuel cs
    match skipSpace rest with
    | ',' :: rest =>
      let (items, rest) ← items? fuel rest
      return (item :: items, rest)
    | ']' :: rest => return ([item], rest)
    | _ => none

def members? (fuel : Nat) (cs : List Char) : Option (List (String × Json) × List Char) :=
  match fuel with
  | 0 => none
  | fuel + 1 => do
    match skipSpace cs with
    | '"' :: rest =>
      let (name, rest) ← stringBody rest.length rest []
      match skipSpace rest with
      | ':' :: rest =>
        let (value, rest) ← value? fuel rest
        match skipSpace rest with
        | ',' :: rest =>
          let (members, rest) ← members? fuel rest
          return ((name, value) :: members, rest)
        | '\x7d' :: rest => return ([(name, value)], rest)
        | _ => none
      | _ => none
    | _ => none

end

-- The value that the whole text spells, blanks around it aside.
def parse? (text : String) : Option Json :=
  let cs := text.toList
  match value? (cs.length + 1) cs with
  | some (value, rest) => if (skipSpace rest).isEmpty then some value else none
  | none => none

end AdmissionControl.Json
