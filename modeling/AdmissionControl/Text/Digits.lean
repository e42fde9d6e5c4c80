namespace AdmissionControl.Text

-- The value of an ASCII digit in a base of at most 16.
def digitValue? (base : Nat) (c : Char) : Option Nat :=
  let value? :=
    if '0' ≤ c ∧ c ≤ '9' then some (c.toNat - '0'.toNat)
    else if 'a' ≤ c ∧ c ≤ 'f' then some (c.toNat - 'a'.toNat + 10)
    else if 'A' ≤ c ∧ c ≤ 'F' then some (c.toNat - 'A'.toNat + 10)
    else none
  value?.filter (· < base)

def isDigit (base : Nat) (c : Char) : Bool :=
  (digitValue? base c).isSome

-- The number that a run of digits stands for, leading zeros included.
-- There is no such number for the empty run.
def natOfDigits? (base : Nat) (cs : List Char) : Option Nat :=
  if cs.isEmpty then none
  else cs.foldlM (fun total c => (digitValue? base c).map (total * base + ·)) 0

-- An optional plus sign before the digits.
def natOfSigned? (cs : List Char) : Option Nat :=
  match cs with
  | '+' :: digits => natOfDigits? 10 digits
  | digits => natOfDigits? 10 digits

-- An optional sign of either kind before the digits.
def intOfSigned? (cs : List Char) : Option Int :=
  match cs with
  | '-' :: digits => (natOfDigits? 10 digits).map fun n => -(n : Int)
  | cs => (natOfSigned? cs).map fun n => (n : Int)

def hexDigits (n : Nat) : List Char :=
  Nat.toDigits 16 n

def padLeft (width : Nat) (fill : Char) (cs : List Char) : List Char :=
  List.replicate (width - cs.length) fill ++ cs

end AdmissionControl.Text
