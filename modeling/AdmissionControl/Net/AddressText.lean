import AdmissionControl.Net.Address
import AdmissionControl.Text.Digits

namespace AdmissionControl.Net.Address

open Text

def quadText (octets : List Nat) : List Char :=
  (".".intercalate (octets.map toString)).toList

def groupText (groups : List Nat) : List Char :=
  (":".intercalate (groups.map fun group => String.ofList (hexDigits group))).toList

-- The length of the run of zeros at the head.
def zeroRun (groups : List Nat) : Nat := (groups.takeWhile (· == 0)).length

-- Where the first of the longest runs of zeros starts, and how long it is.
def longestZeroRun (start : Nat) : List Nat → Nat × Nat
  | [] => (start, 0)
  | group :: groups =>
    let here := zeroRun (group :: groups)
    let (laterStart, later) := longestZeroRun (start + 1) groups
    if later ≤ here then (start, here) else (laterStart, later)

-- A run of two or more zero groups is left out, the first of the longest.
def v6Text (groups : List Nat) : List Char :=
  let (start, length) := longestZeroRun 0 groups
  if 2 ≤ length then
    groupText (groups.take start) ++ ':' :: ':' :: groupText (groups.drop (start + length))
  else groupText groups

-- Addresses that embed an IPv4 address in the standard place end in a quad.
def chars : Address → List Char
  | .v4 bits => quadText (octets bits)
  | .v6 bits =>
    if (groups bits).take 6 = [0, 0, 0, 0, 0, 0xffff] then
      "::ffff:".toList ++ quadText (octets (bits.setWidth 32))
    else v6Text (groups bits)

def text (address : Address) : String := String.ofList address.chars

end AdmissionControl.Net.Address
