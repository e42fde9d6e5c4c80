import AdmissionControl.Text.Blank

namespace AdmissionControl.Text

-- The pieces between the characters that satisfy `p`. There is always one
-- piece more than there are separators, so the empty text has one empty piece.
def splitBy (p : Char → Bool) : List Char → List (List Char)
  | [] => [[]]
  | c :: cs =>
    if p c then [] :: splitBy p cs
    else
      match splitBy p cs with
      | [] => [[c]]
      | piece :: pieces => (c :: piece) :: pieces

def splitOnChar (separator : Char) (cs : List Char) : List (List Char) :=
  splitBy (· == separator) cs

-- What stands before and after the first occurrence of `separator`.
def cutAt? (separator : Char) : List Char → Option (List Char × List Char)
  | [] => none
  | c :: cs =>
    if c = separator then some ([], cs)
    else (cutAt? separator cs).map fun (before, after) => (c :: before, after)

-- The same for a separator of two characters.
def cutAtPair? (first second : Char) : List Char → Option (List Char × List Char)
  | [] => none
  | c :: cs =>
    if c = first ∧ cs.head? = some second then some ([], cs.tail)
    else (cutAtPair? first second cs).map fun (before, after) => (c :: before, after)

-- What stands before and after the last occurrence of `separator`.
def cutAtLast? (separator : Char) (cs : List Char) : Option (List Char × List Char) :=
  (cutAt? separator cs.reverse).map fun (after, before) => (before.reverse, after.reverse)

-- The maximal runs of characters that are not blank.
def words (cs : List Char) : List (List Char) :=
  (splitBy isBlank cs).filter (!·.isEmpty)

end AdmissionControl.Text
