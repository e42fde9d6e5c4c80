namespace AdmissionControl.Text

-- For each character of the first list, the place of the first equal character
-- of the second that is near enough and not yet taken.
def nearMatches (range : Nat) (b : List Char) :
    Nat → List Nat → List Char → List (Char × Nat)
  | _, _, [] => []
  | i, taken, c :: rest =>
    let fits (j : Nat) : Bool :=
      i - range ≤ j && j ≤ i + range && !taken.contains j && b[j]? == some c
    match (List.range b.length).find? fits with
    | some j => (c, j) :: nearMatches range b (i + 1) (j :: taken) rest
    | none => nearMatches range b (i + 1) taken rest

-- The Jaro likeness of two texts, from 0 to 1, as a fraction.
def likeness (a b : List Char) : Nat × Nat :=
  let range := max a.length b.length / 2 - 1
  let found := nearMatches range b 0 [] a
  let matched := found.length
  if matched = 0 then (0, 1)
  else
    let inOrder := (List.range b.length).filter fun j => found.any (·.2 == j)
    let pairs := found.zip inOrder
    let moved := (pairs.filter fun ((c, _), j) => b[j]? != some c).length / 2
    let numerator :=
      matched * matched * b.length + matched * matched * a.length +
        (matched - moved) * a.length * b.length
    (numerator, 3 * a.length * b.length * matched)

-- Whether one fraction is less than another.
def fractionLt (a b : Nat × Nat) : Bool := a.1 * b.2 < b.1 * a.2

-- The candidate that is most like the text, if any is like enough.
def mostLike? (text : String) (candidates : List String) : Option String :=
  let scored := candidates.map fun candidate => (candidate, likeness text.toList candidate.toList)
  let close := scored.filter fun (_, score) => fractionLt (7, 10) score
  (close.foldl (fun best next =>
    match best with
    | none => some next
    | some held => if fractionLt next.2 held.2 then some held else some next) none).map Prod.fst

end AdmissionControl.Text
