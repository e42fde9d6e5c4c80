namespace AdmissionControl.Text

-- The 25 characters of Unicode's White_Space property. Zero-width spaces,
-- the byte-order mark and the C0 separators are not among them.
def isBlank (c : Char) : Bool :=
  let n := c.toNat
  (9 ≤ n && n ≤ 13) || n == 0x20 || n == 0x85 || n == 0xA0 || n == 0x1680 ||
    (0x2000 ≤ n && n ≤ 0x200A) || n == 0x2028 || n == 0x2029 || n == 0x202F ||
    n == 0x205F || n == 0x3000

def dropBlanks (cs : List Char) : List Char :=
  cs.dropWhile isBlank

def trimChars (cs : List Char) : List Char :=
  (dropBlanks (dropBlanks cs).reverse).reverse

-- The text without the blanks at either end.
def trim (s : String) : String :=
  String.ofList (trimChars s.toList)

-- The trimmed text, if anything is left of it.
def nonBlank? (s : String) : Option String :=
  let trimmed := trim s
  if trimmed.isEmpty then none else some trimmed

end AdmissionControl.Text
