import AdmissionControl.Text.Digits

namespace AdmissionControl.Toml

open Text

-- A reader gives what it has found and the text that follows it.

def isSpace (c : Char) : Bool := c == ' ' || c == '\t'

def skipSpace (cs : List Char) : List Char := cs.dropWhile isSpace

def newline? : List Char → Option (List Char)
  | '\n' :: rest => some rest
  | '\r' :: '\n' :: rest => some rest
  | _ => none

-- Tabs and everything that is not an ASCII control.
def isPlain (c : Char) : Bool := c == '\t' || (0x20 ≤ c.toNat && c.toNat != 0x7F)

-- A comment runs to the end of its line.
def skipComment (cs : List Char) : List Char :=
  match cs with
  | '#' :: rest => rest.dropWhile isPlain
  | cs => cs

-- The rest of a line on which nothing but a comment may follow.
def lineEnd? (cs : List Char) : Option (List Char) :=
  match skipComment (skipSpace cs) with
  | [] => some []
  | rest => newline? rest

-- Blanks, line ends and comments. Each line of them takes at least one
-- character, so `fuel` need not exceed the length of the text.
def skipLines (fuel : Nat) (cs : List Char) : List Char :=
  match fuel with
  | 0 => cs
  | fuel + 1 =>
    let start := skipSpace cs
    match newline? (skipComment start) with
    | some rest => skipLines fuel rest
    | none => start

def isScalarValue (n : Nat) : Bool := n < 0xD800 || (0xDFFF < n && n < 0x110000)

def codePoint? (digits : Nat) (cs : List Char) : Option (Char × List Char) := do
  let n ← natOfDigits? 16 (cs.take digits)
  if (cs.take digits).length = digits ∧ isScalarValue n then some (Char.ofNat n, cs.drop digits)
  else none

-- The character that an escape stands for, after its backslash.
def escape? : List Char → Option (Char × List Char)
  | 'b' :: rest => some ('\x08', rest)
  | 'f' :: rest => some ('\x0c', rest)
  | 'n' :: rest => some ('\n', rest)
  | 'r' :: rest => some ('\r', rest)
  | 't' :: rest => some ('\t', rest)
  | '"' :: rest => some ('"', rest)
  | '\\' :: rest => some ('\\', rest)
  | 'u' :: rest => codePoint? 4 rest
  | 'U' :: rest => codePoint? 8 rest
  | _ => none

-- How a string is delimited, and whether a backslash has a meaning in it.
structure Quoting where
  mark : Char
  escapes : Bool

def basic : Quoting := ⟨'"', true⟩
def literal : Quoting := ⟨'\x27', false⟩

-- The rest of a string on one line, after its opening mark.
def lineString? (quoting : Quoting) (fuel : Nat) (cs : List Char) (held : List Char) :
    Option (String × List Char) :=
  match fuel, cs with
  | fuel + 1, c :: rest =>
    if c = quoting.mark then some (String.ofList held.reverse, rest)
    else if c = '\\' ∧ quoting.escapes then do
      let (c, rest) ← escape? rest
      lineString? quoting fuel rest (c :: held)
    else if isPlain c then lineString? quoting fuel rest (c :: held)
    else none
  | _, _ => none

-- What follows blanks and line ends.
def skipBlankLines : List Char → List Char
  | '\r' :: '\n' :: rest => skipBlankLines rest
  | c :: rest => if isSpace c ∨ c = '\n' then skipBlankLines rest else c :: rest
  | [] => []

-- A backslash at the end of a line swallows the line end and all blanks after it.
def swallowed? (cs : List Char) : Option (List Char) :=
  (newline? (skipSpace cs)).map skipBlankLines

-- The rest of a string over several lines. Three marks close it. Up to two
-- more marks right before them belong to the string.
def blockString? (quoting : Quoting) (fuel : Nat) (cs : List Char) (held : List Char) :
    Option (String × List Char) :=
  match fuel, cs with
  | fuel + 1, c :: rest =>
    if c = quoting.mark then
      let marks := (cs.takeWhile (· == quoting.mark)).length
      if 3 ≤ marks then
        let extra := min (marks - 3) 2
        let text := (List.replicate extra quoting.mark ++ held).reverse
        some (String.ofList text, cs.drop (extra + 3))
      else blockString? quoting fuel rest (c :: held)
    else if c = '\\' ∧ quoting.escapes then
      match swallowed? rest with
      | some rest => blockString? quoting fuel rest held
      | none => do
        let (c, rest) ← escape? rest
        blockString? quoting fuel rest (c :: held)
    else
      match newline? cs with
      | some rest => blockString? quoting fuel rest ('\n' :: held)
      | none => if isPlain c then blockString? quoting fuel rest (c :: held) else none
  | _, _ => none

-- A line end right after the opening marks does not count.
def block? (quoting : Quoting) (cs : List Char) : Option (String × List Char) :=
  let cs := (newline? cs).getD cs
  blockString? quoting cs.length cs []

def string? (cs : List Char) : Option (String × List Char) :=
  match cs with
  | '"' :: '"' :: '"' :: rest => block? basic rest
  | '"' :: rest => lineString? basic rest.length rest []
  | '\x27' :: '\x27' :: '\x27' :: rest => block? literal rest
  | '\x27' :: rest => lineString? literal rest.length rest []
  | _ => none

def isBareKeyChar (c : Char) : Bool := c.isAlphanum || c == '-' || c == '_'

def simpleKey? (cs : List Char) : Option (String × List Char) :=
  match cs with
  | '"' :: rest => lineString? basic rest.length rest []
  | '\x27' :: rest => lineString? literal rest.length rest []
  | cs =>
    let key := cs.takeWhile isBareKeyChar
    if key.isEmpty then none else some (String.ofList key, cs.dropWhile isBareKeyChar)

-- The most parts of a key and the most levels of nesting are one less.
def depthLimit : Nat := 80

-- The parts of a key, with points between them and blanks around them.
def keyParts? (fuel : Nat) (cs : List Char) : Option (List String × List Char) :=
  match fuel with
  | 0 => none
  | fuel + 1 => do
    let (part, rest) ← simpleKey? (skipSpace cs)
    match skipSpace rest with
    | '.' :: rest =>
      let (parts, rest) ← keyParts? fuel rest
      return (part :: parts, rest)
    | rest => return ([part], rest)

def key? (cs : List Char) : Option (List String × List Char) := keyParts? (depthLimit - 1) cs

end AdmissionControl.Toml
