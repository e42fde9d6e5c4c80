import AdmissionControl.Json.Parser
import AdmissionControl.Json.Printer
import AdmissionControl.Proofs.Json.Members
import AdmissionControl.Proofs.Text.Numerals
import Mathlib.Tactic.IntervalCases

namespace AdmissionControl.Json

open Text

section Numbers

theorem digitValue?_digitChar : ∀ d < 10, digitValue? 10 d.digitChar = some d := by decide

theorem natOfDigits?_toDigits (n : Nat) : natOfDigits? 10 (Nat.toDigits 10 n) = some n :=
  (natOfDigits?_eq_some_iff_numeral (by decide) (by decide)).mpr
    (numeral_toDigits (by decide) (by decide) n)

theorem exists_head_toDigits (n : Nat) :
    ∃ d < 10, ∃ digits, Nat.toDigits 10 n = Nat.digitChar d :: digits := by
  obtain ⟨c, digits, hdigits⟩ :=
    List.exists_cons_of_ne_nil (Nat.toDigits_ne_nil (n := n) (b := 10))
  have hc : c ∈ Nat.toDigits 10 n := hdigits ▸ List.mem_cons_self ..
  obtain ⟨d, hd, rfl⟩ := exists_digit_of_mem_toDigits (by decide) hc
  exact ⟨d, hd, digits, hdigits⟩

-- What may stand after a number without being taken for a part of it.
def EndsNumber (rest : List Char) : Prop :=
  ∀ c ∈ rest.head?, isDigit 10 c = false ∧ c ≠ '.' ∧ c ≠ 'e' ∧ c ≠ 'E'

theorem endsNumber_cons {c : Char} (hc : c ∈ [',', ']', '\x7d']) (rest : List Char) :
    EndsNumber (c :: rest) := by
  rintro _ ⟨⟩
  simp only [List.mem_cons, List.not_mem_nil, or_false] at hc
  rcases hc with rfl | rfl | rfl <;> decide

variable {rest : List Char}

theorem span_toDigits (n : Nat) (hrest : EndsNumber rest) :
    (Nat.toDigits 10 n ++ rest).takeWhile (isDigit 10) = Nat.toDigits 10 n ∧
    (Nat.toDigits 10 n ++ rest).dropWhile (isDigit 10) = rest := by
  have hdigits : ∀ c ∈ Nat.toDigits 10 n, isDigit 10 c = true := by
    intro c hc
    obtain ⟨d, hd, rfl⟩ := exists_digit_of_mem_toDigits (by decide) hc
    simp [isDigit, digitValue?_digitChar d hd]
  rw [List.takeWhile_append_of_pos hdigits, List.dropWhile_append_of_pos hdigits]
  cases rest with
  | nil => simp
  | cons c rest => simp [(hrest c rfl).1]

theorem wholePart?_toDigits (n : Nat) (hrest : EndsNumber rest) :
    wholePart? (Nat.toDigits 10 n ++ rest) = some (Nat.toDigits 10 n, rest) := by
  obtain ⟨htake, hdrop⟩ := span_toDigits n hrest
  simp only [wholePart?, htake, hdrop]
  by_cases hn : n = 0
  · subst hn
    rfl
  · have hhead := head?_toDigits_ne_zero (show 1 < 10 by decide) hn
    split
    · rename_i hnil
      exact absurd hnil Nat.toDigits_ne_nil
    · rfl
    · rename_i hzero
      rw [hzero] at hhead
      exact absurd rfl hhead
    · rfl

theorem fraction?_of_endsNumber (hrest : EndsNumber rest) : fraction? rest = some ([], rest) := by
  cases rest with
  | nil => rfl
  | cons c rest => simp [fraction?, hrest c rfl]

theorem exponent?_of_endsNumber (hrest : EndsNumber rest) : exponent? rest = some ([], rest) := by
  cases rest with
  | nil => rfl
  | cons c rest => simp [exponent?, hrest c rfl]

theorem toList_toString_int (i : Int) :
    (∃ n : Nat, i = n ∧ (toString i).toList = Nat.toDigits 10 n) ∨
    ∃ n : Nat, n ≠ 0 ∧ i = -(n : Int) ∧ (toString i).toList = '-' :: Nat.toDigits 10 n := by
  rw [Int.toString_eq_repr, Int.repr_eq_if]
  split
  · exact Or.inl ⟨i.toNat, by omega, by simp⟩
  · exact Or.inr ⟨(-i).toNat, by omega, by omega, by simp⟩

theorem number?_toString (i : Int) (hrest : EndsNumber rest) :
    number? ((toString i).toList ++ rest) = some (.integer i, rest) := by
  have hfraction := fraction?_of_endsNumber hrest
  have hexponent := exponent?_of_endsNumber hrest
  rcases toList_toString_int i with ⟨n, rfl, hdigits⟩ | ⟨n, hn, rfl, hdigits⟩
  · obtain ⟨d, hd, digits, hhead⟩ := exists_head_toDigits n
    have hunsigned : ∀ d < 10, Nat.digitChar d ≠ '-' := by decide
    have hwhole := wholePart?_toDigits n hrest
    have hvalue := natOfDigits?_toDigits n
    rw [hhead, List.cons_append] at hwhole
    rw [hhead] at hvalue
    rw [hdigits, hhead, List.cons_append]
    simp [number?, hwhole, hfraction, hexponent, hvalue, hunsigned d hd]
  · rw [hdigits]
    simp [number?, wholePart?_toDigits n hrest, hfraction, hexponent, natOfDigits?_toDigits, hn]

def StartsNumber (c : Char) : Prop := c = '-' ∨ ∃ d < 10, c = Nat.digitChar d

theorem startsNumber_toString (i : Int) :
    ∃ c cs, StartsNumber c ∧ (toString i).toList = c :: cs := by
  rcases toList_toString_int i with ⟨n, -, hdigits⟩ | ⟨n, -, -, hdigits⟩
  · obtain ⟨d, hd, digits, hhead⟩ := exists_head_toDigits n
    exact ⟨_, _, Or.inr ⟨d, hd, rfl⟩, hdigits.trans hhead⟩
  · exact ⟨_, _, Or.inl rfl, hdigits⟩

-- Only a number starts like this, so the reader takes it for one.
theorem value?_of_startsNumber {c : Char} (hc : StartsNumber c) (fuel : Nat) (cs : List Char) :
    value? (fuel + 1) (c :: cs) = number? (c :: cs) := by
  obtain rfl | ⟨d, hd, rfl⟩ := hc
  · rfl
  · interval_cases d <;> rfl

end Numbers

section Strings

theorem unit?_hexDigits {n : Nat} (hn : n < 32) (rest : List Char) :
    unit? (padLeft 4 '0' (hexDigits n) ++ rest) = some (n, rest) := by
  interval_cases n <;> rfl

theorem stringBody_escape (c : Char) (fuel : Nat) (rest read : List Char) :
    stringBody (fuel + 1) (escape c ++ rest) read = stringBody fuel rest (c :: read) := by
  unfold escape
  split
  any_goals rfl
  split
  · rename_i hcontrol
    have hscalar : isScalar c.toNat = true := by
      simp only [isScalar, Bool.or_eq_true, decide_eq_true_eq]
      omega
    simp [stringBody, escaped?, unit?_hexDigits hcontrol, hscalar]
  · -- the reader's cases overlap, and this character is in none but the last
    rw [List.singleton_append, stringBody.eq_def]
    split <;> simp_all

theorem stringBody_flatMap_escape (cs : List Char) {fuel : Nat} (rest read : List Char)
    (hfuel : cs.length ≤ fuel) :
    stringBody fuel (cs.flatMap escape ++ '"' :: rest) read =
      some (String.ofList (read.reverse ++ cs), rest) := by
  induction cs generalizing fuel read with
  | nil => simp [stringBody]
  | cons c cs ih =>
      cases fuel with
      | zero => simp at hfuel
      | succ fuel =>
          rw [List.flatMap_cons, List.append_assoc, stringBody_escape,
            ih (c :: read) (by simpa using hfuel)]
          simp

theorem length_le_flatMap_escape (cs : List Char) : cs.length ≤ (cs.flatMap escape).length := by
  induction cs with
  | nil => simp
  | cons c cs ih =>
      have hescape : 1 ≤ (escape c).length := by
        unfold escape
        split
        any_goals simp
        split <;> simp
      rw [List.flatMap_cons, List.length_append, List.length_cons]
      omega

-- What follows the opening quote of a quoted text is read as the text.
theorem stringBody_quoted (text : String) (rest : List Char) :
    stringBody (text.toList.flatMap escape ++ '"' :: rest).length
      (text.toList.flatMap escape ++ '"' :: rest) [] = some (text, rest) := by
  have hlength := length_le_flatMap_escape text.toList
  rw [stringBody_flatMap_escape _ _ _ (by rw [List.length_append]; omega)]
  simp

end Strings

theorem exists_head_chars {value : Json} (h : value.Canonical) :
    ∃ c cs, value.chars = c :: cs ∧ c ∉ [' ', '\t', '\n', '\r', ']'] := by
  cases value with
  | null => exact ⟨_, _, rfl, by decide⟩
  | bool value => cases value <;> exact ⟨_, _, rfl, by decide⟩
  | integer i =>
      obtain ⟨c, cs, hc, htext⟩ := startsNumber_toString i
      refine ⟨c, cs, htext, ?_⟩
      obtain rfl | ⟨d, hd, rfl⟩ := hc
      · decide
      · interval_cases d <;> decide
  | decimal literal => exact absurd h id
  | string text => exact ⟨_, _, rfl, by decide⟩
  | array items => exact ⟨_, _, rfl, by decide⟩
  | object members => exact ⟨_, _, rfl, by decide⟩

theorem exists_head_itemChars {item : Json} (items : List Json) (h : item.Canonical) :
    ∃ c cs, itemChars (item :: items) = c :: cs ∧ c ∉ [' ', '\t', '\n', '\r', ']'] := by
  obtain ⟨c, cs, hchars, hc⟩ := exists_head_chars h
  cases items with
  | nil => exact ⟨c, cs, hchars, hc⟩
  | cons other items =>
      exact ⟨c, cs ++ ',' :: itemChars (other :: items), by simp [itemChars, hchars], hc⟩

theorem exists_head_memberChars (member : String × Json) (members : Members) :
    ∃ cs, memberChars (member :: members) = '"' :: cs := by
  cases members <;> exact ⟨_, rfl⟩

mutual

-- Each step of the reader takes at least one character, so that the length of the text is
-- fuel enough.
theorem value?_chars : ∀ (value : Json) (fuel : Nat) (rest : List Char), value.Canonical →
    value.chars.length ≤ fuel → EndsNumber rest →
    value? fuel (value.chars ++ rest) = some (value, rest)
  | value, 0, rest, h, hfuel, _ => by
      obtain ⟨c, cs, hchars, -⟩ := exists_head_chars h
      simp [hchars] at hfuel
  | .null, fuel + 1, rest, _, _, _ => rfl
  | .bool true, fuel + 1, rest, _, _, _ => rfl
  | .bool false, fuel + 1, rest, _, _, _ => rfl
  | .integer i, fuel + 1, rest, _, _, hrest => by
      obtain ⟨c, cs, hc, htext⟩ := startsNumber_toString i
      have hnumber := number?_toString i hrest
      rw [htext] at hnumber
      rw [chars, htext, List.cons_append, value?_of_startsNumber hc]
      exact hnumber
  | .string text, fuel + 1, rest, _, _, _ => by
      have hbody := stringBody_quoted text rest
      simp only [List.length_append, List.length_cons] at hbody
      simp [chars, quote, value?, skipSpace, hbody, -List.length_flatMap]
  | .array [], fuel + 1, rest, _, _, _ => rfl
  | .array (item :: items), fuel + 1, rest, h, hfuel, _ => by
      have hitems := items?_chars (item :: items) fuel rest h (by simp)
        (by simp only [chars, List.length_cons, List.length_append] at hfuel; omega)
      obtain ⟨c, cs, hhead, hc⟩ := exists_head_itemChars items h.1
      simp only [List.mem_cons, List.not_mem_nil, or_false, not_or] at hc
      rw [hhead, List.cons_append] at hitems
      simp [chars, value?, skipSpace, hhead, hc, hitems]
  | .object [], fuel + 1, rest, _, _, _ => rfl
  | .object (member :: members), fuel + 1, rest, h, hfuel, _ => by
      have hmembers := members?_chars (member :: members) fuel rest h.2 (by simp)
        (by simp only [chars, List.length_cons, List.length_append] at hfuel; omega)
      obtain ⟨cs, hhead⟩ := exists_head_memberChars member members
      rw [hhead, List.cons_append] at hmembers
      simp [chars, value?, skipSpace, hhead, hmembers, ofMembers_of_ascending h.1]

theorem items?_chars : ∀ (items : List Json) (fuel : Nat) (rest : List Char),
    CanonicalItems items → items ≠ [] → (itemChars items).length < fuel →
    items? fuel (itemChars items ++ ']' :: rest) = some (items, rest)
  | [], _, _, _, h, _ => absurd rfl h
  | _, 0, _, _, _, hfuel => absurd hfuel (Nat.not_lt_zero _)
  | [item], fuel + 1, rest, h, _, hfuel => by
      have hvalue := value?_chars item fuel (']' :: rest) h.1
        (by simp only [itemChars] at hfuel; omega) (endsNumber_cons (by simp) _)
      simp [itemChars, items?, hvalue, skipSpace]
  | item :: other :: items, fuel + 1, rest, h, _, hfuel => by
      simp only [itemChars, List.length_append, List.length_cons] at hfuel
      have hvalue := value?_chars item fuel (',' :: (itemChars (other :: items) ++ ']' :: rest))
        h.1 (by omega) (endsNumber_cons (by simp) _)
      have hitems := items?_chars (other :: items) fuel rest h.2 (by simp) (by omega)
      simp [itemChars, items?, hvalue, skipSpace, hitems]

theorem members?_chars : ∀ (members : List (String × Json)) (fuel : Nat) (rest : List Char),
    CanonicalMembers members → members ≠ [] → (memberChars members).length < fuel →
    members? fuel (memberChars members ++ '\x7d' :: rest) = some (members, rest)
  | [], _, _, _, h, _ => absurd rfl h
  | _, 0, _, _, _, hfuel => absurd hfuel (Nat.not_lt_zero _)
  | [(name, value)], fuel + 1, rest, h, _, hfuel => by
      simp only [memberChars, List.length_append, List.length_cons] at hfuel
      have hvalue := value?_chars value fuel ('\x7d' :: rest) h.1 (by omega)
        (endsNumber_cons (by simp) _)
      have hname := stringBody_quoted name (':' :: (value.chars ++ '\x7d' :: rest))
      simp only [List.length_append, List.length_cons] at hname
      simp [memberChars, members?, quote, skipSpace, hname, hvalue, -List.length_flatMap]
  | (name, value) :: other :: members, fuel + 1, rest, h, _, hfuel => by
      simp only [memberChars, List.length_append, List.length_cons] at hfuel
      have hvalue := value?_chars value fuel
        (',' :: (memberChars (other :: members) ++ '\x7d' :: rest)) h.1 (by omega)
        (endsNumber_cons (by simp) _)
      have hmembers := members?_chars (other :: members) fuel rest h.2 (by simp) (by omega)
      have hname := stringBody_quoted name
        (':' :: (value.chars ++ ',' :: (memberChars (other :: members) ++ '\x7d' :: rest)))
      simp only [List.length_append, List.length_cons] at hname
      simp [memberChars, members?, quote, skipSpace, hname, hvalue, hmembers,
        -List.length_flatMap]

end

theorem parse?_print {value : Json} (h : value.Canonical) : parse? value.print = some value := by
  have hread := value?_chars value (value.chars.length + 1) [] h (Nat.le_succ _)
    (by simp [EndsNumber])
  rw [List.append_nil] at hread
  simp [parse?, print, hread, skipSpace]

end AdmissionControl.Json
