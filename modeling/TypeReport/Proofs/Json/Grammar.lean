import TypeReport.Json.Reader
import Mathlib.Data.List.DropRight

/-! # The grammar of JSON

`Spells p s` says that `s` is a way to write the phrase `p`, by the rules of
RFC 8259 for values whose numbers are natural:

* a value is a word, a number without leading zeros, a string in quotes, or an array
  or object in its brackets;
* a field is a string and a value with a colon between them;
* the elements of an array, its values, and those of an object, its fields, have a
  comma between each two, and none before the first or behind the last;
* gaps of spaces, tabs, line feeds and carriage returns may stand around elements,
  around colons and around a whole document, and nowhere else.

Inside a string, quotes, backslashes and characters below the space must be escaped
(`CharText`); every character may be, by its code units if it has no short escape. -/

namespace TypeReport.Json

/-- Whether a text may stand between tokens. -/
def IsGap (s : Text) : Prop := ∀ c ∈ s, isSpace c = true

/-! ### Strings and numbers -/

/-- The characters that have a short escape, behind the letter of the escape. -/
def shortEscapes : List (Char × Char) :=
  [('"', '"'), ('\\', '\\'), ('/', '/'), ('b', '\x08'), ('f', '\x0c'), ('n', '\n'), ('r', '\r'),
   ('t', '\t')]

/-- Whether a text is four hexadecimal digits of a number. -/
def IsUnit (digits : Text) (n : Nat) : Prop :=
  digits.length = 4 ∧
    (digits.mapM hexValue?).map (·.foldl (fun n digit => 16 * n + digit) 0) = some n

instance (digits : Text) (n : Nat) : Decidable (IsUnit digits n) :=
  inferInstanceAs (Decidable (_ ∧ _))

/-- The ways to write a character inside a string. -/
inductive CharText : Char → Text → Prop
  | plain {c : Char} (hc : 0x20 ≤ c.toNat) (hquote : c ≠ '"') (hbackslash : c ≠ '\\') :
      CharText c [c]
  | short {c letter : Char} (h : (letter, c) ∈ shortEscapes) : CharText c ['\\', letter]
  | unit {c : Char} {digits : Text} (h : IsUnit digits c.toNat) : CharText c ('\\' :: 'u' :: digits)
  | pair {c : Char} {first second : Text} {high low : Nat} (hfirst : IsUnit first high)
      (hsecond : IsUnit second low) (hhigh : 0xd800 ≤ high ∧ high < 0xdc00)
      (hlow : 0xdc00 ≤ low ∧ low < 0xe000)
      (hc : c.toNat = 0x10000 + 0x400 * (high - 0xd800) + (low - 0xdc00)) :
      CharText c ('\\' :: 'u' :: first ++ '\\' :: 'u' :: second)

/-- The ways to write the characters of a string, without its quotes. -/
inductive StringText : Text → Text → Prop
  | nil : StringText [] []
  | cons {c : Char} {cs s t : Text} (hc : CharText c s) (hcs : StringText cs t) :
      StringText (c :: cs) (s ++ t)

/-- Whether a text is the decimal numeral of a number, without leading zeros. -/
def IsNumeral (n : Nat) (s : Text) : Prop :=
  s ≠ [] ∧ (∀ c ∈ s, c.isDigit = true) ∧ (s = ['0'] ∨ s.head? ≠ some '0') ∧
    Nat.ofDigitChars 10 s 0 = n

/-! ### Phrases -/

/-- What the rules of the grammar are about: values, fields of objects, and what stands between
brackets, of which there is at least one. -/
inductive Phrase where
  | value (v : Json)
  | field (key : Text) (v : Json)
  | elements (ps : List Phrase)

def Phrase.ofField (f : Text × Json) : Phrase := field f.1 f.2

/-- The ways to write a phrase. -/
inductive Spells : Phrase → Text → Prop
  | null : Spells (.value .null) ['n', 'u', 'l', 'l']
  | true : Spells (.value (.bool true)) ['t', 'r', 'u', 'e']
  | false : Spells (.value (.bool false)) ['f', 'a', 'l', 's', 'e']
  | number {n : Nat} {s : Text} (h : IsNumeral n s) : Spells (.value (.number n)) s
  | string {cs s : Text} (h : StringText cs s) : Spells (.value (.string cs)) ('"' :: s ++ ['"'])
  | emptyArray {s : Text} (h : IsGap s) : Spells (.value (.array [])) ('[' :: s ++ [']'])
  | array {vs : List Json} {s : Text} (h : Spells (.elements (vs.map .value)) s) :
      Spells (.value (.array vs)) ('[' :: s ++ [']'])
  | emptyObject {s : Text} (h : IsGap s) :
      Spells (.value (.object [])) ('\x7b' :: s ++ ['\x7d'])
  | object {fields : List (Text × Json)} {s : Text}
      (h : Spells (.elements (fields.map .ofField)) s) :
      Spells (.value (.object fields)) ('\x7b' :: s ++ ['\x7d'])
  | field {key keyText before behind s : Text} {v : Json} (hkey : StringText key keyText)
      (hbefore : IsGap before) (hbehind : IsGap behind) (hv : Spells (.value v) s) :
      Spells (.field key v) ('"' :: keyText ++ '"' :: before ++ ':' :: behind ++ s)
  | last {p : Phrase} {before s behind : Text} (hbefore : IsGap before) (hp : Spells p s)
      (hbehind : IsGap behind) : Spells (.elements [p]) (before ++ s ++ behind)
  | more {p : Phrase} {ps : List Phrase} {before s behind t : Text} (hbefore : IsGap before)
      (hp : Spells p s) (hbehind : IsGap behind) (hps : Spells (.elements ps) t) :
      Spells (.elements (p :: ps)) (before ++ s ++ behind ++ ',' :: t)

/-- Whether a text is a way to write a phrase, with gaps around it. -/
def Padded (p : Phrase) (s : Text) : Prop :=
  ∃ before t behind, s = before ++ t ++ behind ∧ IsGap before ∧ IsGap behind ∧ Spells p t

/-- Whether a text is a document with a value. -/
def Document (v : Json) (s : Text) : Prop := Padded (.value v) s

/-! ### Gaps -/

theorem isGap_nil : IsGap [] := by simp [IsGap]

theorem isGap_cons {c : Char} {s : Text} (hc : isSpace c = true) (hs : IsGap s) :
    IsGap (c :: s) := by
  intro d hd
  rcases List.mem_cons.1 hd with rfl | hd
  · exact hc
  · exact hs d hd

theorem isGap_append {s t : Text} (hs : IsGap s) (ht : IsGap t) : IsGap (s ++ t) := by
  intro c hc
  rcases List.mem_append.1 hc with hc | hc
  · exact hs c hc
  · exact ht c hc

theorem isGap_replicate (n : Nat) : IsGap (List.replicate n ' ') := by
  intro c hc
  rw [(List.mem_replicate.1 hc).2]
  rfl

theorem skipSpace_append {b : Text} (hb : IsGap b) (s : Text) :
    skipSpace (b ++ s) = skipSpace s :=
  List.dropWhile_append_of_pos hb

theorem skipSpace_gap {s : Text} (h : IsGap s) : skipSpace s = [] := by
  have := skipSpace_append h []
  rwa [List.append_nil] at this

theorem skipSpace_cons {c : Char} (hc : isSpace c = false) (s : Text) :
    skipSpace (c :: s) = c :: s :=
  List.dropWhile_cons_of_neg (by simp [hc])

theorem skipSpace_append_cons {b : Text} (hb : IsGap b) {c : Char} (hc : isSpace c = false)
    (s : Text) : skipSpace (b ++ c :: s) = c :: s :=
  (skipSpace_append hb _).trans (skipSpace_cons hc s)

theorem skipSpace_skipSpace (s : Text) : skipSpace (skipSpace s) = skipSpace s :=
  List.dropWhile_idempotent isSpace s

end TypeReport.Json
