import TypeReport.Json.Basic

/-! # Reading JSON

`read?` reads a whole document: one value with blanks around its tokens.  It
accepts nothing but well-formed JSON and gives up on numbers that are not natural,
since no other occur here.  Each reader returns what it has read and the rest of
the text; `fuel` bounds the nesting and the number of steps, and the length of the
text is always enough. -/

namespace TypeReport.Json

/-- Whether a character may stand between tokens. -/
def isSpace (c : Char) : Bool := c = ' ' || c = '\t' || c = '\n' || c = '\r'

/-- A text without leading space. -/
def skipSpace (s : Text) : Text := s.dropWhile isSpace

/-! ### Strings -/

def hexValue? (c : Char) : Option Nat :=
  if c.isDigit then some (c.toNat - '0'.toNat)
  else if 'a' ≤ c && c ≤ 'f' then some (c.toNat - 'a'.toNat + 10)
  else if 'A' ≤ c && c ≤ 'F' then some (c.toNat - 'A'.toNat + 10)
  else none

/-- The number that four hexadecimal digits stand for. -/
def readUnit? : Text → Option (Nat × Text)
  | a :: b :: c :: d :: rest => do
      let digits ← [a, b, c, d].mapM hexValue?
      return (digits.foldl (fun n digit => 16 * n + digit) 0, rest)
  | _ => none

/-- The character of a code point. -/
def charOf? (n : Nat) : Option Char := if n.isValidChar then some (Char.ofNat n) else none

/-- The character that an escape with code units stands for: one unit, or two that are the halves
of a surrogate pair. -/
def readUnits? (s : Text) : Option (Char × Text) := do
  let (high, rest) ← readUnit? s
  if 0xd800 ≤ high && high < 0xdc00 then
    let (low, rest) ← readUnit? (← rest.after? "\\u".toList)
    if 0xdc00 ≤ low && low < 0xe000 then
      return (← charOf? (0x10000 + 0x400 * (high - 0xd800) + (low - 0xdc00)), rest)
    else none
  else return (← charOf? high, rest)

/-- The character that an escape stands for, behind its backslash. -/
def readEscape? : Text → Option (Char × Text)
  | '"' :: rest => some ('"', rest)
  | '\\' :: rest => some ('\\', rest)
  | '/' :: rest => some ('/', rest)
  | 'b' :: rest => some ('\x08', rest)
  | 'f' :: rest => some ('\x0c', rest)
  | 'n' :: rest => some ('\n', rest)
  | 'r' :: rest => some ('\r', rest)
  | 't' :: rest => some ('\t', rest)
  | 'u' :: rest => readUnits? rest
  | _ => none

/-- A string behind its opening quote. -/
def readString? : Nat → Text → Option (Text × Text)
  | 0, _ => none
  | _ + 1, [] => none
  | fuel + 1, c :: s =>
      if c = '"' then some ([], s)
      else if c = '\\' then do
        let (c, rest) ← readEscape? s
        let (cs, rest) ← readString? fuel rest
        return (c :: cs, rest)
      else if c.toNat < 0x20 then none
      else do
        let (cs, rest) ← readString? fuel s
        return (c :: cs, rest)

/-! ### Values -/

/-- A natural number, without leading zeros. -/
def readNumber? (s : Text) : Option (Nat × Text) :=
  let digits := s.takeWhile Char.isDigit
  if digits ≠ [] ∧ (digits = ['0'] ∨ digits.head? ≠ some '0') then
    some (Nat.ofDigitChars 10 digits 0, s.dropWhile Char.isDigit)
  else none

/-- A value that is a single word. -/
def readWord? (s : Text) : Option (Json × Text) :=
  ((s.after? "null".toList).map (null, ·)).or <|
    ((s.after? "true".toList).map (bool true, ·)).or <|
      (s.after? "false".toList).map (bool false, ·)

mutual

def readValue? : Nat → Text → Option (Json × Text)
  | 0, _ => none
  | fuel + 1, s =>
      match skipSpace s with
      | '"' :: rest => do
          let (s, rest) ← readString? fuel rest
          return (string s, rest)
      | '[' :: rest =>
          match skipSpace rest with
          | ']' :: rest => some (array [], rest)
          | rest => do
              let (items, rest) ← readItems? fuel rest
              return (array items, rest)
      | '\x7b' :: rest =>
          match skipSpace rest with
          | '\x7d' :: rest => some (object [], rest)
          | rest => do
              let (fields, rest) ← readFields? fuel rest
              return (object fields, rest)
      | s => (readWord? s).or ((readNumber? s).map fun (n, rest) => (number n, rest))

/-- The items of an array, of which there is at least one, and the closing bracket. -/
def readItems? : Nat → Text → Option (List Json × Text)
  | 0, _ => none
  | fuel + 1, s => do
      let (item, rest) ← readValue? fuel s
      match skipSpace rest with
      | ']' :: rest => return ([item], rest)
      | ',' :: rest =>
          let (items, rest) ← readItems? fuel rest
          return (item :: items, rest)
      | _ => none

/-- The fields of an object, of which there is at least one, and the closing brace. -/
def readFields? : Nat → Text → Option (List (Text × Json) × Text)
  | 0, _ => none
  | fuel + 1, s => do
      let rest ← (skipSpace s).after? ['"']
      let (key, rest) ← readString? fuel rest
      let rest ← (skipSpace rest).after? [':']
      let (item, rest) ← readValue? fuel rest
      match skipSpace rest with
      | '\x7d' :: rest => return ([(key, item)], rest)
      | ',' :: rest =>
          let (fields, rest) ← readFields? fuel rest
          return ((key, item) :: fields, rest)
      | _ => none

end

/-- The value of a document. -/
def read? (s : Text) : Option Json := do
  let (v, rest) ← readValue? (s.length + 1) s
  if skipSpace rest = [] then some v else none

end TypeReport.Json
