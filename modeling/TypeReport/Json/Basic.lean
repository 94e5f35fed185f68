import TypeReport.Text.Numeral

/-! # JSON values and their text

A JSON value is written on one line (`inline`) or spread over lines (`block`).  A
spread array has one item on each line; a spread object has one field on each
line, and the values of some of its fields are spread in turn.  A string is
written with an escape for each quote, backslash and control character, and with
every other character as it is. -/

namespace TypeReport

/-- A JSON value whose numbers are natural. -/
inductive Json where
  | null
  | bool (b : Bool)
  | number (n : Nat)
  | string (s : Text)
  | array (items : List Json)
  | object (fields : List (Text × Json))

namespace Json

/-! ### Strings -/

/-- Whether a character is a control character, of the first block or of the second. -/
def isControl (c : Char) : Bool := c.toNat < 0x20 || (0x7f ≤ c.toNat && c.toNat < 0xa0)

/-- A character as it is written inside a string. -/
def escapeChar (c : Char) : Text :=
  if c = '"' then "\\\"".toList
  else if c = '\\' then "\\\\".toList
  else if c = '\n' then "\\n".toList
  else if c = '\r' then "\\r".toList
  else if c = '\t' then "\\t".toList
  else if isControl c then "\\u".toList ++ (Nat.toDigits 16 c.toNat).leftpad 4 '0'
  else [c]

/-- A string in quotes. -/
def quote (s : Text) : Text := '"' :: s.flatMap escapeChar ++ ['"']

/-! ### On one line -/

/-- Texts put together with a comma between each two. -/
def commaList (xs : List Text) : Text := ", ".toList.intercalate xs

/-- A field, given the text of its value. -/
def field (key value : Text) : Text := quote key ++ ": ".toList ++ value

mutual

/-- A value on one line. -/
def inline : Json → Text
  | null => "null".toList
  | bool b => if b then "true".toList else "false".toList
  | number n => Text.ofNat n
  | string s => quote s
  | array items => '[' :: commaList (inlineItems items) ++ [']']
  | object fields => '\x7b' :: commaList (inlineFields fields) ++ ['\x7d']

def inlineItems : List Json → List Text
  | [] => []
  | v :: vs => inline v :: inlineItems vs

def inlineFields : List (Text × Json) → List Text
  | [] => []
  | (key, v) :: fields => field key (inline v) :: inlineFields fields

end

/-! ### Spread over lines -/

/-- The space before a line, at a depth of nesting. -/
def indent (depth : Nat) : Text := List.replicate (2 * depth) ' '

/-- Texts on a line each, with a comma after each but the last. -/
def commaLines (depth : Nat) : List Text → Text
  | [] => []
  | [x] => indent depth ++ x ++ ['\n']
  | x :: xs => indent depth ++ x ++ ",\n".toList ++ commaLines depth xs

mutual

/-- A value spread over lines, at a depth of nesting.  The fields that `spread` picks out are
spread as well. -/
def block (spread : Text → Bool) (depth : Nat) : Json → Text
  | array items =>
      '[' :: '\n' :: commaLines (depth + 1) (inlineItems items) ++ indent depth ++ [']']
  | object fields =>
      '\x7b' :: '\n' :: commaLines (depth + 1) (blockFields spread (depth + 1) fields) ++
        indent depth ++ ['\x7d']
  | v => inline v

/-- Each of some fields, on one line or spread. -/
def blockFields (spread : Text → Bool) (depth : Nat) : List (Text × Json) → List Text
  | [] => []
  | (key, v) :: fields =>
      field key (if spread key then block spread depth v else inline v) ::
        blockFields spread depth fields

end

example : quote "a\"b\n\x7f".toList = "\"a\\\"b\\n\\u007f\"".toList := by decide

end Json
end TypeReport
