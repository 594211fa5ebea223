import TypeCatalog.Json.Basic

/-!
The two written forms of a JSON document: the compact one, without any blank, and the indented
one, with a member or an item to a line and two blanks for each level. Strings escape the
quotation mark, the reverse solidus and the control characters below the blank, and nothing else.
-/

namespace TypeCatalog.Json

/-! ### Strings and numbers -/

/-- The hexadecimal digit of a number below sixteen, in small letters. -/
def hexDigit (n : Nat) : Char := Nat.digitChar (n % 16)

/-- How a character is written inside a string. -/
def escape (c : Char) : List Char :=
  if c = '"' then ['\\', '"']
  else if c = '\\' then ['\\', '\\']
  else if c = '\x08' then ['\\', 'b']
  else if c = '\t' then ['\\', 't']
  else if c = '\n' then ['\\', 'n']
  else if c = '\x0c' then ['\\', 'f']
  else if c = '\r' then ['\\', 'r']
  else if c.toNat < 32 then ['\\', 'u', '0', '0', hexDigit (c.toNat / 16), hexDigit c.toNat]
  else [c]

/-- A string literal. -/
def quoted (s : String) : List Char := '"' :: s.toList.flatMap escape ++ ['"']

/-- A whole number in decimal digits. -/
def digits (n : Nat) : List Char := Nat.toDigits 10 n

/-- An integer in decimal digits, with a minus sign if it is negative. -/
def signedDigits : Int → List Char
  | .ofNat n => digits n
  | .negSucc n => '-' :: digits (n + 1)

/-- A number literal. -/
def numeral : Numeral → List Char
  | .integer n => signedDigits n
  | .decimal negative digits e =>
    (if negative then ['-'] else []) ++ Json.digits digits ++ 'e' :: signedDigits e

/-- A string literal that denotes no text. -/
def illFormedLiteral : List Char := "\"\\ud800\"".toList

/-! ### The compact form -/

mutual

/-- The text of a document without blanks. -/
def compact : Json → List Char
  | .null => "null".toList
  | .bool true => "true".toList
  | .bool false => "false".toList
  | .number n => numeral n
  | .string s => quoted s
  | .array items => '[' :: compactItems items ++ [']']
  | .object members => '\x7b' :: compactMembers members ++ ['\x7d']
  | .illFormed => illFormedLiteral

/-- The items with commas between them. -/
def compactItems : List Json → List Char
  | [] => []
  | [item] => compact item
  | item :: rest => compact item ++ ',' :: compactItems rest

/-- The members with commas between them. -/
def compactMembers : List (String × Json) → List Char
  | [] => []
  | [(name, value)] => quoted name ++ ':' :: compact value
  | (name, value) :: rest => quoted name ++ ':' :: compact value ++ ',' :: compactMembers rest

end

/-! ### The indented form -/

/-- A line break and the indentation of a level. -/
def newLine (level : Nat) : List Char := '\n' :: List.replicate (2 * level) ' '

mutual

/-- The text of a document whose first line starts at a level. -/
def indented (level : Nat) : Json → List Char
  | .null => "null".toList
  | .bool true => "true".toList
  | .bool false => "false".toList
  | .number n => numeral n
  | .string s => quoted s
  | .array [] => ['[', ']']
  | .array (item :: rest) =>
    '[' :: newLine (level + 1) ++ indentedItems (level + 1) (item :: rest) ++ newLine level ++ [']']
  | .object [] => ['\x7b', '\x7d']
  | .object (member :: rest) =>
    '\x7b' :: newLine (level + 1) ++ indentedMembers (level + 1) (member :: rest) ++ newLine level
      ++ ['\x7d']
  | .illFormed => illFormedLiteral

/-- The items, each on a line of its own. -/
def indentedItems (level : Nat) : List Json → List Char
  | [] => []
  | [item] => indented level item
  | item :: rest => indented level item ++ ',' :: newLine level ++ indentedItems level rest

/-- The members, each on a line of its own. -/
def indentedMembers (level : Nat) : List (String × Json) → List Char
  | [] => []
  | [(name, value)] => quoted name ++ ':' :: ' ' :: indented level value
  | (name, value) :: rest =>
    quoted name ++ ':' :: ' ' :: indented level value ++ ',' :: newLine level
      ++ indentedMembers level rest

end

/-- The compact text of a document. -/
def toText (j : Json) : String := String.ofList j.compact

/-- The indented text of a document. -/
def toIndentedText (j : Json) : String := String.ofList (j.indented 0)

end TypeCatalog.Json
