import TypeCatalog.Json.Basic

/-!
Reading JSON text, strictly: blanks are space, tab, line feed and carriage return, numbers have
no superfluous zeros, control characters are escaped, and nothing but blanks follows the value.
`Json.ofText?` gives the document of a text, or `none` if the text is not JSON. A reader takes a
text and gives what it read together with the rest of the text.
-/

namespace TypeCatalog.Json.Reader

/-! ### Strings -/

/-- One element of a string literal. -/
inductive Piece
  | literal (c : Char)
  /-- A sixteen-bit unit written as `\u` and four hexadecimal digits. -/
  | escaped (unit : Nat)
  deriving DecidableEq, Repr

/-- The value of a hexadecimal digit in either case. -/
def hexValue? (c : Char) : Option Nat :=
  if '0' ≤ c ∧ c ≤ '9' then some (c.toNat - '0'.toNat)
  else if 'a' ≤ c ∧ c ≤ 'f' then some (c.toNat - 'a'.toNat + 10)
  else if 'A' ≤ c ∧ c ≤ 'F' then some (c.toNat - 'A'.toNat + 10)
  else none

/-- The unit of four hexadecimal digits. -/
def hexUnit? (a b c d : Char) : Option Nat := do
  return (((← hexValue? a) * 16 + (← hexValue? b)) * 16 + (← hexValue? c)) * 16 + (← hexValue? d)

/-- The character that a reverse solidus and `c` stand for. -/
def unescape? (c : Char) : Option Char :=
  if c = '"' ∨ c = '\\' ∨ c = '/' then some c
  else if c = 'b' then some '\x08'
  else if c = 't' then some '\t'
  else if c = 'n' then some '\n'
  else if c = 'f' then some '\x0c'
  else if c = 'r' then some '\r'
  else none

/-- The pieces of a string literal whose opening mark has been read. -/
def pieces : List Char → Option (List Piece × List Char)
  | [] => none
  | '"' :: rest => some ([], rest)
  | '\\' :: 'u' :: a :: b :: c :: d :: rest =>
    match hexUnit? a b c d, pieces rest with
    | some unit, some (ps, rest) => some (.escaped unit :: ps, rest)
    | _, _ => none
  | '\\' :: c :: rest =>
    match unescape? c, pieces rest with
    | some c, some (ps, rest) => some (.literal c :: ps, rest)
    | _, _ => none
  | c :: rest =>
    if c.toNat < 32 then none
    else
      match pieces rest with
      | some (ps, rest) => some (.literal c :: ps, rest)
      | none => none

/-- Whether a unit is the first half of a surrogate pair. -/
def isLeading (unit : Nat) : Bool := 0xD800 ≤ unit && unit < 0xDC00

/-- Whether a unit is the second half of a surrogate pair. -/
def isTrailing (unit : Nat) : Bool := 0xDC00 ≤ unit && unit < 0xE000

/-- The text that pieces denote; none if half of a surrogate pair stands alone. -/
def denoted : List Piece → Option (List Char)
  | [] => some []
  | .literal c :: rest => (denoted rest).map (c :: ·)
  | .escaped unit :: .escaped second :: rest =>
    if isLeading unit then
      if isTrailing second then
        (denoted rest).map
          (Char.ofNat ((unit - 0xD800) * 0x400 + (second - 0xDC00) + 0x10000) :: ·)
      else none
    else if isTrailing unit then none
    else (denoted (.escaped second :: rest)).map (Char.ofNat unit :: ·)
  | .escaped unit :: rest =>
    if isLeading unit || isTrailing unit then none
    else (denoted rest).map (Char.ofNat unit :: ·)

/-- A string literal whose opening mark has been read: its text, if it denotes one. -/
def text (cs : List Char) : Option (Option String × List Char) :=
  (pieces cs).map fun (ps, rest) => ((denoted ps).map String.ofList, rest)

/-! ### Numbers -/

/-- One or more digits. -/
def someDigits (cs : List Char) : Option (List Char × List Char) :=
  let ds := cs.takeWhile Numeral.isDigit
  if ds.isEmpty then none else some (ds, cs.dropWhile Numeral.isDigit)

/-- The digits before the point, which start with zero only if they are zero. -/
def wholePart (cs : List Char) : Option (List Char × List Char) :=
  match someDigits cs with
  | some ('0' :: _ :: _, _) => none
  | part => part

/-- The digits behind the point, none if there is no point. -/
def fraction : List Char → Option (Option (List Char) × List Char)
  | '.' :: rest => (someDigits rest).map fun (ds, rest) => (some ds, rest)
  | cs => some (none, cs)

/-- The digits of an exponent behind its letter, with their sign. -/
def signedExponent : List Char → Option (Int × List Char)
  | '-' :: rest => (someDigits rest).map fun (ds, rest) => (-(Numeral.ofDigits ds : Int), rest)
  | '+' :: rest => (someDigits rest).map fun (ds, rest) => ((Numeral.ofDigits ds : Int), rest)
  | cs => (someDigits cs).map fun (ds, rest) => ((Numeral.ofDigits ds : Int), rest)

/-- The exponent, none if there is none. -/
def exponent : List Char → Option (Option Int × List Char)
  | 'e' :: rest | 'E' :: rest => (signedExponent rest).map fun (e, rest) => (some e, rest)
  | cs => some (none, cs)

/-- The number that a sign, digits, a fraction and an exponent make. -/
def assemble (negative : Bool) (whole : List Char) (fraction : Option (List Char))
    (exponent : Option Int) : Numeral :=
  if fraction.isNone ∧ exponent.isNone then .ofWhole negative whole
  else .ofParts negative whole (fraction.getD []) (exponent.getD 0)

/-- A number without its sign. -/
def unsignedNumeral (negative : Bool) (cs : List Char) : Option (Numeral × List Char) := do
  let (whole, cs) ← wholePart cs
  let (places, cs) ← fraction cs
  let (power, cs) ← exponent cs
  return (assemble negative whole places power, cs)

/-- A number. -/
def numeral : List Char → Option (Numeral × List Char)
  | '-' :: rest => unsignedNumeral true rest
  | cs => unsignedNumeral false cs

/-! ### Documents -/

/-- Whether `c` may stand between the parts of a document. -/
def isSpace (c : Char) : Bool := c = ' ' || c = '\t' || c = '\n' || c = '\r'

/-- The text behind its leading blanks. -/
def skipSpace (cs : List Char) : List Char := cs.dropWhile isSpace

/-- The object of members, ill formed if one of the names denotes no text. -/
def object (members : List (Option String × Json)) : Json :=
  match members.mapM fun m => m.1.map (·, m.2) with
  | some members => .object members
  | none => .illFormed

mutual

/-- A value, with blanks before it allowed; `fuel` bounds the number of steps. -/
def value : Nat → List Char → Option (Json × List Char)
  | 0, _ => none
  | fuel + 1, cs =>
    match skipSpace cs with
    | 'n' :: 'u' :: 'l' :: 'l' :: rest => some (.null, rest)
    | 't' :: 'r' :: 'u' :: 'e' :: rest => some (.bool true, rest)
    | 'f' :: 'a' :: 'l' :: 's' :: 'e' :: rest => some (.bool false, rest)
    | '"' :: rest => (text rest).map fun (s, rest) => (s.elim .illFormed .string, rest)
    | '[' :: rest =>
      match skipSpace rest with
      | ']' :: rest => some (.array [], rest)
      | rest => (items fuel rest).map fun (xs, rest) => (.array xs, rest)
    | '\x7b' :: rest =>
      match skipSpace rest with
      | '\x7d' :: rest => some (.object [], rest)
      | rest => (members fuel rest).map fun (ms, rest) => (object ms, rest)
    | cs => (numeral cs).map fun (n, rest) => (.number n, rest)

/-- The items of an array up to its end. -/
def items : Nat → List Char → Option (List Json × List Char)
  | 0, _ => none
  | fuel + 1, cs =>
    match value fuel cs with
    | none => none
    | some (x, rest) =>
      match skipSpace rest with
      | ']' :: rest => some ([x], rest)
      | ',' :: rest => (items fuel rest).map fun (xs, rest) => (x :: xs, rest)
      | _ => none

/-- The members of an object up to its end. -/
def members : Nat → List Char → Option (List (Option String × Json) × List Char)
  | 0, _ => none
  | fuel + 1, cs =>
    match skipSpace cs with
    | '"' :: rest =>
      match text rest with
      | none => none
      | some (name, rest) =>
        match skipSpace rest with
        | ':' :: rest =>
          match value fuel rest with
          | none => none
          | some (x, rest) =>
            match skipSpace rest with
            | '\x7d' :: rest => some ([(name, x)], rest)
            | ',' :: rest => (members fuel rest).map fun (ms, rest) => ((name, x) :: ms, rest)
            | _ => none
        | _ => none
    | _ => none

end

end TypeCatalog.Json.Reader

namespace TypeCatalog.Json

/-- The document of a list of characters. Two steps a character are more than a reader takes. -/
def ofChars? (cs : List Char) : Option Json :=
  match Reader.value (2 * cs.length + 2) cs with
  | some (j, rest) => if (Reader.skipSpace rest).isEmpty then some j else none
  | none => none

/-- The document that a text is. -/
def ofText? (s : String) : Option Json := ofChars? s.toList

end TypeCatalog.Json
