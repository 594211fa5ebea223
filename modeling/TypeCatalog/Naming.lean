import TypeCatalog.Text.Casing

/-!
The names that definitions get by default: classes in upper camel case, properties in lower
camel case, constants of enumerations in capitals with underscores. `singular` guesses the
singular of a plural property name.
-/

namespace TypeCatalog.Naming

/-- The class name of a type. -/
def ofClass (name : String) : String := String.ofList (Text.upperCamel name.toList)

/-- The property name of an attribute. -/
def ofProperty (name : String) : String := String.ofList (Text.lowerCamel name.toList)

/-- Whether a text begins with one of the ten decimal digits of ASCII. -/
def startsWithDigit : List Char → Bool
  | [] => false
  | c :: _ => '0' ≤ c && c ≤ '9'

/-- The constant of an enumeration value; an underscore comes before a leading digit. -/
def ofConstant (value : String) : String :=
  let constant := Text.shoutySnake value.toList
  String.ofList (if startsWithDigit constant then '_' :: constant else constant)

/-- Endings of singular words that look like plurals. -/
def singularEndings : List (List Char) := ["ss".toList, "us".toList, "is".toList]

/-- Plurals that add two letters. -/
def longPluralEndings : List (List Char) :=
  ["sses".toList, "xes".toList, "ches".toList, "shes".toList]

/-- The singular of a name that looks like a plural, empty if it does not. -/
def singularOf (name : List Char) : List Char :=
  match "ies".toList.isSuffixOf? name with
  | some (c :: stem) => c :: stem ++ ['y']
  | _ =>
    if longPluralEndings.any fun ending => ending.isSuffixOf name then name.dropLast.dropLast
    else if singularEndings.any fun ending => ending.isSuffixOf name then []
    else if "s".toList.isSuffixOf name then name.dropLast
    else []

/-- The singular of a plural property name, or the empty text. -/
def singular (name : String) : String := String.ofList (singularOf name.toList)

end TypeCatalog.Naming
