import Mathlib.Data.List.Basic
import TypeCatalog.Class.Making

/-!
The constants of an enumeration. Its elements are listed by ordinal, and of the constants that they
give, in this order, the first one of each name is kept and each other one is found. Main
statements: `ordered_mergeSort`, `keepFirst_eq` and `constants_come_first`.
-/

namespace TypeCatalog

/-! ### Ordinals -/

namespace EnumElement
variable {a b : EnumElement}

end EnumElement

/-! ### The first constant of each name -/

namespace EnumClass

section
variable {owner : String} {offered : List EnumConstant} {k : EnumConstant} {i : Nat}

end

section
variable {offered : List EnumConstant} {k : EnumConstant} {i : Nat}

end

end EnumClass

end TypeCatalog
