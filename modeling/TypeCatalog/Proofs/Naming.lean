import TypeCatalog.Naming
import TypeCatalog.Proofs.Text.Letters

/-!
Constants of enumeration values as identifiers. A constant is made of the capitals of the value's
alphanumeric characters, with underscores between the words. An underscore before a leading digit
makes it an identifier if the digit is one of ASCII; it does not help a value that has no
alphanumeric character, that starts with another number, or that has a letter whose capital is
written with a mark. Main statements: `shoutySnake_of_find?_eq_some`, `all_shoutySnake` and
`isIdentifier_ofConstant_iff`.
-/

namespace TypeCatalog
namespace Text
variable {cs word run : List Char} {c : Char}

/-! ### Words -/

theorem runs_ne_nil (cs : List Char) : runs cs ≠ [] := by
  induction cs with
  | nil => exact List.cons_ne_nil _ _
  | cons c rest ih =>
    rw [runs]
    split
    · exact List.cons_ne_nil _ _
    · split <;> exact List.cons_ne_nil _ _

/-- The runs have the alphanumeric characters of a text, in order. -/
theorem flatten_runs (cs : List Char) : (runs cs).flatten = cs.filter isAlphanumeric := by
  induction cs with
  | nil => rfl
  | cons c rest ih =>
    rw [runs]
    split
    · rename_i hruns
      exact absurd hruns (runs_ne_nil rest)
    · rename_i first others hruns
      rw [hruns] at ih
      cases hc : isAlphanumeric c with
      | true => simp [hc, ← ih]
      | false => simp [hc, ← ih]

/-- The words have the alphanumeric characters of a text, in order. -/
theorem flatten_words (cs : List Char) : (words cs).flatten = cs.filter isAlphanumeric := by
  rw [words, ← flatten_runs]
  induction runs cs with
  | nil => rfl
  | cons run others ih =>
    rw [List.flatMap_cons, List.flatten_append, flatten_wordsOfRun, ih, List.flatten_cons]

/-- No word is empty: one that ends before a capital has another capital. -/
theorem nil_notMem_splitRun (case : WordCase) (word run : List Char)
    (h : case = .capital → word ≠ []) : [] ∉ splitRun case word run := by
  fun_induction splitRun case word run with
  | case1 => exact List.not_mem_nil
  | case2 => simp_all
  | case3 => simp
  | case4 case word c next rest hsmall ih => simpa using ih fun h => by cases h
  | case5 case word c next rest _ hcapital ih =>
    simp [h hcapital.1, ih]
  | case6 case word c next rest _ _ ih => exact ih fun _ => by simp

theorem nil_notMem_words (cs : List Char) : [] ∉ words cs := by
  rw [words, List.mem_flatMap]
  rintro ⟨run, -, hmem⟩
  exact nil_notMem_splitRun .uncased [] run (fun h => by cases h) hmem

/-! ### Words in capitals -/

theorem intercalate_cons {α : Type} (separator part : List α) (parts : List (List α)) :
    ∃ more, List.intercalate separator (part :: parts) = part ++ more := by
  cases parts with
  | nil => exact ⟨[], by rw [List.intercalate_singleton, List.append_nil]⟩
  | cons next parts =>
    exact ⟨separator ++ List.intercalate separator (next :: parts), by
      rw [List.intercalate_cons_cons, List.append_assoc]⟩

theorem all_intercalate {α : Type} {p : α → Bool} {separator : List α}
    (hseparator : separator.all p = true) (parts : List (List α)) :
    (List.intercalate separator parts).all p = parts.flatten.all p := by
  induction parts with
  | nil => rfl
  | cons part parts ih =>
    cases parts with
    | nil => simp
    | cons next parts =>
      rw [List.intercalate_cons_cons, List.all_append, List.all_append, hseparator, Bool.and_true,
        ih, ← List.all_append, ← List.flatten_cons]

/-- A text without alphanumeric characters has no words. -/
theorem shoutySnake_of_find?_eq_none (h : cs.find? isAlphanumeric = none) :
    shoutySnake cs = [] := by
  have hflat : (words cs).flatten = [] := by
    rw [flatten_words, List.filter_eq_nil_iff]
    exact List.find?_eq_none.1 h
  have hwords : words cs = [] := by
    refine List.eq_nil_iff_forall_not_mem.2 fun word hword => nil_notMem_words cs ?_
    rwa [List.flatten_eq_nil_iff.1 hflat word hword] at hword
  rw [shoutySnake, hwords]
  rfl

/-- The first alphanumeric character of a text leads its first word. -/
theorem shoutySnake_of_find?_eq_some (h : cs.find? isAlphanumeric = some c) :
    ∃ more, shoutySnake cs = toUpper c ++ more := by
  rw [← List.head?_filter, ← flatten_words] at h
  have hnil := nil_notMem_words cs
  rw [shoutySnake]
  match hwords : words cs with
  | [] => simp [hwords] at h
  | [] :: others => simp [hwords] at hnil
  | (d :: word) :: others =>
    obtain rfl : d = c := by simpa [hwords] using h
    obtain ⟨more, hmore⟩ := intercalate_cons ['_'] (uppercase (d :: word)) (others.map uppercase)
    exact ⟨word.flatMap toUpper ++ more, by
      rw [List.map_cons, hmore, uppercase, List.flatMap_cons, List.append_assoc]⟩

/-- Apart from the underscores, the characters of a text in capitals are those of the capitals of
its alphanumeric characters. -/
theorem all_shoutySnake {p : Char → Bool} (hp : p '_' = true) :
    (shoutySnake cs).all p = (cs.filter isAlphanumeric).all fun c => (toUpper c).all p := by
  have hseparator : ['_'].all p = true := by simp [hp]
  rw [shoutySnake, all_intercalate hseparator, ← flatten_words, ← List.all_flatMap]
  induction words cs with
  | nil => rfl
  | cons word others ih =>
    rw [List.map_cons, List.flatten_cons, List.all_append, ih, List.flatten_cons,
      List.flatMap_append, List.all_append, uppercase]

/-! ### Identifiers -/

theorem isAlphanumeric_of_letter (h : isLetter c = true) : isAlphanumeric c = true := by
  rw [isLetter, Bool.and_eq_true] at h
  exact h.1

theorem isLetter_of_number (h : isNumber c = true) : isLetter c = false := by
  rw [isLetter, h, Bool.not_true, Bool.and_false]

theorem isLetter_or_isNumber (h : isAlphanumeric c = true) :
    isLetter c = true ∨ isNumber c = true := by
  rw [isLetter, h, Bool.true_and, Bool.not_eq_true']
  exact (Bool.eq_false_or_eq_true _).symm

theorem isIdentifierChar_underscore : isIdentifierChar '_' = true := by
  rw [isIdentifierChar, decide_eq_true rfl, Bool.or_true]

theorem isIdentifier_underscore (rest : List Char) :
    isIdentifier ('_' :: rest) = rest.all isIdentifierChar := by
  rw [isIdentifier, decide_eq_true rfl, Bool.or_true, Bool.true_and]

theorem isIdentifier_of_letter (h : isLetter c = true) (rest : List Char) :
    isIdentifier (c :: rest) = (c :: rest).all isIdentifierChar := by
  have hchar : isIdentifierChar c = true := by
    rw [isIdentifierChar, isAlphanumeric_of_letter h, Bool.true_or]
  rw [isIdentifier, h, List.all_cons, hchar, Bool.true_or]

theorem isIdentifier_of_number (h : isNumber c = true) (rest : List Char) :
    isIdentifier (c :: rest) = false := by
  have hunderscore : c ≠ '_' := by
    rintro rfl
    revert h
    decide +kernel
  rw [isIdentifier, isLetter_of_number h, decide_eq_false hunderscore, Bool.or_false,
    Bool.false_and]

end Text

namespace Naming
open Text
variable {c : Char}

/-! ### Constants -/

theorem startsWithDigit_cons_iff {rest : List Char} :
    startsWithDigit (c :: rest) = true ↔ '0' ≤ c ∧ c ≤ '9' := by
  rw [startsWithDigit, Bool.and_eq_true, decide_eq_true_iff, decide_eq_true_iff]

/-- Behind the guard against digits, a text with an alphanumeric first character is an identifier
just if this one is a letter or a digit of ASCII. -/
theorem isIdentifier_guarded_iff (hc : isAlphanumeric c = true) (rest : List Char) :
    isIdentifier (if startsWithDigit (c :: rest) then '_' :: c :: rest else c :: rest) = true ↔
      (isLetter c = true ∨ '0' ≤ c ∧ c ≤ '9') ∧ (c :: rest).all isIdentifierChar = true := by
  by_cases hdigit : '0' ≤ c ∧ c ≤ '9'
  · rw [if_pos (startsWithDigit_cons_iff.2 hdigit), isIdentifier_underscore]
    simp only [hdigit, and_self, or_true, true_and]
  · rw [if_neg (mt startsWithDigit_cons_iff.1 hdigit)]
    simp only [hdigit, or_false]
    rcases isLetter_or_isNumber hc with hletter | hnumber
    · rw [isIdentifier_of_letter hletter, hletter]
      simp only [true_and]
    · rw [isIdentifier_of_number hnumber, isLetter_of_number hnumber]
      simp only [Bool.false_eq_true, false_and]

/-- Capitals begin as the character does: with a letter, or with the same number. -/
theorem toUpper_head (hc : isAlphanumeric c = true) :
    ∃ d more, toUpper c = d :: more ∧ isAlphanumeric d = true ∧
      ((isLetter d = true ∨ '0' ≤ d ∧ d ≤ '9') ↔ (isLetter c = true ∨ '0' ≤ c ∧ c ≤ '9')) := by
  rcases isLetter_or_isNumber hc with hletter | hnumber
  · obtain ⟨d, more, hupper, hd⟩ := toUpper_of_letter hletter
    exact ⟨d, more, hupper, isAlphanumeric_of_letter hd, by simp only [hd, hletter, true_or]⟩
  · exact ⟨c, [], toUpper_of_number hnumber, hc, Iff.rfl⟩

/-- A constant is an identifier just if the first alphanumeric character of the value is a letter
or a digit of ASCII, and no alphanumeric character has a mark in its capitals. -/
theorem isIdentifier_ofConstant_iff (value : String) :
    isIdentifier (ofConstant value).toList = true ↔
      (∃ c, value.toList.find? isAlphanumeric = some c ∧
        (isLetter c = true ∨ '0' ≤ c ∧ c ≤ '9')) ∧
      ∀ c ∈ value.toList, isAlphanumeric c = true → (toUpper c).all isIdentifierChar = true := by
  have hall : (shoutySnake value.toList).all isIdentifierChar = true ↔
      ∀ c ∈ value.toList, isAlphanumeric c = true → (toUpper c).all isIdentifierChar = true := by
    rw [all_shoutySnake isIdentifierChar_underscore, List.all_eq_true]
    simp only [List.mem_filter, and_imp]
  rw [ofConstant, String.toList_ofList, ← hall]
  cases hfind : value.toList.find? isAlphanumeric with
  | none => simp [shoutySnake_of_find?_eq_none hfind, startsWithDigit, isIdentifier]
  | some c =>
    obtain ⟨behind, hsnake⟩ := shoutySnake_of_find?_eq_some hfind
    obtain ⟨d, more, hupper, hd, hlead⟩ := toUpper_head (List.find?_some hfind)
    rw [hsnake, hupper, List.cons_append, isIdentifier_guarded_iff hd, hlead]
    simp only [Option.some.injEq, exists_eq_left']

/-- The underscore does not come before other digits than those of ASCII, and a value of symbols
has an empty constant. -/
theorem some_constants_are_not_identifiers :
    ofConstant "٣ days" = "٣_DAYS" ∧ isIdentifier (ofConstant "٣ days").toList = false ∧
      ofConstant "+" = "" ∧ isIdentifier (ofConstant "+").toList = false := by
  decide +kernel

end Naming
end TypeCatalog
