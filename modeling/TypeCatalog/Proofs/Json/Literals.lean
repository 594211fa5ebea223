import TypeCatalog.Json.Printer
import TypeCatalog.Json.Reader

/-!
String and number literals are read back. Every string is, whatever characters it has; of numbers
those integers are that 64 bits hold. Main statements: `text_quoted` and `numeral_integer`.
-/

namespace TypeCatalog.Json

/-! ### Strings -/

namespace Reader

/-- A reverse solidus and a letter are one piece. -/
theorem pieces_short {c d : Char} (hd : d ≠ 'u') (hc : unescape? d = some c) (cs : List Char) :
    pieces ('\\' :: d :: cs) = (pieces cs).map fun r => (.literal c :: r.1, r.2) := by
  rw [pieces.eq_4 d cs fun _ _ _ _ _ he => absurd he hd, hc]
  cases pieces cs <;> rfl

/-- A unit in hexadecimal digits is one piece. -/
theorem pieces_unit {a b c d : Char} {unit : Nat} (h : hexUnit? a b c d = some unit)
    (cs : List Char) :
    pieces ('\\' :: 'u' :: a :: b :: c :: d :: cs) =
      (pieces cs).map fun r => (.escaped unit :: r.1, r.2) := by
  rw [pieces.eq_3, h]
  cases pieces cs <;> rfl

/-- So is a character that needs no escaping. -/
theorem pieces_literal {c : Char} (hquote : c ≠ '"') (hsolidus : c ≠ '\\')
    (hcontrol : ¬ c.toNat < 32) (cs : List Char) :
    pieces (c :: cs) = (pieces cs).map fun r => (.literal c :: r.1, r.2) := by
  rw [pieces.eq_5 c cs hquote (fun _ _ _ _ _ he => absurd he hsolidus)
    fun _ _ he => absurd he hsolidus, if_neg hcontrol]
  cases pieces cs <;> rfl

/-- A unit that is no half of a surrogate pair denotes its character, whatever follows. -/
theorem denoted_unit {unit : Nat} (hleading : isLeading unit = false)
    (htrailing : isTrailing unit = false) (ps : List Piece) :
    denoted (.escaped unit :: ps) = (denoted ps).map (Char.ofNat unit :: ·) := by
  cases ps with
  | nil => simp [denoted, hleading, htrailing]
  | cons p ps => cases p <;> simp [denoted, hleading, htrailing]

end Reader
open Reader

/-- What is written of a character inside a string is read as one piece, which denotes it. -/
structure ReadAs (c : Char) (p : Piece) : Prop where
  pieces : ∀ cs, pieces (escape c ++ cs) = (pieces cs).map fun r => (p :: r.1, r.2)
  denoted : ∀ ps, denoted (p :: ps) = (denoted ps).map (c :: ·)

theorem readAs_short {c : Char} (d : Char)
    (h : escape c = ['\\', d] ∧ d ≠ 'u' ∧ unescape? d = some c) : ReadAs c (.literal c) where
  pieces cs := by
    rw [h.1]
    exact pieces_short h.2.1 h.2.2 cs
  denoted _ := rfl

/-- The four digits of a control character are those of its code. -/
theorem hexUnit?_control : ∀ n < 32,
    hexUnit? '0' '0' (hexDigit (n / 16)) (hexDigit n) = some n := by decide

/-- Each character is read back, in whichever form it is written. -/
theorem readAs_escape (c : Char) : ∃ p, ReadAs c p := by
  by_cases hquote : c = '"'
  · exact ⟨_, readAs_short '"' (by subst hquote; decide)⟩
  by_cases hsolidus : c = '\\'
  · exact ⟨_, readAs_short '\\' (by subst hsolidus; decide)⟩
  by_cases hback : c = '\x08'
  · exact ⟨_, readAs_short 'b' (by subst hback; decide)⟩
  by_cases htab : c = '\t'
  · exact ⟨_, readAs_short 't' (by subst htab; decide)⟩
  by_cases hline : c = '\n'
  · exact ⟨_, readAs_short 'n' (by subst hline; decide)⟩
  by_cases hfeed : c = '\x0c'
  · exact ⟨_, readAs_short 'f' (by subst hfeed; decide)⟩
  by_cases hreturn : c = '\r'
  · exact ⟨_, readAs_short 'r' (by subst hreturn; decide)⟩
  by_cases hcontrol : c.toNat < 32
  · have hescape : escape c = ['\\', 'u', '0', '0', hexDigit (c.toNat / 16), hexDigit c.toNat] := by
      simp only [escape, hquote, hsolidus, hback, htab, hline, hfeed, hreturn, hcontrol, if_true,
        if_false]
    refine ⟨.escaped c.toNat, fun cs => ?_, fun ps => ?_⟩
    · rw [hescape]
      exact pieces_unit (hexUnit?_control _ hcontrol) cs
    · rw [denoted_unit, Char.ofNat_toNat]
      · simp only [isLeading, Bool.and_eq_false_iff, decide_eq_false_iff_not]
        omega
      · simp only [isTrailing, Bool.and_eq_false_iff, decide_eq_false_iff_not]
        omega
  · have hescape : escape c = [c] := by
      simp only [escape, hquote, hsolidus, hback, htab, hline, hfeed, hreturn, hcontrol, if_false]
    refine ⟨.literal c, fun cs => ?_, fun _ => rfl⟩
    rw [hescape]
    exact pieces_literal hquote hsolidus hcontrol cs

/-- The escaped characters up to the closing mark are pieces that denote the characters. -/
theorem pieces_escaped (cs rest : List Char) :
    ∃ ps, pieces (cs.flatMap escape ++ '"' :: rest) = some (ps, rest) ∧ denoted ps = some cs := by
  induction cs with
  | nil => exact ⟨[], rfl, rfl⟩
  | cons c cs ih =>
    obtain ⟨ps, hps, hdenoted⟩ := ih
    obtain ⟨p, hp⟩ := readAs_escape c
    refine ⟨p :: ps, ?_, ?_⟩
    · rw [List.flatMap_cons, List.append_assoc, hp.pieces, hps]
      rfl
    · rw [hp.denoted, hdenoted]
      rfl

/-- A string literal behind its opening mark gives the string. -/
theorem text_quoted (s : String) (rest : List Char) :
    text (s.toList.flatMap escape ++ '"' :: rest) = some (some s, rest) := by
  obtain ⟨ps, hps, hdenoted⟩ := pieces_escaped s.toList rest
  simp only [text, hps, Option.map_some, hdenoted, String.ofList_toList]

/-! ### Numbers -/

theorem isDigit_of_mem_digits {n : Nat} {c : Char} (h : c ∈ digits n) :
    Numeral.isDigit c = true :=
  have hdigit := Nat.isDigit_of_mem_toDigits (by decide) (by decide) h
  (Bool.and_eq_true_iff.1 hdigit).elim fun hlow hhigh => Bool.and_eq_true_iff.2 ⟨hlow, hhigh⟩

/-- Only zero starts with the digit zero. -/
theorem head_digits {n : Nat} (h : 0 < n) : (digits n).head? ≠ some '0' := by
  induction n using Nat.strongRecOn with
  | _ n ih =>
    rw [digits]
    by_cases hn : n < 10
    · rw [Nat.toDigits_of_lt_base hn]
      have hchar : ∀ n < 10, 0 < n → [n.digitChar].head? ≠ some '0' := by decide
      exact hchar n hn h
    · have hhead := ih (n / 10) (by omega) (by omega)
      rw [Nat.toDigits_of_base_le (by decide) (by omega), List.head?_append]
      rw [digits] at hhead
      cases hdigits : Nat.toDigits 10 (n / 10) with
      | nil => exact absurd hdigits Nat.toDigits_ne_nil
      | cons d ds =>
        rw [hdigits] at hhead
        exact hhead

theorem le_ofDigitChars (ds : List Char) (n : Nat) : n ≤ Nat.ofDigitChars 10 ds n := by
  induction ds generalizing n with
  | nil => exact Nat.le_refl n
  | cons d ds ih =>
    rw [Nat.ofDigitChars_cons]
    exact Nat.le_trans (by omega) (ih _)

/-- Digits are appended to a number as long as 64 bits hold what comes out. -/
theorem append_digits {ds : List Char} {n : Nat}
    (h : Nat.ofDigitChars 10 ds n < UInt64.size) :
    Numeral.append n ds = (Nat.ofDigitChars 10 ds n, []) := by
  induction ds generalizing n with
  | nil => rfl
  | cons d ds ih =>
    have hvalue : 10 * n + (d.toNat - '0'.toNat) = n * 10 + Numeral.digitValue d := by
      rw [Numeral.digitValue, Nat.mul_comm]
    rw [Nat.ofDigitChars_cons, hvalue] at h ⊢
    rw [Numeral.append, if_pos (Nat.lt_of_le_of_lt (le_ofDigitChars ..) h), ih h]

/-- What may follow a value in a document: its end, a comma or a closing bracket. -/
def Ends (rest : List Char) : Prop := ∀ c ∈ rest.head?, c = ',' ∨ c = ']' ∨ c = '\x7d'

section
variable {rest : List Char}

/-- All of a number's digits are read, and nothing else. -/
theorem wholePart_digits (hrest : Ends rest) (n : Nat) :
    wholePart (digits n ++ rest) = some (digits n, rest) := by
  have hall : ∀ c ∈ digits n, Numeral.isDigit c = true := fun _ => isDigit_of_mem_digits
  have hend : rest.takeWhile Numeral.isDigit = [] ∧ rest.dropWhile Numeral.isDigit = rest := by
    cases rest with
    | nil => exact ⟨rfl, rfl⟩
    | cons c cs =>
      have hc : Numeral.isDigit c = false := by
        rcases hrest c rfl with rfl | rfl | rfl <;> decide
      exact ⟨List.takeWhile_cons_of_neg (by simp [hc]), List.dropWhile_cons_of_neg (by simp [hc])⟩
  have hsome : someDigits (digits n ++ rest) = some (digits n, rest) := by
    simp only [someDigits, List.takeWhile_append_of_pos hall, List.dropWhile_append_of_pos hall,
      hend, List.append_nil]
    rw [if_neg (by simp [digits, Nat.toDigits_ne_nil])]
  -- zero is the only number whose digits start with a zero, and it has no further ones
  by_cases hn : n = 0
  · subst hn
    rw [wholePart, hsome]
    rfl
  · have hhead := head_digits (Nat.pos_of_ne_zero hn)
    rw [wholePart, hsome]
    split
    · rename_i hdigits
      rw [(Prod.mk.inj (Option.some.inj hdigits)).1] at hhead
      exact absurd rfl hhead
    · rfl

/-- Digits before the end of a number are an integer. -/
theorem unsignedNumeral_digits (hrest : Ends rest) (negative : Bool) (n : Nat) :
    unsignedNumeral negative (digits n ++ rest) =
      some (.ofWhole negative (digits n), rest) := by
  have hfraction : fraction rest = some (none, rest) := by
    cases rest with
    | nil => rfl
    | cons c cs => rcases hrest c rfl with rfl | rfl | rfl <;> rfl
  have hexponent : exponent rest = some (none, rest) := by
    cases rest with
    | nil => rfl
    | cons c cs => rcases hrest c rfl with rfl | rfl | rfl <;> rfl
  simp only [unsignedNumeral, wholePart_digits hrest, hfraction, hexponent, Option.bind_eq_bind,
    Option.bind_some, Option.pure_def]
  rfl

/-- An integer that 64 bits hold, with or without a sign, is read back. -/
theorem numeral_integer (hrest : Ends rest) {n : Int} (hlow : Int64.minValue.toInt ≤ n)
    (hhigh : n < UInt64.size) :
    Reader.numeral (Json.numeral (.integer n) ++ rest) = some (.integer n, rest) := by
  have happend : ∀ m : Nat, m < UInt64.size → Numeral.append 0 (digits m) = (m, []) := by
    intro m hm
    rw [digits, append_digits (by rwa [Nat.ofDigitChars_ten_toDigits]),
      Nat.ofDigitChars_ten_toDigits]
  cases n with
  | ofNat m =>
    rw [Int.ofNat_eq_natCast] at hhigh
    have hwhole : Numeral.ofWhole false (digits m) = .integer m := by
      rw [Numeral.ofWhole, happend m (by omega)]
      rfl
    have hread : Reader.numeral (digits m ++ rest) = unsignedNumeral false (digits m ++ rest) := by
      cases hdigits : digits m with
      | nil => exact absurd hdigits Nat.toDigits_ne_nil
      | cons d ds =>
        have hd : Numeral.isDigit d = true :=
          isDigit_of_mem_digits (hdigits ▸ List.mem_cons_self)
        rw [List.cons_append, Reader.numeral]
        intro t ht
        cases ht
        exact absurd hd (by decide)
    rw [Json.numeral, signedDigits, hread, unsignedNumeral_digits hrest, hwhole]
    rfl
  | negSucc m =>
    have hwhole : Numeral.ofWhole true (digits (m + 1)) = .integer (.negSucc m) := by
      rw [show Int64.minValue.toInt = -9223372036854775808 from rfl] at hlow
      rw [Numeral.ofWhole, happend (m + 1) (by simp only [UInt64.size]; omega)]
      simp only [List.isEmpty_nil, UInt64.size]
      rw [if_neg (by simp), if_pos ⟨trivial, by omega, by omega⟩]
      rfl
    rw [Json.numeral, signedDigits, List.cons_append, Reader.numeral,
      unsignedNumeral_digits hrest, hwhole]

end

end TypeCatalog.Json
