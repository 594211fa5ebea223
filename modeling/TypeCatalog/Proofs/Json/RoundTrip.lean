import TypeCatalog.Proofs.Json.Literals

/-!
Documents are read back from their compact text. This holds of plain documents, which have no other
numbers than integers that 64 bits hold, and no ill-formed strings. Main statements: `ofText?_toText`
and `eq_of_toText_eq`.
-/

namespace TypeCatalog.Json
open Reader

/-- A document whose numbers are integers that 64 bits hold and whose strings are well formed. -/
inductive Plain : Json → Prop
  | null : Plain .null
  | bool (value : Bool) : Plain (.bool value)
  | int {n : Int} (hlow : Int64.minValue.toInt ≤ n) (hhigh : n < UInt64.size) : Plain (.int n)
  | string (value : String) : Plain (.string value)
  | array {items : List Json} (h : ∀ j ∈ items, Plain j) : Plain (.array items)
  | object {members : List (String × Json)} (h : ∀ m ∈ members, Plain m.2) : Plain (.object members)

theorem ends_cons {c : Char} (hc : c = ',' ∨ c = ']' ∨ c = '\x7d') (cs : List Char) :
    Ends (c :: cs) := fun d hd => by
  cases hd
  exact hc

section
variable {α ν : Type} {name : String}

@[simp] theorem plain_string (value : String) : Plain (.string value) := .string value

@[simp] theorem plain_bool (value : Bool) : Plain (.bool value) := .bool value

@[simp] theorem plain_int64 (n : Int64) : Plain (.int n.toInt) :=
  .int n.minValue_le_toInt (Int.lt_trans n.toInt_lt (by decide))

@[simp] theorem plain_array {items : List Json} : Plain (.array items) ↔ ∀ j ∈ items, Plain j :=
  ⟨fun h => by cases h; assumption, .array⟩

@[simp] theorem plain_object {members : List (String × Json)} :
    Plain (.object members) ↔ ∀ m ∈ members, Plain m.2 :=
  ⟨fun h => by cases h; assumption, .object⟩

@[simp] theorem plain_present {members : List (String × Option Json)} :
    Plain (present members) ↔ ∀ m ∈ members, ∀ v, m.2 = some v → Plain v := by
  simp only [present, plain_object, List.mem_filterMap, Option.map_eq_some_iff]
  constructor
  · exact fun h m hm v hv => h (m.1, v) ⟨m, hm, v, hv, rfl⟩
  · rintro h _ ⟨m, hm, v, hv, rfl⟩
    exact h m hm v hv

@[simp] theorem plain_ofList {f : α → Json} {l : List α} :
    Plain (.ofList f l) ↔ ∀ a ∈ l, Plain (f a) := by
  simp [ofList]

@[simp] theorem plain_ofSet (s : KeySet String) : Plain (.ofSet s) := by
  simp [ofSet]

theorem plain_ofMap {f : ν → Json} (h : ∀ v, Plain (f v)) (m : KeyMap String ν) :
    Plain (.ofMap f m) := by
  rw [ofMap, plain_object]
  intro e he
  obtain ⟨e, -, rfl⟩ := List.mem_map.1 he
  exact h e.2

end

/-! ### Where a text starts -/

@[simp] theorem skipSpace_cons {c : Char} (hc : isSpace c = false) (cs : List Char) :
    skipSpace (c :: cs) = c :: cs :=
  List.dropWhile_cons_of_neg (by simp [hc])

/-- A text starts with a character that is neither a blank nor a closing bracket. -/
def Starts (cs : List Char) : Prop := ∃ c rest, cs = c :: rest ∧ isSpace c = false ∧ c ≠ ']'

theorem Starts.append {cs : List Char} (h : Starts cs) (rest : List Char) : Starts (cs ++ rest) := by
  obtain ⟨c, cs, rfl, hc⟩ := h
  exact ⟨c, cs ++ rest, rfl, hc⟩

/-- Whether a number may start with a character. -/
def startsNumber (c : Char) : Bool := c = '-' || Numeral.isDigit c

theorem isSpace_of_startsNumber {c : Char} (h : startsNumber c = true) : isSpace c = false := by
  cases hspace : isSpace c with
  | false => rfl
  | true =>
    simp only [isSpace, Bool.or_eq_true, decide_eq_true_eq] at hspace
    obtain ((rfl | rfl) | rfl) | rfl := hspace <;> exact absurd h (by decide)

theorem startsNumber_signedDigits (n : Int) :
    ∃ c cs, signedDigits n = c :: cs ∧ startsNumber c = true := by
  cases n with
  | ofNat n =>
    cases hdigits : digits n with
    | nil => exact absurd hdigits Nat.toDigits_ne_nil
    | cons c cs =>
      have hc : Numeral.isDigit c = true := isDigit_of_mem_digits (hdigits ▸ List.mem_cons_self)
      exact ⟨c, cs, hdigits, by rw [startsNumber, hc, Bool.or_true]⟩
  | negSucc n => exact ⟨'-', digits (n + 1), rfl, rfl⟩

theorem starts_compact {j : Json} (h : Plain j) : Starts j.compact := by
  cases h with
  | null => exact ⟨_, _, rfl, by decide⟩
  | bool value => cases value <;> exact ⟨_, _, rfl, by decide⟩
  | @int n hlow hhigh =>
    obtain ⟨c, cs, hn, hc⟩ := startsNumber_signedDigits n
    refine ⟨c, cs, hn, isSpace_of_startsNumber hc, ?_⟩
    rintro rfl
    exact absurd hc (by decide)
  | string value => exact ⟨_, _, rfl, by decide⟩
  | array => exact ⟨_, _, rfl, by decide⟩
  | object => exact ⟨_, _, rfl, by decide⟩

/-! ### Reading back -/

/-- Whatever follows, the document is read back from its text; two steps a character are enough. -/
def ReadsBack (j : Json) : Prop :=
  ∀ fuel rest, 2 * j.compact.length ≤ fuel → Ends rest →
    value fuel (j.compact ++ rest) = some (j, rest)

section
variable {fuel : Nat} {rest : List Char}

theorem value_string (s : String) :
    value (fuel + 1) (quoted s ++ rest) = some (.string s, rest) := by
  have hread : value (fuel + 1) (quoted s ++ rest) =
      (text (s.toList.flatMap escape ++ ['"'] ++ rest)).map fun r =>
        (r.1.elim .illFormed .string, r.2) := rfl
  rw [hread, List.append_assoc, List.singleton_append, text_quoted]
  rfl

/-- A text that starts like a number is read as one. -/
theorem value_number {c : Char} {cs : List Char} (hc : startsNumber c = true) :
    value (fuel + 1) (c :: cs) =
      (Reader.numeral (c :: cs)).map fun r => (.number r.1, r.2) := by
  rw [value, skipSpace_cons (isSpace_of_startsNumber hc)]
  split <;> first
    | rfl
    | rename_i h
      cases h
      exact absurd hc (by decide)

theorem value_array {cs : List Char} (h : Starts cs) :
    value (fuel + 1) ('[' :: cs) = (items fuel cs).map fun r => (.array r.1, r.2) := by
  obtain ⟨c, cs, rfl, hspace, hc⟩ := h
  rw [value, skipSpace_cons (by decide)]
  simp only [skipSpace_cons hspace]
  split
  · rename_i h
    exact absurd (List.cons.inj h).1 hc
  · rfl

theorem value_object {cs : List Char} :
    value (fuel + 1) ('\x7b' :: '"' :: cs) =
      (members fuel ('"' :: cs)).map fun r => (Reader.object r.1, r.2) := rfl

theorem readsBack_int {n : Int} (hlow : Int64.minValue.toInt ≤ n) (hhigh : n < UInt64.size) :
    ReadsBack (.int n) := by
  intro fuel rest hfuel hrest
  obtain ⟨c, cs, hn, hc⟩ := startsNumber_signedDigits n
  have hcompact : (int n).compact = c :: cs := hn
  rw [hcompact, List.length_cons] at hfuel
  obtain ⟨fuel, rfl⟩ : ∃ f, fuel = f + 1 := ⟨fuel - 1, by omega⟩
  have hread := numeral_integer hrest hlow hhigh
  rw [show Json.numeral (.integer n) = c :: cs from hn, List.cons_append] at hread
  rw [hcompact, List.cons_append, value_number hc, hread]
  rfl

theorem items_last {j : Json} {cs : List Char} (h : value fuel cs = some (j, ']' :: rest)) :
    items (fuel + 1) cs = some ([j], rest) := by
  rw [items, h]
  rfl

theorem items_more {j : Json} {cs : List Char} (h : value fuel cs = some (j, ',' :: rest)) :
    items (fuel + 1) cs = (items fuel rest).map fun r => (j :: r.1, r.2) := by
  rw [items, h]
  rfl

/-- The items of an array are read back up to its end. -/
theorem items_compact {xs : List Json} (hne : xs ≠ []) (h : ∀ j ∈ xs, ReadsBack j)
    (hfuel : 2 * (compactItems xs).length + 1 ≤ fuel) :
    items fuel (compactItems xs ++ ']' :: rest) = some (xs, rest) := by
  induction xs generalizing fuel with
  | nil => exact absurd rfl hne
  | cons j xs ih =>
    obtain ⟨fuel, rfl⟩ : ∃ f, fuel = f + 1 := ⟨fuel - 1, by omega⟩
    have hj : ReadsBack j := h j List.mem_cons_self
    cases xs with
    | nil =>
      rw [compactItems] at hfuel ⊢
      exact items_last (hj fuel _ (by omega) (ends_cons (by decide) _))
    | cons k xs =>
      have hcons : compactItems (j :: k :: xs) = j.compact ++ ',' :: compactItems (k :: xs) := by
        simp only [compactItems]
      rw [hcons, List.length_append, List.length_cons] at hfuel
      have hrest : items fuel (compactItems (k :: xs) ++ ']' :: rest) = some (k :: xs, rest) :=
        ih (List.cons_ne_nil k xs) (fun j hj => h j (List.mem_cons_of_mem _ hj)) (by omega)
      rw [hcons, List.append_assoc, List.cons_append,
        items_more (hj fuel _ (by omega) (ends_cons (by decide) _)), hrest]
      rfl

theorem quoted_append (name : String) (cs : List Char) :
    quoted name ++ cs = '"' :: (name.toList.flatMap escape ++ '"' :: cs) := by
  simp only [quoted, List.cons_append, List.append_assoc, List.nil_append]

theorem members_last {name : String} {j : Json} {cs : List Char}
    (h : value fuel cs = some (j, '\x7d' :: rest)) :
    members (fuel + 1) (quoted name ++ ':' :: cs) = some ([(some name, j)], rest) := by
  rw [quoted_append, members, skipSpace_cons (by decide)]
  simp only [text_quoted, skipSpace_cons (show isSpace ':' = false by decide), h,
    skipSpace_cons (show isSpace '\x7d' = false by decide)]

theorem members_more {name : String} {j : Json} {cs : List Char}
    (h : value fuel cs = some (j, ',' :: rest)) :
    members (fuel + 1) (quoted name ++ ':' :: cs) =
      (members fuel rest).map fun r => ((some name, j) :: r.1, r.2) := by
  rw [quoted_append, members, skipSpace_cons (by decide)]
  simp only [text_quoted, skipSpace_cons (show isSpace ':' = false by decide), h,
    skipSpace_cons (show isSpace ',' = false by decide)]

/-- The members of an object are read back up to its end. -/
theorem members_compact {ms : List (String × Json)} (hne : ms ≠ []) (h : ∀ m ∈ ms, ReadsBack m.2)
    (hfuel : 2 * (compactMembers ms).length + 1 ≤ fuel) :
    members fuel (compactMembers ms ++ '\x7d' :: rest) =
      some (ms.map fun m => (some m.1, m.2), rest) := by
  induction ms generalizing fuel with
  | nil => exact absurd rfl hne
  | cons m ms ih =>
    obtain ⟨fuel, rfl⟩ : ∃ f, fuel = f + 1 := ⟨fuel - 1, by omega⟩
    obtain ⟨name, j⟩ := m
    have hj : ReadsBack j := h (name, j) List.mem_cons_self
    cases ms with
    | nil =>
      have hlast : compactMembers [(name, j)] = quoted name ++ ':' :: j.compact := by
        simp only [compactMembers]
      rw [hlast, List.length_append, List.length_cons] at hfuel
      rw [hlast, List.append_assoc, List.cons_append]
      exact members_last (hj fuel _ (by omega) (ends_cons (by decide) _))
    | cons m ms =>
      have hcons : compactMembers ((name, j) :: m :: ms) =
          quoted name ++ ':' :: (j.compact ++ ',' :: compactMembers (m :: ms)) := by
        simp only [compactMembers, List.cons_append, List.append_assoc]
      rw [hcons, List.length_append, List.length_cons, List.length_append, List.length_cons] at hfuel
      have hrest : members fuel (compactMembers (m :: ms) ++ '\x7d' :: rest) =
          some ((m :: ms).map fun m => (some m.1, m.2), rest) :=
        ih (List.cons_ne_nil m ms) (fun m hm => h m (List.mem_cons_of_mem _ hm)) (by omega)
      rw [hcons, List.append_assoc, List.cons_append, List.append_assoc, List.cons_append,
        members_more (hj fuel _ (by omega) (ends_cons (by decide) _)), hrest]
      rfl

end

/-! ### Documents -/

/-- Members with proper names make an object. -/
theorem object_named (ms : List (String × Json)) :
    Reader.object (ms.map fun m => (some m.1, m.2)) = .object ms := by
  have hnamed : (ms.map fun m => (some m.1, m.2)).mapM
      (fun m : Option String × Json => m.1.map (·, m.2)) = some ms := by
    induction ms with
    | nil => rfl
    | cons m ms ih =>
      rw [List.map_cons, List.mapM_cons, ih]
      rfl
  rw [Reader.object, hnamed]

theorem readsBack_array {xs : List Json} (hplain : ∀ j ∈ xs, Plain j)
    (h : ∀ j ∈ xs, ReadsBack j) : ReadsBack (.array xs) := by
  intro fuel rest hfuel hrest
  have hcompact : (Json.array xs).compact ++ rest = '[' :: (compactItems xs ++ ']' :: rest) := by
    simp only [compact, List.cons_append, List.append_assoc, List.nil_append]
  have hlength : (Json.array xs).compact.length = (compactItems xs).length + 2 := by
    simp only [compact, List.length_append, List.length_cons, List.length_nil]
  rw [hlength] at hfuel
  obtain ⟨fuel, rfl⟩ : ∃ f, fuel = f + 1 := ⟨fuel - 1, by omega⟩
  rw [hcompact]
  cases xs with
  | nil => rfl
  | cons j xs =>
    have hstarts : Starts (compactItems (j :: xs)) := by
      have hj := starts_compact (hplain j List.mem_cons_self)
      cases xs with
      | nil => simpa only [compactItems] using hj
      | cons k xs => simpa only [compactItems] using hj.append _
    rw [value_array (hstarts.append _), items_compact (List.cons_ne_nil j xs) h (by omega)]
    rfl

theorem readsBack_object {ms : List (String × Json)} (h : ∀ m ∈ ms, ReadsBack m.2) :
    ReadsBack (.object ms) := by
  intro fuel rest hfuel hrest
  have hcompact : (Json.object ms).compact ++ rest =
      '\x7b' :: (compactMembers ms ++ '\x7d' :: rest) := by
    simp only [compact, List.cons_append, List.append_assoc, List.nil_append]
  have hlength : (Json.object ms).compact.length = (compactMembers ms).length + 2 := by
    simp only [compact, List.length_append, List.length_cons, List.length_nil]
  rw [hlength] at hfuel
  obtain ⟨fuel, rfl⟩ : ∃ f, fuel = f + 1 := ⟨fuel - 1, by omega⟩
  rw [hcompact]
  cases ms with
  | nil => rfl
  | cons m ms =>
    have hread : members fuel (compactMembers (m :: ms) ++ '\x7d' :: rest) =
        some ((m :: ms).map fun m => (some m.1, m.2), rest) :=
      members_compact (List.cons_ne_nil m ms) h (by omega)
    obtain ⟨cs, hquote⟩ : ∃ cs, compactMembers (m :: ms) ++ '\x7d' :: rest = '"' :: cs := by
      cases ms <;> exact ⟨_, rfl⟩
    rw [hquote] at hread ⊢
    simp only [value_object, hread, Option.map_some, object_named]

/-- Every plain document is read back, whatever follows it. -/
theorem Plain.readsBack {j : Json} (h : Plain j) : ReadsBack j := by
  induction h with
  | null =>
    intro fuel rest hfuel hrest
    obtain ⟨fuel, rfl⟩ : ∃ f, fuel = f + 1 := ⟨fuel - 1, by simp [compact] at hfuel; omega⟩
    rfl
  | bool value =>
    intro fuel rest hfuel hrest
    cases value <;>
    · obtain ⟨fuel, rfl⟩ : ∃ f, fuel = f + 1 := ⟨fuel - 1, by simp [compact] at hfuel; omega⟩
      rfl
  | int hlow hhigh => exact readsBack_int hlow hhigh
  | string s =>
    intro fuel rest hfuel hrest
    obtain ⟨fuel, rfl⟩ : ∃ f, fuel = f + 1 :=
      ⟨fuel - 1, by simp [compact, quoted] at hfuel; omega⟩
    exact value_string s
  | array hplain ih => exact readsBack_array hplain ih
  | object hplain ih => exact readsBack_object ih

/-- The text of a plain document is that of this document. -/
theorem ofText?_toText {j : Json} (h : Plain j) : ofText? j.toText = some j := by
  have hread := h.readsBack (2 * j.compact.length + 2) [] (by omega) fun c hc => by cases hc
  rw [List.append_nil] at hread
  rw [ofText?, toText, String.toList_ofList, ofChars?, hread]
  rfl

/-- Plain documents of one text are the same. -/
theorem eq_of_toText_eq {j j' : Json} (h : Plain j) (h' : Plain j') (he : j.toText = j'.toText) :
    j = j' :=
  Option.some.inj ((ofText?_toText h).symm.trans (he ▸ ofText?_toText h'))

end TypeCatalog.Json
