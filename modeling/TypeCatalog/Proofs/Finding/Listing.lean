import Mathlib.Data.List.Sort
import TypeCatalog.Finding

/-!
The listing of a log. It is strictly ascending and lists what is in the log, so that it depends on
neither the order of the findings nor their repetitions. Main statements: `ascending_listing`,
`mem_listing` and `listing_congr`.
-/

namespace TypeCatalog

/-- Strictly ascending lists with the same members are equal. -/
theorem eq_of_ascending {α : Type} [Ord α] [Std.TransOrd α] {l l' : List α}
    (h : l.Pairwise fun a b => compare a b = .lt)
    (h' : l'.Pairwise fun a b => compare a b = .lt) (hmem : ∀ a, a ∈ l ↔ a ∈ l') : l = l' := by
  have : Std.Irrefl fun a b : α => compare a b = .lt :=
    ⟨fun a h => by simp [Std.ReflCmp.compare_self] at h⟩
  have : Std.Antisymm fun a b : α => compare a b = .lt :=
    ⟨fun a b hab hba => by
      have := Std.TransCmp.lt_trans hab hba
      simp [Std.ReflCmp.compare_self] at this⟩
  exact h.eq_of_mem_iff h' hmem

/-! ### The order of findings -/

namespace Finding

instance : Std.TransOrd Finding :=
  inferInstanceAs <| Std.TransCmp <| compareLex (compareOn fun f : Finding => f.kind.rank) <|
    compareLex (compareOn Finding.owner) <|
      compareLex (compareOn Finding.subject) (compareOn Finding.detail)

instance : Std.LawfulEqOrd Finding where
  eq_of_compare {a b} h := by
    change ((compare a.kind.rank b.kind.rank).then <| (compare a.owner b.owner).then <|
      (compare a.subject b.subject).then (compare a.detail b.detail)) = .eq at h
    simp only [Ordering.then_eq_eq, Std.LawfulEqCmp.compare_eq_iff_eq] at h
    obtain ⟨hkind, howner, hsubject, hdetail⟩ := h
    have hkind := FindingKind.rank_injective hkind
    cases a
    cases b
    simp_all

end Finding

namespace Log

theorem addAll_append (log : Log) (fs gs : List Finding) :
    log.addAll (fs ++ gs) = (log.addAll fs).addAll gs :=
  List.foldl_append

theorem mem_addAll {log : Log} {fs : List Finding} {f : Finding} :
    f ∈ (log.addAll fs).entries ↔ f ∈ log.entries ∨ f ∈ fs := by
  induction fs generalizing log with
  | nil => simp [addAll]
  | cons g rest ih =>
    have hadd : log.addAll (g :: rest) = (log.add g).addAll rest := rfl
    rw [hadd, ih, add, List.mem_cons, List.mem_cons]
    exact or_assoc.trans or_left_comm

theorem mem_dropRepeats {f : Finding} {l : List Finding} : f ∈ dropRepeats l ↔ f ∈ l := by
  fun_induction dropRepeats l with
  | case1 g rest ih => simp [ih]
  | case2 g h rest hne ih => simp [ih]
  | case3 => rfl

theorem ascending_dropRepeats {l : List Finding}
    (h : l.Pairwise fun a b => (compare a b).isLE) :
    (dropRepeats l).Pairwise fun a b => compare a b = .lt := by
  fun_induction dropRepeats l with
  | case1 g rest ih => exact ih h.tail
  | case2 g k rest hne ih =>
    obtain ⟨hg, hrest⟩ := List.pairwise_cons.1 h
    have hgk : compare g k = .lt := by
      rcases Ordering.isLE_iff_eq_lt_or_eq_eq.1 (hg k List.mem_cons_self) with hlt | heq
      · exact hlt
      · exact absurd (Std.LawfulEqCmp.eq_of_compare heq) hne
    refine List.pairwise_cons.2 ⟨fun f hf => ?_, ih hrest⟩
    rcases List.mem_cons.1 (mem_dropRepeats.1 hf) with rfl | hf
    · exact hgk
    · exact Std.TransCmp.lt_of_lt_of_isLE hgk ((List.pairwise_cons.1 hrest).1 f hf)
  | case3 fs hfs =>
    match fs with
    | [] => exact .nil
    | [f] => exact List.pairwise_singleton _ f
    | f :: g :: rest => exact absurd rfl (hfs f g rest)

/-- A listing is strictly ascending. -/
theorem ascending_listing (log : Log) :
    log.listing.Pairwise fun a b => compare a b = .lt :=
  ascending_dropRepeats <| List.pairwise_mergeSort
    (fun _ _ _ => Std.TransCmp.isLE_trans)
    (fun a b => by cases h : compare a b <;> simp [h, Std.OrientedCmp.eq_swap (a := b)]) _

/-- A listing lists what is in the log. -/
theorem mem_listing {log : Log} {f : Finding} : f ∈ log.listing ↔ f ∈ log.entries := by
  rw [listing, mem_dropRepeats, List.mem_mergeSort]

/-- Logs of the same findings have the same listing, in whatever order and how often they were
found. -/
theorem listing_congr {log log' : Log} (h : ∀ f, f ∈ log.entries ↔ f ∈ log'.entries) :
    log.listing = log'.listing :=
  eq_of_ascending (ascending_listing log) (ascending_listing log') fun f => by
    rw [mem_listing, mem_listing, h]

end Log
end TypeCatalog
