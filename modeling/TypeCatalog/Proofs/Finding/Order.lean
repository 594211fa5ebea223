import TypeCatalog.Proofs.Finding.Listing
import TypeCatalog.Proofs.Text.ByteOrder

/-!
A listing is the only list of its kind: findings come by kind and then in the order of the bytes of
their texts, each of them once (`eq_listing_iff`). Counting, on the other hand, counts repetitions.
Main statement: `findings_are_listed`.
-/

namespace TypeCatalog
open Text (bytes)

/-- A finding comes before another one: by its kind, then by its owner, its subject, its detail. -/
inductive Finding.Before (f g : Finding) : Prop
  | kind : f.kind.rank < g.kind.rank → Before f g
  | owner : f.kind = g.kind → bytes f.owner < bytes g.owner → Before f g
  | subject : f.kind = g.kind → f.owner = g.owner → bytes f.subject < bytes g.subject → Before f g
  | detail : f.kind = g.kind → f.owner = g.owner → f.subject = g.subject →
      bytes f.detail < bytes g.detail → Before f g

namespace Finding

/-- The order by bytes is the order in which findings are sorted. -/
theorem before_iff {f g : Finding} : f.Before g ↔ compare f g = .lt := by
  have hcompare : compare f g = ((compare f.kind.rank g.kind.rank).then <|
      (compare f.owner g.owner).then <|
        (compare f.subject g.subject).then (compare f.detail g.detail)) := rfl
  simp only [hcompare, Ordering.then_eq_lt, Nat.compare_eq_lt,
    Std.LawfulEqCmp.compare_eq_iff_eq, ← Text.bytes_lt_iff]
  constructor
  · intro h
    cases h with
    | kind hkind => exact .inl hkind
    | owner hkind howner => exact .inr ⟨congrArg _ hkind, .inl howner⟩
    | subject hkind howner hsubject =>
      exact .inr ⟨congrArg _ hkind, .inr ⟨howner, .inl hsubject⟩⟩
    | detail hkind howner hsubject hdetail =>
      exact .inr ⟨congrArg _ hkind, .inr ⟨howner, .inr ⟨hsubject, hdetail⟩⟩⟩
  · rintro (hkind | ⟨hkind, howner | ⟨howner, hsubject | ⟨hsubject, hdetail⟩⟩⟩)
    · exact .kind hkind
    · exact .owner (FindingKind.rank_injective hkind) howner
    · exact .subject (FindingKind.rank_injective hkind) howner hsubject
    · exact .detail (FindingKind.rank_injective hkind) howner hsubject hdetail

end Finding

namespace Log

theorem entries_addAll (log : Log) (fs : List Finding) :
    (log.addAll fs).entries = fs.reverse ++ log.entries := by
  induction fs generalizing log with
  | nil => rfl
  | cons f rest ih =>
    have hadd : log.addAll (f :: rest) = (log.add f).addAll rest := rfl
    rw [hadd, ih, add, List.reverse_cons, List.append_assoc, List.singleton_append]

/-- The listing is the one list that is in order and lists what is in the log. -/
theorem eq_listing_iff {log : Log} {l : List Finding} :
    l = log.listing ↔ l.Pairwise Finding.Before ∧ ∀ f, f ∈ l ↔ f ∈ log.entries := by
  have hordered : ∀ l : List Finding,
      l.Pairwise Finding.Before ↔ l.Pairwise fun a b => compare a b = .lt :=
    fun l => ⟨.imp Finding.before_iff.1, .imp Finding.before_iff.2⟩
  rw [hordered]
  constructor
  · rintro rfl
    exact ⟨ascending_listing log, fun f => mem_listing⟩
  · rintro ⟨hasc, hmem⟩
    exact eq_of_ascending hasc (ascending_listing log) fun f => (hmem f).trans mem_listing.symm

/-- Logs have one listing exactly if the same was found. -/
theorem listing_eq_iff {log log' : Log} :
    log.listing = log'.listing ↔ ∀ f, f ∈ log.entries ↔ f ∈ log'.entries := by
  refine ⟨fun h f => ?_, listing_congr⟩
  rw [← mem_listing, h, mem_listing]

end Log

/-- Whatever was found, in whatever order and how often: the listing is the only list that is in
order and lists what was found, and so shows neither order nor repetitions; the numbers of findings
count repetitions. -/
theorem findings_are_listed (found : List Finding) :
    let log := ({} : Log).addAll found
    (∀ l : List Finding,
      l = log.listing ↔ l.Pairwise Finding.Before ∧ ∀ f, f ∈ l ↔ f ∈ found) ∧
    (∀ found' : List Finding,
      (({} : Log).addAll found').listing = log.listing ↔ ∀ f, f ∈ found' ↔ f ∈ found) ∧
    log.size = found.length ∧
    ∀ kind, log.countOf kind = (found.filter fun f => f.kind = kind).length := by
  have hentries (fs : List Finding) : (({} : Log).addAll fs).entries = fs.reverse := by
    rw [Log.entries_addAll, List.append_nil]
  intro log
  refine ⟨fun l => ?_, fun found' => ?_, ?_, fun kind => ?_⟩
  · simp only [Log.eq_listing_iff, log, hentries, List.mem_reverse]
  · simp only [Log.listing_eq_iff, log, hentries, List.mem_reverse]
  · rw [Log.size, hentries, List.length_reverse]
  · rw [Log.countOf, hentries, List.countP_reverse, List.countP_eq_length_filter]

end TypeCatalog
