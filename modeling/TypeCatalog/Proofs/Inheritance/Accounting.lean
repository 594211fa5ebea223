import TypeCatalog.Proofs.Finding.Listing
import TypeCatalog.Proofs.Inheritance.Additions
import TypeCatalog.Proofs.Inheritance.Visibility
import TypeCatalog.Proofs.KeyMap

/-!
No declaration gets lost silently. Of the declarations that are passed on in the lineage of an
entity each one is kept under its name or is found to be discarded for the one that is kept, and
each name in the lineage without a definition is found once. All this is logged when the entity is
first asked about, and not again. Main statements: `accounts_gather`, `accounts_closure` and
`closures_account`.
-/

namespace TypeCatalog
open Relation Catalog
open scoped List

variable {α : Type} {c : Catalog} {m : Member α}

/-! ### Gathering -/

/-- A finding says that a declaration was discarded for the one that stands under its name. -/
def Refuses (m : Member α) (target : String) (closure : Closure α) (o : Owned α) (f : Finding) :
    Prop :=
  ∃ kept, closure.find? (m.name o.declaration) = some kept ∧
    f = declarationConflict m target kept o

/-- What was there before and what is gathered are kept, but for what is found to be discarded; the
finding names the declaration that is kept at the end. -/
theorem accounts_gather (target : String) (l : List (Owned α)) (closure : Closure α) :
    ∃ discarded,
      closure.values ++ l ~ (gather m target l closure).1.values ++ discarded ∧
      List.Forall₂ (Refuses m target (gather m target l closure).1) discarded
        (gather m target l closure).2 := by
  induction l generalizing closure with
  | nil => exact ⟨[], .refl _, .nil⟩
  | cons o rest ih =>
    rw [gather]
    cases hk : closure.find? (m.name o.declaration) with
    | some kept =>
      obtain ⟨discarded, hperm, hrefused⟩ := ih closure
      -- what stands under the name now stands there at the end
      have hkept : (gather m target rest closure).1.find? (m.name o.declaration) = some kept := by
        rw [find?_gather, hk, Option.some_or]
      refine ⟨o :: discarded, ?_, .cons ⟨kept, hkept, rfl⟩ hrefused⟩
      calc closure.values ++ o :: rest
        _ ~ o :: (closure.values ++ rest) := List.perm_middle
        _ ~ o :: ((gather m target rest closure).1.values ++ discarded) := hperm.cons o
        _ ~ (gather m target rest closure).1.values ++ o :: discarded := List.perm_middle.symm
    | none =>
      -- the declaration itself is there from now on
      obtain ⟨discarded, hperm, hrefused⟩ := ih (closure.insert (m.name o.declaration) o)
      refine ⟨discarded, ?_, hrefused⟩
      refine List.Perm.trans ?_ hperm
      calc closure.values ++ o :: rest
        _ ~ o :: closure.values ++ rest := List.perm_middle
        _ ~ (closure.insert (m.name o.declaration) o).values ++ rest :=
          (KeyMap.perm_values_insert hk).symm.append_right rest

/-! ### Closures -/

/-- Everything in the lineage of an entity is accounted for: the declarations that are passed on are
those that are kept and those that are discarded, for each of the latter there is one conflict, and
for each name without a definition one finding. -/
structure Accounts (c : Catalog) (m : Member α) (passes : String → α → Bool) (name : String)
    (closure : Closure α) (order : List String) (discarded : List (Owned α))
    (conflicts found : List Finding) : Prop where
  depthFirst : DepthFirst c.superTypes [] [name] order
  once : order.Nodup
  declared : ((c.declarations m order).filter fun o => passes o.owner o.declaration) ~
    closure.values ++ discarded
  refused : List.Forall₂ (Refuses m name closure) discarded conflicts
  found : found =
    conflicts ++ (order.filter fun n => !c.entities.contains n).map (undefinedAncestor name)

/-- As many declarations are passed on as are kept and found to be in conflict. -/
theorem Accounts.balance {passes : String → α → Bool} {name : String} {closure : Closure α}
    {order : List String} {discarded : List (Owned α)} {conflicts found : List Finding}
    (h : Accounts c m passes name closure order discarded conflicts found) :
    ((c.declarations m order).filter fun o => passes o.owner o.declaration).length =
      closure.size + conflicts.length := by
  rw [h.declared.length_eq, List.length_append, h.refused.length_eq, KeyMap.values, List.length_map]
  rfl

/-- A closure and what is found in gathering it account for everything in the lineage. -/
theorem accounts_closure (passes : String → α → Bool) (name : String) :
    ∃ discarded conflicts, Accounts c m passes name (c.closure m passes name).1 (c.lineage name)
      discarded conflicts (c.closure m passes name).2 := by
  obtain ⟨discarded, hperm, hrefused⟩ :=
    accounts_gather (m := m) name ((c.lineage name).flatMap (c.passedOn m passes)) ∅
  refine ⟨discarded, _, depthFirst_lineage name, nodup_lineage c name, ?_, hrefused, rfl⟩
  rw [← flatMap_passedOn]
  exact hperm

/-! ### Calls -/

section
variable {table : Memo → KeyMap String α} {write : Memo → KeyMap String α → Memo} {name : String}

/-- What is memorised is told without further ado. -/
theorem run_memorised_known {work : Step α} {s : Store}
    (h : (table s.memo).contains name = true) :
    ((Step.memorised table write name work).run s).2 = s := by
  obtain ⟨known, hknown⟩ := Option.isSome_iff_exists.1 h
  rw [Step.memorised, Work.run_bind, Work.run_get]
  simp only [hknown, Work.run_pure]

/-- What is not memorised is made, and what is found in making it is logged before it is
memorised. -/
theorem run_memorised_new {made : α × List Finding} {s : Store}
    (h : (table s.memo).contains name = false) :
    (Step.memorised table write name (Step.yield made)).run s =
      (made.1, { s with
        memo := write s.memo ((table s.memo).insert name made.1)
        log := s.log.addAll made.2 }) := by
  have hnone : (table s.memo).find? name = none :=
    Option.not_isSome_iff_eq_none.1 (Bool.eq_false_iff.1 h)
  rw [Step.memorised, Work.run_bind, Work.run_get]
  simp only [hnone, Step.yield, Work.run_bind, Work.run_pure, Work.run_modify, Step.run_report]

end

/-- A question about what an entity shows is accounted for: when it is first asked, everything in
the lineage is accounted for in the log; and when it is asked again, however much later, nothing
happens to the store. -/
structure Accounted (c : Catalog) (m : Member α) (passes : String → α → Bool) (name : String)
    (ask : Step (Closure α)) (s : Store) : Prop where
  first : ∃ order discarded conflicts found,
    Accounts c m passes name (ask.run s).1 order discarded conflicts found ∧
      (ask.run s).2.log = s.log.addAll found ∧
      ((c.declarations m order).filter fun o => passes o.owner o.declaration).length =
        (ask.run s).1.size + conflicts.length
  later : ∀ history : List Call,
    let t := ((history.mapM c.perform).run (ask.run s).2).2
    (ask.run t).2 = t

/-- A question whose answer is memorised is accounted for if it is new. -/
theorem accounted_of_new {passes : String → α → Bool} {name : String}
    {table : Memo → KeyMap String (Closure α)}
    {write : Memo → KeyMap String (Closure α) → Memo} {s : Store}
    (hnew : (table s.memo).contains name = false) (hwrite : ∀ m t, table (write m t) = t)
    (hkept : ∀ {s t : Store}, ReflTransGen Store.Adds s t →
      (table s.memo).contains name = true → (table t.memo).contains name = true) :
    Accounted c m passes name
      (Step.memorised table write name (Step.yield (c.closure m passes name))) s where
  first := by
    obtain ⟨discarded, conflicts, haccounts⟩ := accounts_closure (c := c) (m := m) passes name
    rw [run_memorised_new hnew]
    exact ⟨_, discarded, conflicts, _, haccounts, rfl, haccounts.balance⟩
  later history := by
    refine run_memorised_known (hkept (adds_history history _) ?_)
    rw [run_memorised_new hnew, hwrite, KeyMap.contains_insert]
    exact .inl rfl

/-- Whatever a catalog was asked before: a question about the attributes or the relationships of an
entity that is new is accounted for. -/
theorem closures_account (config : Config) (snapshot : Snapshot) (history : List Call)
    (name : String) :
    let c := (Catalog.ofSnapshot config snapshot).1
    let fresh := Store.ofFindings (Catalog.ofSnapshot config snapshot).2
    let s := ((history.mapM c.perform).run fresh).2
    (s.memo.attributes.contains name = false →
      Accounted c .attributes c.passesAttribute name (c.attributesOf name) s) ∧
    (s.memo.relationships.contains name = false →
      Accounted c .relationships c.passesRelationship name (c.relationshipsOf name) s) := by
  intro c fresh s
  constructor
  · intro hnew
    exact accounted_of_new hnew (fun _ _ => rfl) fun hadds => (remembers_of_adds hadds name).1
  · intro hnew
    exact accounted_of_new hnew (fun _ _ => rfl) fun hadds => (remembers_of_adds hadds name).2

/-! ### Relationships in conflict -/

/-- A type and its super-type declare relationships of one name. -/
def usedTwice : Snapshot where
  entities := [
    { name := "Asset", relationshipAttributes := [
        { name := "uses", typeName := "array<Process>", relationship := "asset_uses" }] },
    { name := "Table", superTypes := ["Asset"], relationshipAttributes := [
        { name := "uses", typeName := "array<Catalog>", relationship := "table_uses" }] }]

/-- One of the two is kept, and the other one is in conflict with it. -/
theorem usedTwice_accounted :
    let c := (Catalog.ofSnapshot {} usedTwice).1
    let fresh := Store.ofFindings (Catalog.ofSnapshot {} usedTwice).2
    fresh.memo.relationships.contains "Table" = false ∧
      Accounted c .relationships c.passesRelationship "Table" (c.relationshipsOf "Table") fresh :=
  ⟨rfl, (closures_account {} usedTwice [] "Table").2 rfl⟩

/-- What is found of two relationships in conflict shows which relationships they belong to, and not
their types. -/
theorem relationship_conflict_hides_types :
    let c := (Catalog.ofSnapshot {} usedTwice).1
    let fresh := Store.ofFindings (Catalog.ofSnapshot {} usedTwice).2
    let found := ((c.relationshipsOf "Table").run fresh).2.log.entries
    found = [⟨.conflict, "Table", "uses", "kept Table:table_uses, discarded Asset:asset_uses"⟩] ∧
      ∀ f ∈ found, ¬ "array<Catalog>".toList <:+: f.detail.toList ∧
        ¬ "array<Process>".toList <:+: f.detail.toList := by
  intro c fresh found
  have hasset : c.superTypes "Asset" = [] := by decide +kernel
  have htable : c.superTypes "Table" = ["Asset"] := by decide +kernel
  have hlineage : c.lineage "Table" = ["Table", "Asset"] := by
    simp [Catalog.lineage, lineageFrom_cons, lineageFrom_nil, hasset, htable]
  have hfound : found =
      [⟨.conflict, "Table", "uses", "kept Table:table_uses, discarded Asset:asset_uses"⟩] := by
    have hlog : ((c.relationshipsOf "Table").run fresh).2.log =
        fresh.log.addAll (c.relationshipClosure "Table").2 := by
      rw [relationshipsOf, run_memorised_new rfl]
    simp only [found, hlog, Catalog.relationshipClosure, Catalog.closure, hlineage]
    decide +kernel
  refine ⟨hfound, ?_⟩
  rw [hfound]
  decide +kernel

end TypeCatalog
