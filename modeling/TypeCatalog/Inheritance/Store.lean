import TypeCatalog.Class.Registry
import TypeCatalog.Inheritance.Closure
import TypeCatalog.Work

/-!
What a run builds up. A `Store` holds the answers about inheritance that are memorised so far, the
classes known so far, and the log. Workers share it: looking something up, memorising an answer
and logging a finding are one access each. An answer that is memorised is given again as it is,
and nothing is found a second time.
-/

namespace TypeCatalog

/-- The answers memorised so far, by entity. -/
structure Memo where
  superTypes : KeyMap String (KeySet String) := ∅
  attributes : KeyMap String (Closure Attribute) := ∅
  relationships : KeyMap String (Closure RelationshipAttribute) := ∅
  introduced : KeyMap String (KeySet String) := ∅
  extraAttributes : KeyMap String (Closure Attribute) := ∅
  extraRelationships : KeyMap String (Closure RelationshipAttribute) := ∅
  deriving Repr

/-- What a run has built up so far. -/
structure Store where
  memo : Memo := {}
  registry : Registry := {}
  log : Log := {}
  deriving Repr

/-- A step of a run: work on the store. -/
abbrev Step := Work Store

/-- The store of a run that has found something and done nothing else. -/
def Store.ofFindings (fs : List Finding) : Store := { log := Log.addAll {} fs }

namespace Step

/-- Logs findings, one after another. -/
def report : List Finding → Step Unit
  | [] => return ()
  | f :: rest => do
    modify fun s => { s with log := s.log.add f }
    report rest

theorem run_report (fs : List Finding) (s : Store) :
    (report fs).run s = ((), { s with log := s.log.addAll fs }) := by
  induction fs generalizing s with
  | nil => rfl
  | cons f rest ih =>
    rw [report, Work.run_bind, Work.run_modify, ih]
    rfl

/-- Gives what was made and logs what was found in making it. -/
def yield {α : Type} (made : α × List Finding) : Step α := do
  report made.2
  return made.1

/-- Changes the registry. -/
def register (f : Registry → Registry) : Step Unit :=
  modify fun s => { s with registry := f s.registry }

/-- The memorised answer of a table for a name; if there is none, works it out and memorises it. -/
def memorised {α : Type} (table : Memo → KeyMap String α) (write : Memo → KeyMap String α → Memo)
    (name : String) (work : Step α) : Step α := do
  match (table (← get).memo).find? name with
  | some known => return known
  | none =>
    let answer ← work
    modify fun s => { s with memo := write s.memo ((table s.memo).insert name answer) }
    return answer

end Step

end TypeCatalog
