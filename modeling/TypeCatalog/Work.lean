/-!
Work on data that several workers share. A piece of work is a run of accesses; each of them reads
and changes the data in one go, and between two accesses of one worker others may come in.
`Work.run` does a piece of work alone, and `Work.together` does several at once, in the turns that
a schedule gives them.
-/

namespace TypeCatalog

/-- Work on shared data: an answer, or one access and the work that follows what was read. -/
inductive Work (σ α : Type) : Type where
  | done (answer : α)
  | access (change : σ → σ) (next : σ → Work σ α)

namespace Work
variable {σ α β : Type}

/-- One piece of work, and another one that uses its answer. -/
def bind : Work σ α → (α → Work σ β) → Work σ β
  | done a, k => k a
  | access change next, k => access change fun s => (next s).bind k

instance : Monad (Work σ) where
  pure := done
  bind := bind

/-- Reading, writing and changing the data are one access each. -/
instance : MonadStateOf σ (Work σ) where
  get := access id done
  set s := access (fun _ => s) fun _ => done ⟨⟩
  modifyGet f := access (fun s => (f s).2) fun s => done (f s).1

theorem bind_done (w : Work σ α) : w.bind done = w := by
  induction w with
  | done a => rfl
  | access change next ih => exact congrArg (access change) (funext ih)

theorem bind_assoc {γ : Type} (w : Work σ α) (k : α → Work σ β) (l : β → Work σ γ) :
    (w.bind k).bind l = w.bind fun a => (k a).bind l := by
  induction w with
  | done a => rfl
  | access change next ih => exact congrArg (access change) (funext ih)

instance : LawfulMonad (Work σ) :=
  LawfulMonad.mk' (Work σ) bind_done (fun _ _ => rfl) bind_assoc

/-! ### Alone -/

/-- The answer of work that nobody interrupts, and the data after it. -/
def run : Work σ α → σ → α × σ
  | done a, s => (a, s)
  | access change next, s => (next s).run (change s)

@[simp] theorem run_pure (a : α) (s : σ) : (pure a : Work σ α).run s = (a, s) := rfl

@[simp] theorem run_get (s : σ) : (get : Work σ σ).run s = (s, s) := rfl

@[simp] theorem run_modify (f : σ → σ) (s : σ) : (modify f : Work σ PUnit).run s = (⟨⟩, f s) :=
  rfl

@[simp] theorem run_bind (w : Work σ α) (k : α → Work σ β) (s : σ) :
    (w >>= k).run s = (k (w.run s).1).run (w.run s).2 := by
  induction w generalizing s with
  | done a => rfl
  | access change next ih => exact ih s (change s)

/-! ### Together -/

/-- The next access of a worker; one who is done makes none. -/
def advance : Work σ α → σ → Work σ α × σ
  | done a, s => (done a, s)
  | access change next, s => (next s, change s)

/-- The turn of one of several workers; there may be no such worker. -/
def turn (i : Nat) (pool : List (Work σ α)) (s : σ) : List (Work σ α) × σ :=
  match pool[i]? with
  | none => (pool, s)
  | some w => (pool.set i (w.advance s).1, (w.advance s).2)

/-- The turns of workers, one after another. -/
def turns : List Nat → List (Work σ α) → σ → List (Work σ α) × σ
  | [], pool, s => (pool, s)
  | i :: rest, pool, s => turns rest (turn i pool s).1 (turn i pool s).2

/-- What is left of several pieces of work, each done alone. -/
def finish : List (Work σ α) → σ → List α × σ
  | [], s => ([], s)
  | w :: rest, s =>
    let (a, s) := w.run s
    let (others, s) := finish rest s
    (a :: others, s)

/-- Several pieces of work at once: a schedule tells whose turn it is, and what it leaves undone is
finished in order. Who waits for all of the answers does nothing in between. -/
def together (schedule : List Nat) (pool : List (Work σ α)) : Work σ (List α) :=
  modifyGet fun s =>
    let left := turns schedule pool s
    finish left.1 left.2

end Work

end TypeCatalog
