import TypeCatalog.Work

/-!
Reasoning about workers on shared data. Each worker relies on the others and guarantees the same to
them: an invariant, and how the data may change (`Discipline`). `Work.Ensures` says of one worker
that it keeps to the discipline and what its answer is, whatever the others do in between. Main
statements: `Ensures.bind` composes such facts, `Ensures.run` uses them for a worker alone, and
`ensures_together` for a pool of workers under any schedule. What a worker ensures whenever it starts
(`Always`) is composed in the same way.
-/

namespace TypeCatalog

/-- What workers on shared data keep to. -/
structure Discipline (σ : Type) where
  /-- What is true between accesses. -/
  holds : σ → Prop
  /-- How the data may have changed after a while. -/
  later : σ → σ → Prop
  refl : ∀ s, later s s
  trans : ∀ {s t u}, later s t → later t u → later s u

namespace Work
variable {σ α β : Type} {D : Discipline σ}

/-- From `s` on, the worker keeps to the discipline, and at the end `post` is and stays true of its
answer, whatever other workers do in between who keep to the discipline. -/
def Ensures (D : Discipline σ) (s : σ) : Work σ α → (α → σ → Prop) → Prop
  | done a, post => ∀ t, D.later s t → D.holds t → post a t
  | access change next, post => ∀ t, D.later s t → D.holds t →
      D.holds (change t) ∧ D.later t (change t) ∧ Ensures D (change t) (next t) post

namespace Ensures

theorem of_later {w : Work σ α} {post : α → σ → Prop} {s t : σ} (h : w.Ensures D s post)
    (hst : D.later s t) : w.Ensures D t post := by
  cases w with
  | done a => exact fun u htu => h u (D.trans hst htu)
  | access change next => exact fun u htu => h u (D.trans hst htu)

/-- A worker need not be ready at once, but at every time when it can make its first access. -/
theorem of_forall {w : Work σ α} {post : α → σ → Prop} {s : σ}
    (h : ∀ t, D.later s t → D.holds t → w.Ensures D t post) : w.Ensures D s post := by
  cases w with
  | done a => exact fun t hst ht => h t hst ht t (D.refl t) ht
  | access change next => exact fun t hst ht => h t hst ht t (D.refl t) ht

theorem mono {w : Work σ α} {post post' : α → σ → Prop} {s : σ} (h : w.Ensures D s post)
    (hpost : ∀ a t, D.later s t → D.holds t → post a t → post' a t) : w.Ensures D s post' := by
  induction w generalizing s with
  | done a => exact fun t hst ht => hpost a t hst ht (h t hst ht)
  | access change next ih =>
    intro t hst ht
    obtain ⟨hold, htc, hnext⟩ := h t hst ht
    refine ⟨hold, htc, ih t hnext fun a u htu => hpost a u ?_⟩
    exact D.trans hst (D.trans htc htu)

theorem pure {a : α} {post : α → σ → Prop} {s : σ}
    (h : ∀ t, D.later s t → D.holds t → post a t) : (Pure.pure a : Work σ α).Ensures D s post :=
  h

theorem bind {w : Work σ α} {k : α → Work σ β} {mid : α → σ → Prop} {post : β → σ → Prop} {s : σ}
    (hw : w.Ensures D s mid)
    (hk : ∀ a t, D.later s t → D.holds t → mid a t → (k a).Ensures D t post) :
    (w >>= k).Ensures D s post := by
  induction w generalizing s with
  | done a => exact of_forall fun t hst ht => hk a t hst ht (hw t hst ht)
  | access change next ih =>
    intro t hst ht
    obtain ⟨hold, htc, hnext⟩ := hw t hst ht
    refine ⟨hold, htc, ih t hnext fun a u htu => hk a u ?_⟩
    exact D.trans hst (D.trans htc htu)

theorem read {post : σ → σ → Prop} {s : σ}
    (h : ∀ t, D.later s t → D.holds t → ∀ u, D.later t u → D.holds u → post t u) :
    (get : Work σ σ).Ensures D s post :=
  fun t hst ht => ⟨ht, D.refl t, h t hst ht⟩

theorem write {f : σ → σ} {post : PUnit → σ → Prop} {s : σ}
    (h : ∀ t, D.later s t → D.holds t → D.holds (f t) ∧ D.later t (f t) ∧
      ∀ u, D.later (f t) u → D.holds u → post ⟨⟩ u) :
    (modify f : Work σ PUnit).Ensures D s post :=
  h

/-- A worker alone meets no others. -/
theorem run {w : Work σ α} {post : α → σ → Prop} {s : σ} (h : w.Ensures D s post)
    (hs : D.holds s) :
    D.holds (w.run s).2 ∧ D.later s (w.run s).2 ∧
      (done (w.run s).1).Ensures D (w.run s).2 post := by
  induction w generalizing s with
  | done a => exact ⟨hs, D.refl s, h⟩
  | access change next ih =>
    obtain ⟨hold, hlater, hnext⟩ := h s (D.refl s) hs
    obtain ⟨hold', hlater', hdone⟩ := ih s hnext hold
    exact ⟨hold', D.trans hlater hlater', hdone⟩

theorem advance {w : Work σ α} {post : α → σ → Prop} {s : σ} (h : w.Ensures D s post)
    (hs : D.holds s) :
    D.holds (w.advance s).2 ∧ D.later s (w.advance s).2 ∧
      (w.advance s).1.Ensures D (w.advance s).2 post := by
  cases w with
  | done a => exact ⟨hs, D.refl s, h⟩
  | access change next => exact h s (D.refl s) hs

end Ensures

/-! ### Pools of workers -/

/-- Each worker of a pool does its own part from `s` on. -/
def Pooled (D : Discipline σ) (s : σ) (pool : List (Work σ α)) (post : Nat → α → σ → Prop) :
    Prop :=
  ∀ (i : Nat) (w : Work σ α), pool[i]? = some w → w.Ensures D s (post i)

/-- A turn of one worker keeps all workers ready: the one who moves goes on from where it is, and
the others have seen no more than the discipline allows. -/
theorem pooled_turn {pool : List (Work σ α)} {post : Nat → α → σ → Prop} {s : σ} (i : Nat)
    (h : Pooled D s pool post) (hs : D.holds s) :
    D.holds (turn i pool s).2 ∧ D.later s (turn i pool s).2 ∧
      Pooled D (turn i pool s).2 (turn i pool s).1 post := by
  unfold turn
  cases hw : pool[i]? with
  | none => exact ⟨hs, D.refl s, h⟩
  | some w =>
    obtain ⟨hold, hlater, hnext⟩ := (h i w hw).advance hs
    refine ⟨hold, hlater, fun j v hv => ?_⟩
    rw [List.getElem?_set] at hv
    split at hv
    next hij =>
      split at hv
      · obtain rfl := Option.some.inj hv
        exact hij ▸ hnext
      · cases hv
    next => exact (h j v hv).of_later hlater

theorem length_turns (schedule : List Nat) (pool : List (Work σ α)) (s : σ) :
    (turns schedule pool s).1.length = pool.length := by
  induction schedule generalizing pool s with
  | nil => rfl
  | cons i rest ih =>
    rw [turns, ih, turn]
    cases pool[i]? <;> simp

theorem pooled_turns {pool : List (Work σ α)} {post : Nat → α → σ → Prop} {s : σ}
    (schedule : List Nat) (h : Pooled D s pool post) (hs : D.holds s) :
    D.holds (turns schedule pool s).2 ∧ D.later s (turns schedule pool s).2 ∧
      Pooled D (turns schedule pool s).2 (turns schedule pool s).1 post := by
  induction schedule generalizing pool s with
  | nil => exact ⟨hs, D.refl s, h⟩
  | cons i rest ih =>
    obtain ⟨hold, hlater, hnext⟩ := pooled_turn i h hs
    obtain ⟨hold', hlater', hnext'⟩ := ih hnext hold
    exact ⟨hold', D.trans hlater hlater', hnext'⟩

/-- Workers who finish one after another answer for all, and what each ensures stays true. -/
theorem pooled_finish {pool : List (Work σ α)} {post : Nat → α → σ → Prop} {s : σ}
    (h : Pooled D s pool post) (hs : D.holds s) :
    D.holds (finish pool s).2 ∧ D.later s (finish pool s).2 ∧
      (finish pool s).1.length = pool.length ∧
      ∀ i a, (finish pool s).1[i]? = some a → (done a).Ensures D (finish pool s).2 (post i) := by
  induction pool generalizing s post with
  | nil => exact ⟨hs, D.refl s, rfl, fun i a ha => by simp [finish] at ha⟩
  | cons w rest ih =>
    obtain ⟨hold, hlater, hdone⟩ := (h 0 w rfl).run hs
    have hrest : Pooled D (w.run s).2 rest fun i => post (i + 1) :=
      fun i v hv => (h (i + 1) v hv).of_later hlater
    obtain ⟨hold', hlater', hlen, hpost⟩ := ih hrest hold
    refine ⟨hold', D.trans hlater hlater', congrArg (· + 1) hlen, fun i a ha => ?_⟩
    cases i with
    | zero =>
      obtain rfl : (w.run s).1 = a := Option.some.inj ha
      exact hdone.of_later hlater'
    | succ i => exact hpost i a ha

/-- Workers who share data under a discipline answer as each of them would alone, under every
schedule of their accesses. -/
theorem ensures_together {pool : List (Work σ α)} {post : Nat → α → σ → Prop} {s : σ}
    (schedule : List Nat) (h : Pooled D s pool post) :
    (together schedule pool).Ensures D s fun answers t =>
      answers.length = pool.length ∧ ∀ i a, answers[i]? = some a → post i a t := by
  intro t hst ht
  obtain ⟨hold, hlater, hleft⟩ :=
    pooled_turns schedule (fun i w hw => (h i w hw).of_later hst) ht
  obtain ⟨hold', hlater', hlen, hdone⟩ := pooled_finish hleft hold
  refine ⟨hold', D.trans hlater hlater', fun u htu hu => ⟨?_, fun i a ha => ?_⟩⟩
  · rw [← length_turns schedule pool t]
    exact hlen
  · exact hdone i a ha u htu hu

/-! ### At any time -/

/-- Whenever a worker starts, it keeps to the discipline, and its answer has a property. -/
def Always (D : Discipline σ) (w : Work σ α) (post : α → Prop) : Prop :=
  ∀ s, w.Ensures D s fun a _ => post a

namespace Always
variable {w : Work σ α} {mid : α → Prop} {post : β → Prop}

theorem mono {mid' : α → Prop} (h : w.Always D mid) (hpost : ∀ a, mid a → mid' a) :
    w.Always D mid' :=
  fun s => (h s).mono fun a _ _ _ => hpost a

theorem pure {a : α} (h : mid a) : (Pure.pure a : Work σ α).Always D mid :=
  fun _ => .pure fun _ _ _ => h

theorem bind {k : α → Work σ β} (h : w.Always D mid) (hk : ∀ a, mid a → (k a).Always D post) :
    (w >>= k).Always D post :=
  fun s => (h s).bind fun a t _ _ ha => hk a ha t

/-- What is read may be anything. -/
theorem look {k : σ → Work σ β} (hk : ∀ s, (k s).Always D post) : (get >>= k).Always D post := by
  have hget : (get : Work σ σ).Always D fun _ => True :=
    fun _ => .read fun _ _ _ _ _ _ => trivial
  exact hget.bind fun s _ => hk s

theorem mapM {work : α → Work σ β} {l : List α}
    (h : ∀ a ∈ l, (work a).Always D fun _ => True) : (l.mapM work).Always D fun _ => True := by
  induction l with
  | nil => exact pure trivial
  | cons a l ih =>
    rw [List.mapM_cons]
    refine (h a List.mem_cons_self).bind fun b _ => ?_
    exact (ih fun d hd => h d (List.mem_cons_of_mem a hd)).bind fun _ _ => pure trivial

theorem together {pool : List (Work σ α)} (schedule : List Nat)
    (h : ∀ w ∈ pool, w.Always D fun _ => True) :
    (Work.together schedule pool).Always D fun _ => True := by
  intro s
  have hpooled : Pooled D s pool fun _ _ _ => True := fun i w hw => h w (List.mem_of_getElem? hw) s
  exact (ensures_together schedule hpooled).mono fun _ _ _ _ _ => trivial

theorem run {s : σ} (h : w.Always D mid) (hs : D.holds s) :
    mid (w.run s).1 ∧ D.holds (w.run s).2 ∧ D.later s (w.run s).2 := by
  obtain ⟨hold, hlater, hdone⟩ := (h s).run hs
  exact ⟨hdone _ (D.refl _) hold, hold, hlater⟩

end Always
end Work
end TypeCatalog
