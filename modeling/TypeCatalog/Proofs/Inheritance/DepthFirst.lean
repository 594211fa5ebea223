import Mathlib.Logic.Relation
import TypeCatalog.Inheritance.Lineage
import TypeCatalog.Proofs.Inheritance.Climb

/-!
Depth-first preorder, as a relation that knows nothing of stacks: a name comes first, then what is
above it in the order of its super-types, each name once. Main statements: `depthFirst_lineage`
(the lineage of an entity is that order), `DepthFirst.unique` (there is only one) and
`DepthFirst.mem_iff` (it lists what can be reached).
-/

namespace TypeCatalog
open Relation

/-- The order in which a depth-first walk enters names and what is above them, given the names that
it has seen before. -/
inductive DepthFirst (up : String → List String) :
    List String → List String → List String → Prop
  | nil (seen) : DepthFirst up seen [] []
  | skip {seen name rest order} : name ∈ seen → DepthFirst up seen rest order →
      DepthFirst up seen (name :: rest) order
  | enter {seen name rest above others} : name ∉ seen →
      DepthFirst up (seen ++ [name]) (up name) above →
      DepthFirst up (seen ++ name :: above) rest others →
      DepthFirst up seen (name :: rest) (name :: above ++ others)

namespace DepthFirst
variable {up : String → List String} {seen names order : List String}

/-- A walk from two lists of names is a walk from the first one, and then one from the second. -/
theorem split {first second : List String}
    (h : DepthFirst up seen (first ++ second) order) :
    ∃ before after, order = before ++ after ∧ DepthFirst up seen first before ∧
      DepthFirst up (seen ++ before) second after := by
  induction first generalizing seen order with
  | nil => exact ⟨[], order, rfl, .nil seen, by simpa using h⟩
  | cons name rest ih =>
    cases h with
    | skip hs h =>
      obtain ⟨before, after, rfl, hbefore, hafter⟩ := ih h
      exact ⟨before, after, rfl, .skip hs hbefore, hafter⟩
    | @enter _ _ _ above others hs hup h =>
      obtain ⟨before, after, rfl, hbefore, hafter⟩ := ih h
      refine ⟨name :: above ++ before, after, by simp, .enter hs hup hbefore, ?_⟩
      simpa using hafter

/-- There is one order only. -/
theorem unique {other : List String} (h : DepthFirst up seen names order)
    (h' : DepthFirst up seen names other) : order = other := by
  induction h generalizing other with
  | nil => cases h'; rfl
  | skip hs _ ih =>
    cases h' with
    | skip _ h' => exact ih h'
    | enter hs' => exact absurd hs hs'
  | enter hs _ _ ihUp ih =>
    cases h' with
    | skip hs' => exact absurd hs' hs
    | enter _ hup' h' =>
      obtain rfl := ihUp hup'
      rw [ih h']

/-! ### Members -/

/-- A walk enters only what is above its names. -/
theorem reachable {r : String → String → Prop} (hr : ∀ a b, b ∈ up a → r a b)
    (h : DepthFirst up seen names order) {m : String} (hm : m ∈ order) :
    ∃ name ∈ names, ReflTransGen r name m := by
  induction h with
  | nil => cases hm
  | skip _ _ ih =>
    obtain ⟨name, hn, hreach⟩ := ih hm
    exact ⟨name, List.mem_cons_of_mem _ hn, hreach⟩
  | @enter _ name rest above others _ _ _ ihUp ih =>
    rcases List.mem_append.1 hm with hm | hm
    · rcases List.mem_cons.1 hm with rfl | hm
      · exact ⟨m, List.mem_cons_self, .refl⟩
      · obtain ⟨parent, hp, hreach⟩ := ihUp hm
        exact ⟨name, List.mem_cons_self, .head (hr _ _ hp) hreach⟩
    · obtain ⟨n, hn, hreach⟩ := ih hm
      exact ⟨n, List.mem_cons_of_mem _ hn, hreach⟩

/-- A walk enters all of its names that were not seen before. -/
theorem entered (h : DepthFirst up seen names order) {name : String} (hn : name ∈ names) :
    name ∈ seen ++ order := by
  induction h with
  | nil => cases hn
  | skip hs _ ih =>
    rcases List.mem_cons.1 hn with rfl | hn
    · exact List.mem_append_left _ hs
    · exact ih hn
  | enter _ _ _ _ ih =>
    rcases List.mem_cons.1 hn with rfl | hn
    · simp
    · simpa using ih hn

/-- Whatever is above an entered name was seen before or is entered too. -/
theorem closed (h : DepthFirst up seen names order) {name parent : String} (hn : name ∈ order)
    (hp : parent ∈ up name) : parent ∈ seen ++ order := by
  induction h with
  | nil => cases hn
  | skip _ _ ih => exact ih hn
  | @enter seen n rest above others _ hup _ ihUp ih =>
    have hleft : parent ∈ seen ++ n :: above → parent ∈ seen ++ (n :: above ++ others) := by
      rw [← List.append_assoc]
      exact List.mem_append_left others
    rcases List.mem_append.1 hn with hn | hn
    · rcases List.mem_cons.1 hn with rfl | hn
      · exact hleft (by simpa using hup.entered hp)
      · exact hleft (by simpa using ihUp hn)
    · simpa using ih hn

/-- A walk that has seen nothing before enters what can be reached from its names. -/
theorem mem_iff {r : String → String → Prop} (hr : ∀ a b, r a b ↔ b ∈ up a) {m : String}
    (h : DepthFirst up [] names order) :
    m ∈ order ↔ ∃ name ∈ names, ReflTransGen r name m := by
  refine ⟨h.reachable fun a b => (hr a b).2, ?_⟩
  rintro ⟨name, hn, hreach⟩
  induction hreach with
  | refl => simpa using h.entered hn
  | tail _ hstep ih => simpa using h.closed ih ((hr _ _).1 hstep)

end DepthFirst

/-! ### Lineages -/

variable {c : Catalog}

/-- The walk with a stack goes depth first: what is above a name goes on the stack before what was
left there. -/
theorem depthFirst_lineageFrom (visited stack : List String) :
    DepthFirst c.superTypes visited stack (c.lineageFrom visited stack) := by
  fun_induction Catalog.lineageFrom c visited stack with
  | case1 visited => exact .nil visited
  | case2 visited name rest hv ih => exact .skip hv ih
  | case3 visited name rest hv hd ih =>
    have hup : DepthFirst c.superTypes (visited ++ [name]) (c.superTypes name) [] := by
      rw [Catalog.superTypes, hd]
      exact .nil _
    exact .enter hv hup ih
  | case4 visited name rest hv d hd ih =>
    obtain ⟨above, others, horder, habove, hothers⟩ := ih.split
    have hup : DepthFirst c.superTypes (visited ++ [name]) (c.superTypes name) above := by
      rw [Catalog.superTypes, hd]
      exact habove
    rw [horder]
    exact .enter hv hup (by simpa using hothers)

/-- A lineage is in depth-first order. -/
theorem depthFirst_lineage (name : String) :
    DepthFirst c.superTypes [] [name] (c.lineage name) :=
  depthFirst_lineageFrom [] [name]

/-- A lineage lists what can be reached. -/
theorem mem_lineage {name type : String} :
    type ∈ c.lineage name ↔ ReflTransGen c.Extends name type := by
  rw [(depthFirst_lineage name).mem_iff (r := c.Extends) fun _ _ => Iff.rfl]
  simp

end TypeCatalog
