import TypeCatalog.Text.Emoji
import TypeCatalog.Text.Ligature

/-!
How many columns of a fixed-pitch display a text takes: the sum over its characters, except that
emoji sequences, ligatures and characters with a variation selector count as they are drawn. The
text is gone through from its end, because what a character takes depends on what follows it.
-/

namespace TypeCatalog.Text

/-- A variation selector, which changes how the character before it is drawn. -/
inductive Selector
  /-- As a picture. -/
  | picture
  /-- As text. -/
  | textual
  /-- As wide as an ideograph, which quotation marks can be. -/
  | fullwidth
  deriving DecidableEq, Repr

/-- What follows a character, as far as it matters to the character. -/
inductive Following
  /-- Nothing that matters. -/
  | plain
  | selector (s : Selector)
  | emoji (t : Emoji.Tail)
  /-- The tail of a ligature, with the selectors that stand before it, the first one first. -/
  | ligature (t : Ligature.Tail) (selectors : List Selector)
  deriving DecidableEq, Repr

/-- Whether `c` is a quotation mark with a wide form. -/
def isCurlyQuote (c : Char) : Bool :=
  c = '\u2018' || c = '\u2019' || c = '\u201c' || c = '\u201d'

namespace Selector

/-- The selector that `c` is. -/
def ofChar? (c : Char) : Option Selector :=
  if c = Emoji.pictureSelector then some picture
  else if c = Emoji.textSelector then some textual
  else if c = '\ufe01' then some fullwidth
  else none

/-- The columns of `c` before selectors, if one of them changes it. The one that asks for a picture
has to stand first; the others also count behind selectors that do not change `c`. -/
def columns? (c : Char) (selectors : List Selector) : Option (Int × Following) :=
  if selectors.head? = some picture ∧ Emoji.isSelectable c then some (2, .emoji .picture)
  else if textual ∈ selectors ∧ Emoji.isTextual c then some (1, .plain)
  else if fullwidth ∈ selectors ∧ isCurlyQuote c then some (2, .plain)
  else none

end Selector

namespace Following

/-- The selectors that count. -/
def selectors : Following → List Selector
  | selector s => [s]
  | ligature _ selectors => selectors
  | _ => []

/-- What follows, with a selector before it. Selectors gather only before the tail of a ligature. -/
def select (s : Selector) : Following → Following
  | ligature t selectors => if t.admitsMarks then ligature t (s :: selectors) else selector s
  | _ => selector s

/-- The columns of `c` where nothing that follows matters. -/
def alone (c : Char) : Int × Following :=
  match Emoji.Tail.ofChar? c with
  | some (n, t) => (n, emoji t)
  | none => (advance c, (Ligature.Tail.ofChar? c).elim plain (ligature · []))

/-- The columns of `c` as part of the sequence that follows, if it is one. -/
def sequence? (c : Char) : Following → Option (Int × Following)
  | emoji t => (t.extend? c).map fun (n, t) => (n, emoji t)
  | ligature t _ =>
    (t.extend? c).map fun
      | (n, .tail t) => (n, ligature t [])
      | (n, .complete) => (n, plain)
  | _ => none

/-- The columns that `c` adds before what follows it, and what the two are to the character
before them. -/
def before (c : Char) (f : Following) : Int × Following :=
  match Selector.columns? c f.selectors with
  | some answer => answer
  | none =>
    match Selector.ofChar? c, f with
    | some s, emoji t => ((t.extend? c).map fun (n, t) => (n, emoji t)).getD (0, selector s)
    | some s, f => (0, f.select s)
    | none, f => (f.sequence? c).getD (alone c)

end Following

/-- The columns of a text, and what it is to a character before it. -/
def measure : List Char → Int × Following
  | [] => (0, .plain)
  | c :: rest =>
    let (n, f) := measure rest
    let (added, f) := f.before c
    (n + added, f)

/-- The columns of a text. -/
def columns (cs : List Char) : Nat := (measure cs).1.toNat

end TypeCatalog.Text
