import GoStructs.Syntax.Grammar.File
/-! # Edits of a text

A text that is no file is read as a file near to it.  There are two ways to change a text: tokens
may be *set aside*, which shows as an error, and a token may be *put in*, which shows as a missing
node unless it is a line end.  Each has a cost.

* Putting a token in costs 610.
* Setting tokens aside costs 500, and 100 for each construct or token that shows, 1 for each byte
  and 30 for each row that they cover.

So to set aside a single construct of fewer than ten bytes costs less than to put in a token. -/

namespace GoStructs.Syntax

/-- Is this a comment or a line end? -/
def Item.isLoose : Item → Bool
  | .token t => t.kind == .comment || t.kind == .lineEnd
  | _ => false

/-- The token of an item of the text. -/
def Item.token? : Item → Option Token
  | .token t => some t
  | _ => none

/-- Where an item begins and ends. -/
def Item.span? : Item → Option (Position × Position)
  | .token t => some (t.start, t.stop)
  | .supplied t => some (t.start, t.stop)
  | .aside ts =>
    match ts.head?, ts.getLast? with
    | some a, some b => some (a.start, b.stop)
    | _, _ => none

/-- The tree of an item that no construct has a place for. -/
def Item.looseTree : Item → SyntaxTree
  | .token t => t.leaf t.looseKind false
  | .aside ts => SyntaxTree.ofSubtrees .error (ts.map fun t => t.leaf t.looseKind false)
  | .supplied t => t.leaf t.looseKind true

namespace Repair

/-- What it costs to put in a token. -/
def supplyCost : Nat := 610

/-- What it costs to set aside some constructs. -/
def asideCost (shown : Nat) (start stop : Position) : Nat :=
  500 + 100 * shown + (stop.offset - start.offset) + 30 * (stop.row - start.row)

/-- A change of the list of items. -/
inductive Edit where
  /-- Sets aside the items from `first` on, up to `last`. -/
  | setAside (first last : Nat)
  /-- Puts a token in front of the item at an index. -/
  | putIn (index : Nat) (token : Token)
  deriving Repr

namespace Edit

/-- Makes the change. -/
def apply (items : List Item) : Edit → List Item
  | setAside first last =>
    items.take first ++ [.aside (((items.take last).drop first).filterMap Item.token?)]
      ++ items.drop last
  | putIn index token => items.take index ++ [.supplied token] ++ items.drop index

/-- The index of the first item behind the change. -/
def last : Edit → Nat
  | setAside _ last => last
  | putIn index _ => index

/-- The number of items that the change leaves in front of the item at `index`, which lies at or
behind the change. -/
def passedBefore (index : Nat) : Edit → Nat
  | setAside first last => first + 1 + (index - last)
  | putIn _ _ => index + 1

end Edit

/-- The index of the first item from `start` on that is neither comment nor line end. -/
def nextFrom (items : List Item) (start : Nat) : Nat :=
  start + ((items.drop start).takeWhile Item.isLoose).length

/-- Does a change let the reading get past the next token behind it, or to the end of the text?  The
token is sought from the item `stuck` on. -/
def leadsOn (items : List Item) (stuck : Nat) (e : Edit) : Bool :=
  let outline := Outline.ofItems (e.apply items)
  let next := nextFrom items (max stuck e.last)
  outline.trees.isSome || (next < items.length && decide (e.passedBefore next < outline.far))

/-- An edit and its cost. -/
abbrev Offer := Nat × Edit

/-- The cheapest of some offers; of two that cost the same the first. -/
def cheapest (offers : List Offer) : Option Offer :=
  offers.foldl
    (fun best o => match best with
      | none => some o
      | some b => if o.1 < b.1 then some o else some b)
    none

end Repair

end GoStructs.Syntax
