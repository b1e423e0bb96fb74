import GoStructs.Syntax.Repair.Edit
/-! # Mending a text

A text that is no file, not even with line ends put in, is changed in one place: where the reading
stopped.  There the token before may be set aside, or some of the items behind, or a token may be
put in.  Of the changes that let the reading go on the cheapest is made. -/

namespace GoStructs.Syntax.Repair

/-- The tokens that may be put in, in the order in which they are tried. -/
def suppliable : List (TokenKind × String) :=
  [(.word, ""), (.operator, ")"), (.operator, "]"), (.operator, "\x7d"), (.closeQuote, "\""),
   (.closeRaw, "\x60")]

/-- How many items at most are set aside at once. -/
def reachAside : Nat := 8

/-- The cost of setting aside the items from `first` to `last`, which show as so many. -/
def rangeCost (items : List Item) (first last shown : Nat) : Option Nat :=
  match items[first]?.bind Item.span?, items[last - 1]?.bind Item.span? with
  | some (start, _), some (_, stop) => some (asideCost shown start stop)
  | _, _ => none

/-- A semicolon in place of an item. -/
def semicolonAt (items : List Item) (index : Nat) : List Item :=
  items.mapIdx fun i item => match item with
    | .token t => if i = index then .token { t with kind := .operator, text := ";" } else item
    | item => item

/-- Where a token may be put in: right behind the last token before the item where the reading
stopped, or behind the line end that follows it, if that ends a statement. -/
def supplyIndex (items : List Item) (before stuck : Nat) : Nat :=
  match items[before]? with
  | some (.token t) =>
    if t.kind == .lineEnd && decide (before < stuck)
        && decide (stuck ≤ (Outline.ofItems (semicolonAt items before)).far) then before + 1
    else before
  | _ => before

/-- The index behind the last item before `stuck` that is neither comment nor line end. -/
def reachedBefore (items : List Item) (stuck : Nat) : Nat :=
  ((items.take stuck).reverse.dropWhile Item.isLoose).length

/-- Sets aside the token before the place where the reading stopped. -/
def dropOffer? (items : List Item) (stuck : Nat) : Option Offer :=
  match reachedBefore items stuck with
  | 0 => none
  | n + 1 => (rangeCost items n (n + 1) 1).map (·, .setAside n (n + 1))

/-- Sets aside the items behind the place where the reading stopped, up to `last`. -/
def skipOffer? (items : List Item) (stuck last : Nat) : Option Offer :=
  let shown := ((items.take last).drop stuck).countP fun i => !i.isLoose
  if items.length < last then none
  else (rangeCost items stuck last shown).map (·, .setAside stuck last)

/-- Puts in a token at the place where the reading stopped. -/
def supplyOffers (items : List Item) (stuck : Nat) : List Offer :=
  let index := supplyIndex items (reachedBefore items stuck) stuck
  let place := ((items[index - 1]?.bind Item.span?).map Prod.snd).getD .origin
  suppliable.map fun (kind, text) => (supplyCost, .putIn index ⟨kind, text, place, place⟩)

/-- The changes at the item where the reading stopped. -/
def waysOn (items : List Item) (stuck : Nat) : List Offer :=
  (dropOffer? items stuck).toList
    ++ (List.range reachAside).filterMap (fun n => skipOffer? items stuck (stuck + n + 1))
    ++ supplyOffers items stuck

/-- The trees of a text that is no file: after the cheapest change that lets the reading go on, or
else with all that is left set aside. -/
def mend (items : List Item) (stuck : Nat) : List SyntaxTree :=
  match cheapest ((waysOn items stuck).filter fun o => leadsOn items stuck o.2) with
  | some (_, e) => (Outline.ofItems (e.apply items)).trees.getD ((e.apply items).map Item.looseTree)
  | none =>
    (items.take stuck ++ [Item.aside ((items.drop stuck).filterMap Item.token?)]).map
      Item.looseTree

end GoStructs.Syntax.Repair
