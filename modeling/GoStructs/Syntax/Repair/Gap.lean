import GoStructs.Syntax.Repair.Mend
/-! # Gaps

A *gap* is a line end that was put in.  It shows nowhere, so a text that lacks nothing else is a
file.  But a change that costs less may take the place of a gap, and that shows.  Two such changes
vie with a gap:

* to set aside a part in front of it, namely one that could have gone on there;
* to set aside the token behind it.

A change is tried only if it is worth a try at once, before it is known what it costs: the more of
the text has been read without a fault, the less a change may seem to cost beyond a gap.  One that
is tried takes the gap's place if it leads as far as the gap does, up to the next gap, and asks for
no other in its stead. -/

namespace GoStructs.Syntax.Repair

/-- A line end that was put in: where it stands, and the construct before it with the mark that
tells whether that construct is the first of its list. -/
structure Gap where
  place : Position
  before : SyntaxTree
  first : Bool

/-! ## The gaps of a tree -/

/-- Is this a line end that was put in? -/
def isGap (t : SyntaxTree) : Bool := t.kind == .lineEnd && t.isMissing

/-- Is this a construct, and neither a comment, a delimiter nor a line end? -/
def isConstruct (t : SyntaxTree) : Bool :=
  match t.kind with
  | .node k => k != .comment
  | _ => false

/-- The gaps among some sibling trees; `earlier` holds the constructs before them, last first. -/
def gapsAmong (earlier : List SyntaxTree) : List SyntaxTree → List Gap
  | [] => []
  | t :: ts =>
    if isGap t then
      match earlier with
      | [] => gapsAmong earlier ts
      | before :: more => ⟨t.start, before, more.isEmpty⟩ :: gapsAmong earlier ts
    else gapsAmong (if isConstruct t then t :: earlier else earlier) ts

mutual
/-- The gaps of a tree, in document order of the lists that they stand in. -/
def gaps : SyntaxTree → List Gap
  | .node _ ts => gapsAmong [] ts ++ gapsBelow ts

/-- The gaps below some trees. -/
def gapsBelow : List SyntaxTree → List Gap
  | [] => []
  | t :: ts => gaps t ++ gapsBelow ts
end

/-- The gaps in the trees of a file. -/
def gapsOf (ts : List SyntaxTree) : List Gap := gapsAmong [] ts ++ gapsBelow ts

/-- The gaps of a file in the order of their places. -/
def gapsInOrder (ts : List SyntaxTree) : List Gap :=
  (gapsOf ts).mergeSort fun a b => decide (a.place.offset ≤ b.place.offset)

/-! ## Parts that could have gone on -/

/-- Can a construct of the kind always go on, wherever it stands?  An expression can, and so can a
type that is just a name. -/
def goesOn : NodeKind → Bool
  | .identifier | .typeIdentifier | .qualifiedType | .rawStringLiteral
  | .interpretedStringLiteral | .intLiteral | .floatLiteral | .imaginaryLiteral | .runeLiteral
  | .nil | .true | .false | .iota | .parenthesizedExpression | .callExpression
  | .selectorExpression | .indexExpression | .sliceExpression | .typeAssertionExpression
  | .typeConversionExpression | .typeInstantiationExpression | .compositeLiteral | .funcLiteral
  | .unaryExpression | .binaryExpression => true
  | _ => false

/-- Could more follow behind a part at the end of a construct? -/
def mayGoOn (construct part : Kind) : Bool :=
  match construct, part with
  | .node .qualifiedType, _ => false
  | .node .importSpec, _ => false
  | .node .varSpec, .node k => k != .expressionList
  | .node .functionDeclaration, .node k => k != .block
  | .node .methodDeclaration, .node k => k != .block
  | .node .functionType, .node k => k == .parameterList || goesOn k
  | .node .ifStatement, .node k => k == .block
  | _, .node k => goesOn k
  | _, _ => false

mutual
/-- The parts of a tree that end where it ends and behind which more could follow, innermost
first. -/
def openParts (place : Position) : SyntaxTree → List SyntaxTree
  | .node i ts => openPartsAmong place i.kind ts

/-- The same for the parts of a construct of the given kind. -/
def openPartsAmong (place : Position) (construct : Kind) : List SyntaxTree → List SyntaxTree
  | [] => []
  | t :: ts =>
    let inner := if t.stop = place then openParts place t else []
    let self := if t.stop = place ∧ mayGoOn construct t.kind then [t] else []
    inner ++ self ++ openPartsAmong place construct ts
end

/-! ## Changes that vie with a gap -/

/-- The index of the first item at or behind a position that is neither comment nor line end. -/
def nextIndex (items : List Item) (place : Position) : Nat :=
  items.findIdx fun item =>
    match item.span? with
    | some (start, _) => decide (place.offset ≤ start.offset) && !item.isLoose
    | none => false

/-- The index of the first item at or behind a position. -/
def indexAt (items : List Item) (place : Position) : Nat :=
  items.findIdx fun item =>
    match item.span? with
    | some (start, _) => decide (place.offset ≤ start.offset)
    | none => false

/-- Where the last of some items ends that is no line end. -/
def endOf (items : List Item) : Position :=
  (items.reverse.findSome? fun item => match item with
    | .token t => if t.kind == .lineEnd then none else some t.stop
    | item => item.span?.map Prod.snd).getD .origin

/-- The number of nodes shown in front of a position. -/
def nodesBefore (ts : List SyntaxTree) (place : Position) : Nat :=
  (SyntaxTree.preorderAll ts).countP fun t => decide (t.stop.offset ≤ place.offset)

/-- How much a change may seem to cost beyond a gap, times the number of nodes before the gap. -/
def patience : Nat := 1800

/-- Is a change tried that seems to cost so much? -/
def isTried (nodes seeming : Nat) : Bool := decide ((seeming - supplyCost) * (1 + nodes) ≤ patience)

/-- The changes that set aside a part in front of a gap.  The construct as a whole may go only if it
is the first of its list, since otherwise nothing would be gained by it. -/
def partOffers (items : List Item) (g : Gap) (nodes : Nat) : List Offer :=
  let reached := endOf (items.take (nextIndex items g.place))
  let parts := (openParts g.place g.before).filter fun t => t.start != g.before.start
  (parts ++ if g.first then [g.before] else []).filterMap fun t =>
    let first := nextIndex items t.start
    if isTried nodes (asideCost 2 (endOf (items.take first)) reached) then
      some (asideCost 1 t.start t.stop, .setAside first (indexAt items t.stop))
    else none

/-- The change that sets aside the token behind a gap. -/
def tokenOffer? (items : List Item) (g : Gap) (nodes : Nat) : Option Offer :=
  let next := nextIndex items g.place
  (items[next]?.bind Item.span?).bind fun (start, stop) =>
    if isTried nodes (asideCost 1 (endOf (items.take next)) stop) then
      some (asideCost 1 start stop, .setAside next (next + 1))
    else none

/-- The changes that vie with a gap and cost less.  Of the parts in front of it only the first
counts that lets the reading go on. -/
def rivals (items : List Item) (g : Gap) (nodes : Nat) : List Offer :=
  (((partOffers items g nodes).find? fun o => leadsOn items 0 o.2).toList
    ++ (tokenOffer? items g nodes).toList).filter fun o => decide (o.1 < supplyCost)

/-- The trees of a file that is changed instead of having a gap, if the change does as well as the
gap up to the next gap, which stands before the item `limit`, or up to the end of the text if that
is where `limit` lies.  The change must not ask for more gaps than there would be. -/
def rivalTrees? (items : List Item) (gapsLeft limit : Nat) (e : Edit) :
    Option (List SyntaxTree) :=
  let changed := e.apply items
  let outline := Outline.ofItems changed
  match outline.trees with
  | some ts => if (gapsOf ts).length ≤ gapsLeft then some ts else none
  | none =>
    if limit < items.length ∧ e.passedBefore limit ≤ outline.far then
      some (changed.map Item.looseTree)
    else none

/-- The trees of a file after one of the changes that vie with a gap, if one of them does as well as
the gap.  Where just one token stands between two gaps and may be set aside, it is, with whatever
else has to be for the reading to go on. -/
def insteadOf? (items : List Item) (ts : List SyntaxTree) (g : Gap) (later : List Gap) :
    Option (List SyntaxTree) :=
  let nodes := nodesBefore ts g.place
  let next := nextIndex items g.place
  let limit := (later.head?.map fun h => nextIndex items h.place).getD items.length
  match (rivals items g nodes).findSome? fun o => rivalTrees? items later.length limit o.2 with
  | some trees => some trees
  | none =>
    let lone := decide (limit < items.length)
      && ((items.take limit).drop (next + 1)).all Item.isLoose
    if lone && (tokenOffer? items g nodes).isSome then some (mend items next) else none

/-- The trees of a file after the first change that takes the place of one of some gaps. -/
def replaceGap? (items : List Item) (ts : List SyntaxTree) : List Gap → Option (List SyntaxTree)
  | [] => none
  | g :: later => (insteadOf? items ts g later).or (replaceGap? items ts later)

/-- The trees of the file with its gaps, unless a change takes the place of one of them. -/
def settleGaps (items : List Item) (ts : List SyntaxTree) : List SyntaxTree :=
  (replaceGap? items ts (gapsInOrder ts)).getD ts

end GoStructs.Syntax.Repair
