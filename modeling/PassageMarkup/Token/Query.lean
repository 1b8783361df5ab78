import PassageMarkup.Token.Basic

/-!
# Queries on trees

Looking up an offset, collecting the leaves, and collecting the errors of a tree.  The collections
keep a list of trees still to visit, so that a deep tree needs no deep recursion.
-/

namespace PassageMarkup

/-- An offset of a passage, with the name of the passage. -/
structure Position where
  offset : Nat
  place : Text
deriving DecidableEq, Repr

namespace Position

/-- The position of what stands in no passage. -/
def nowhere : Position :=
  ⟨0, "<null>".toList⟩

end Position

/-- A fault and where it is. -/
structure Located where
  fault : Fault
  position : Position
deriving DecidableEq, Repr

namespace Token

/-- Tells whether a token's kind is one of a list. -/
def isOneOf (token : Token) (kinds : List Kind) : Bool :=
  kinds.contains token.kind

/-- Tells whether an offset lies in a token's range. -/
def contains (token : Token) (offset : Nat) : Bool :=
  token.start ≤ offset && offset < token.stop

mutual

/-- The tokens that contain an offset, from the deepest one up to the root.  The path goes through
the first child that contains the offset, and ends at a token none of whose children does. -/
def pathAt (offset : Nat) : Token → List Token
  | ⟨kind, start, stop, text, inner, children, place, fields, fault⟩ =>
    let token : Token := ⟨kind, start, stop, text, inner, children, place, fields, fault⟩
    if token.contains offset then pathAtList offset children ++ [token] else []

/-- The path of the first token of a list that contains an offset. -/
def pathAtList (offset : Nat) : List Token → List Token
  | [] => []
  | token :: rest =>
    if token.contains offset then pathAt offset token else pathAtList offset rest

end

/-- The deepest token that contains an offset. -/
def tokenAt (offset : Nat) (token : Token) : Option Token :=
  (token.pathAt offset).head?

/-- The tokens without children in a list of trees that are still to visit. -/
def leavesFrom : List Token → List Token
  | [] => []
  | token :: pending =>
    if token.children.isEmpty then token :: leavesFrom pending
    else leavesFrom (token.children ++ pending)
termination_by pending => sizeList pending
decreasing_by
  · have := token.size_eq
    simp only [sizeList]
    omega
  · have := token.size_eq
    simp only [sizeList, sizeList_append]
    omega

/-- The tokens without children, in the order of the passage.  A token without children is its own
only leaf. -/
def leaves (token : Token) : List Token :=
  leavesFrom [token]

/-- Tells whether a predicate holds of every leaf. -/
def everyLeaf (predicate : Token → Bool) (token : Token) : Bool :=
  token.leaves.all predicate

/-- The fault of a token with the token's position. -/
def located (token : Token) : Option Located :=
  token.fault.map fun fault => ⟨fault, ⟨token.start, token.place⟩⟩

/-- The errors in a list of trees that are still to visit. -/
def errorsFrom : List Token → List Located
  | [] => []
  | token :: pending => token.located.toList ++ errorsFrom (token.children ++ pending)
termination_by pending => sizeList pending
decreasing_by
  have := token.size_eq
  simp only [sizeList, sizeList_append]
  omega

/-- The errors of a tree, each token before its children. -/
def errors (token : Token) : List Located :=
  errorsFrom [token]

end Token

end PassageMarkup
