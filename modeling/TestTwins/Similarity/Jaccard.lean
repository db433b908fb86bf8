import TestTwins.OrderedSet
import TestTwins.Scalar

namespace TestTwins

variable {K : Type} [Scalar K]

section

variable {α : Type} [LE α] [LT α] [DecidableLT α] [Std.IsLinearOrder α] [Std.LawfulOrderLT α]
  [DecidableEq α]

def sharedCount (a b : OrderedSet α) : Nat := (a.inter b).size

def jointCount (a b : OrderedSet α) : Nat := (a.union b).size

def jaccard (a b : OrderedSet α) : K :=
  if a.isEmpty && b.isEmpty then Scalar.one
  else if a.isEmpty || b.isEmpty then Scalar.zero
  else Scalar.ratio (sharedCount a b) (jointCount a b)

end

def splitOnChar (c : Char) : List Char → List (List Char)
  | [] => [[]]
  | d :: rest =>
    match splitOnChar c rest with
    | [] => [[d]]
    | piece :: pieces => if d = c then [] :: piece :: pieces else (d :: piece) :: pieces

def tokens (s : String) : List String :=
  ((splitOnChar '|' s.toList).filter (!·.isEmpty)).map String.ofList

def tokenSet (s : String) : TokenSet := .ofList (tokens s)

def tokenJaccard (a b : String) : K := jaccard (tokenSet a) (tokenSet b)

def shapeSet (s : String) : TokenSet := (tokenSet s).filter fun t => !"func:".toList.isPrefixOf t.toList

def shapeSimilarity (a b : String) : K := jaccard (shapeSet a) (shapeSet b)

def mockSimilarity (a b : Nat) : K :=
  if a = 0 ∧ b = 0 then Scalar.one
  else if a = 0 ∨ b = 0 then Scalar.zero
  else Scalar.ratio (min a b) (max a b)

end TestTwins
