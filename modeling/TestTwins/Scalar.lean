namespace TestTwins

class Scalar (K : Type) extends Add K, Mul K, Div K, LE K where
  ofNat : Nat → K
  decideLe : DecidableLE K

namespace Scalar

instance {K : Type} [s : Scalar K] : DecidableLE K := s.decideLe

instance : Scalar Float where
  ofNat n := n.toUInt64.toFloat
  decideLe := inferInstance

instance : Scalar Rat where
  ofNat n := n
  decideLe := inferInstance

variable {K : Type} [Scalar K]

def zero : K := ofNat 0

def one : K := ofNat 1

def ratio (part whole : Nat) : K := ofNat part / ofNat whole

end Scalar

end TestTwins
