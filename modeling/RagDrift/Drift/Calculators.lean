set_option autoImplicit false

/- The two calculators a drift monitor holds, and what they return. -/
namespace RagDrift.Drift

structure GraphDriftCalculator (N : Type) where
  spectralThreshold : N
  densityThreshold : N
  spectralK : Int
  deriving DecidableEq

structure SwarmDriftCalculator (N : Type) where
  entropyThreshold : N
  reflectionThreshold : N
  deriving DecidableEq

structure GraphDrift (N : Type) where
  spectralDistance : N
  densityDelta : N
  nodeCountDelta : Int
  isGraphDrifted : Bool
  deriving DecidableEq

structure SwarmDrift (N : Type) where
  transitionEntropyDelta : N
  avgReflectionIterationsDelta : N
  isSwarmDrifted : Bool
  deriving DecidableEq

/-- What two windows without any graph are given. -/
def GraphDrift.none {N : Type} [Zero N] : GraphDrift N := ⟨0, 0, 0, false⟩

/-- What two windows without any swarm are given. -/
def SwarmDrift.none {N : Type} [Zero N] : SwarmDrift N := ⟨0, 0, false⟩

end RagDrift.Drift
