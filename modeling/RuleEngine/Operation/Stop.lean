set_option autoImplicit false

/-! # Stop signals

A signal that is given once and stays given. Waiting for it ends early when it is given. -/

namespace RuleEngine

/-- A signal. -/
structure StopSignal where
  triggered : Bool := false
deriving DecidableEq, Inhabited

namespace StopSignal

/-- Give the signal; says whether this was the first time. -/
def trigger (s : StopSignal) : Bool × StopSignal := (!s.triggered, ⟨true⟩)

/-- What a wait that nothing interrupts returns: whether the signal was given before. -/
def waited (s : StopSignal) : Bool := s.triggered

end StopSignal

end RuleEngine
