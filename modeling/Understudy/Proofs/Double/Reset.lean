import Understudy.Proofs.Double.Reach

/-! What resets do to doubles.

Beside its present state, a slot keeps what it goes back to, and nothing else. So a slot that is reset
is that of a double that was just set up, and a double all of whose slots are differs from one by what
it has handed out and by what a test has put on it.
-/

set_option autoImplicit false

namespace Understudy

namespace Double

variable {d : Double} {stub : Stub} {space : Space} {key accessor : String}

end Double

/-! ## Benches -/

namespace Bench

variable {b : Bench} {number n : Nat} {d : Double} {space : Space} {key : String}

/-- All that lies beside the doubles of two benches is the same. -/
structure SharesBeside (b c : Bench) : Prop where
  generator : c.generator = b.generator
  heap : c.heap = b.heap
  handles : c.handles = b.handles
  locals : c.locals = b.locals

theorem double?_reset (b : Bench) (number : Nat) (space : Space) (key : String) (n : Nat) :
    (b.reset number space key).double? n = (b.update number (·.reset space key)).double? n := by
  cases space <;> rfl

end Bench
end Understudy
