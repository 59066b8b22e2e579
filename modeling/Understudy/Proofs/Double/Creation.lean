import Understudy.Double.Bench
import Understudy.Proofs.Stub.Accessors
import Understudy.Proofs.Stub.Memo
import Understudy.Proofs.Symbols.Scoping

/-! Setting up doubles of interfaces.

A bench sets up a double of what a name stands for, and leaves all that it has otherwise. A declared
interface stands for itself unless its own name is taken for an absolute one.
-/

set_option autoImplicit false

namespace Understudy

open Understudy.Cpp

namespace SymbolTable

variable {t : SymbolTable} {name : String} {d : Declaration String}

/-- An interface stands for itself, unless its name is taken for an absolute one. -/
theorem interface_of_relative (arena : t.IsArena) (full : t.IsFullInterface name)
    (relative : ∀ rest, name ≠ qualify "" rest) :
    ∃ d, t.interface name = .ok d ∧ d.name = name := by
  obtain ⟨d, declared, rfl, proper, complete⟩ := full
  exact ⟨d, interface_eq_ok.mpr ⟨resolve?_outermost arena declared relative, proper, complete⟩, rfl⟩

end SymbolTable

theorem InstrumentedMethod.not_lacksAnswer {m : InstrumentedMethod}
    (spelled : m.returnType.isSpelled = true) : m.lacksAnswer = false := by
  have behindSpelled : (behind m.returnType).isSpelled = true := by
    cases type : m.returnType <;> rw [type] at spelled <;> exact spelled
  have fit : ∀ type, m.answerType? = some type → type.isSpelled = true := by
    intro type answered
    unfold answerType? at answered
    split at answered <;> cases answered
    · exact behindSpelled
    · exact spelled
  unfold lacksAnswer
  split
  next answered => cases fit _ answered
  next => rfl

namespace SymbolTable

variable {t : SymbolTable} {name : String} {d : Declaration String}

theorem ofStub_of_buildStub (arena : t.IsArena) (spelled : t.IsSpelled)
    (declared : d ∈ t.declarations) {lead : String} {stub : Stub}
    (made : t.buildStub (.text lead) d = .ok stub) : Double.ofStub stub = .ok (.fresh stub) := by
  have answers : stub.methods.any (·.lacksAnswer) = false := by
    rw [List.any_eq_false]
    intro m member
    have fit := isSpelled_returnType arena spelled declared made member
    simp [InstrumentedMethod.not_lacksAnswer fit]
  rw [Double.ofStub, answers]
  rfl

end SymbolTable

namespace Generator

theorem get?_memo_of_generate {g after : Generator} {name : String} {d : Declaration String}
    {stub : Stub} (stands : g.table.interface name = .ok d)
    (generated : g.generate name = (after, .ok stub)) : after.memo.get? d.name = some stub := by
  unfold generate at generated
  rw [stands] at generated
  dsimp only at generated
  split at generated
  next => cases generated
  next =>
    split at generated
    next kept =>
      cases generated
      exact kept
    next => cases generated

end Generator

namespace Bench

variable {b : Bench} {t : SymbolTable} {lead interface : String} {names : List String}

end Bench
end Understudy
