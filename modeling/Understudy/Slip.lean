/-! Slips: ways in which a value turns out to be unfit for what is done with it.

No message of their own goes with them; where they come from a broken document or setting, the
run ends there.
-/

set_option autoImplicit false

namespace Understudy

inductive Slip where
  /-- A value of a kind that the operation does not take. -/
  | wrongType
  /-- A value that lacks the operation. -/
  | noMember
  | noKey
  | outOfRange
  /-- A value of the right kind outside the values the operation takes. -/
  | badValue
  | overflow
  | divisionByZero
  | tooLarge
  /-- A walk through data that has come to its end. -/
  | exhausted
  /-- A walk through an object whose number of entries has changed. -/
  | disturbed
  | unknownEncoding
  | unencodable
  | undecodable
  | illFormed
  | unwritable
  deriving DecidableEq, Repr

end Understudy
