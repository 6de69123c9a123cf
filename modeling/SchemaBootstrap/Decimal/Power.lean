/-! # Powers of two and of ten

The powers that number formats are built on, as natural numbers.
-/

namespace SchemaBootstrap

/-- Two to the power of a number. -/
def twoTo (exponent : Nat) : Nat :=
  Nat.pow 2 exponent

/-- Ten to the power of a number. -/
def tenTo (exponent : Nat) : Nat :=
  Nat.pow 10 exponent

end SchemaBootstrap
