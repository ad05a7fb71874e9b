/-!
# Instances

Powers of numbers are those of the core library, and the sum of no numbers is the literal zero, also where another
library has further instances of the same classes.
-/

namespace ChatRace

@[default_instance high]
instance (priority := high) natPow : Pow Nat Nat := instPowNat

instance (priority := high) natZero : Zero Nat := Zero.ofOfNat0

instance (priority := high) intZero : Zero Int := Zero.ofOfNat0

end ChatRace
