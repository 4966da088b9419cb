/-! Names that are used once only. A name that is taken gets the first numeral that makes it new. -/

namespace ClientGen.Naming

/-- The first candidate from `start` on that is not taken, among the next `steps`; after those, the
one that follows. Of `taken.length + 1` different candidates one is free. -/
def firstFree (taken : List String) (candidate : Nat → String) (start : Nat) : Nat → String
  | 0 => candidate start
  | steps + 1 =>
    if taken.contains (candidate start) then firstFree taken candidate (start + 1) steps
    else candidate start

/-- The names handed out so far, last one first. -/
structure Claims where
  taken : List String := []

/-- Reserves a name; a taken one is followed by `2`, `3` and so on. -/
def Claims.claim (claims : Claims) (name : String) : String × Claims :=
  let granted :=
    if claims.taken.contains name then
      firstFree claims.taken (fun suffix => name ++ toString suffix) 2 claims.taken.length
    else name
  (granted, ⟨granted :: claims.taken⟩)

@[simp] theorem Claims.taken_claim (claims : Claims) (name : String) :
    (claims.claim name).2.taken = (claims.claim name).1 :: claims.taken := rfl

theorem Claims.claim_of_notMem {claims : Claims} {name : String} (free : name ∉ claims.taken) :
    (claims.claim name).1 = name := by
  simp [claim, free]

end ClientGen.Naming
