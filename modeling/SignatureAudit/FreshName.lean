/-!
# Fresh names

Generated lines need variable and target names that nothing else uses. A supply is an endless
sequence of names together with the number of those already drawn. `NameSupply.ofSeed` has names of
ten ASCII letters, and its draws repeat only after all such names have been drawn.
-/

namespace SignatureAudit

/-- An endless sequence of names, drawn in order. -/
structure NameSupply where
  name : Nat → String
  drawn : Nat := 0

/-- A computation that may draw fresh names. -/
abbrev Naming := StateM NameSupply

/-- Draws the next name. -/
def Naming.draw : Naming String :=
  modifyGet fun supply => (supply.name supply.drawn, { supply with drawn := supply.drawn + 1 })

namespace NameSupply

/-- The letters of generated names. -/
def letters : List Char := "abcdefghijklmnopqrstuvwxyzABCDEFGHIJKLMNOPQRSTUVWXYZ".toList

/-- The number `n` written with the given number of letters, the least significant first. -/
def spell : (length : Nat) → (n : Nat) → List Char
  | 0, _ => []
  | length + 1, n => letters.getD (n % 52) 'a' :: spell length (n / 52)

/-- Names of ten letters: an arithmetic progression modulo the number of such names, with a step
that is coprime to it. -/
def ofSeed (seed : Nat) : NameSupply where
  name i := String.ofList (spell 10 ((seed + i * 88172645463325253) % Nat.pow 52 10))

end NameSupply

end SignatureAudit
