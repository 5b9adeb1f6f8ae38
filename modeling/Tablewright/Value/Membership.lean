import Tablewright.Value.Equality

/-!
# Sets

A set holds each of its members once. It lists numbers by the places that they take in a table,
where each tries the places that its residue modulo a prime leads to until one is free. Any other
members are listed as they are given.
-/

namespace Tablewright

/-! ## Residues -/

/-- The prime modulo which numbers have their residues. -/
def residuePrime : Nat := 2305843009213693951

/-- A power modulo the prime. -/
def powResidue (base exponent : Nat) : Nat :=
  if exponent = 0 then 1
  else
    let half := powResidue (base * base % residuePrime) (exponent / 2)
    if exponent % 2 = 1 then base * half % residuePrime else half
termination_by exponent
decreasing_by omega

/-- The residue of a fraction, which has the sign of the fraction. The denominator is inverted by
the power that is two less than the prime. None has the residue minus one. -/
def Quantity.residue? : Quantity → Option Int
  | .undefined => none
  | .infinity negative => some (if negative then -314159 else 314159)
  | .exact q =>
    let inverse := powResidue (q.den % residuePrime) (residuePrime - 2)
    let r : Int := q.num.natAbs * inverse % residuePrime
    let r := if q.num < 0 then -r else r
    some (if r = -1 then -2 else r)

/-! ## Places -/

/-- A table of so many places, some of them taken by a value and its residue. -/
structure PlaceTable where
  /-- The number of places. -/
  places : Nat := 8
  /-- The places that are taken. -/
  taken : List (Nat × Nat × Value) := []

namespace PlaceTable

/-- The places to try in some rounds. A round tries ten places in a row, or one where the table
ends before; the next round starts at a place that the digits of the residue shift. -/
def attempts (places : Nat) : Nat → Nat → Nat → List Nat
  | 0, _, _ => []
  | rounds + 1, start, shift =>
    List.range' start (if start + 9 < places then 10 else 1) ++
      attempts places rounds ((5 * start + 1 + shift / 32) % places) (shift / 32)

/-- Whether a place is free. -/
def isFree (t : PlaceTable) (place : Nat) : Bool :=
  t.taken.all fun e => e.1 != place

/-- Takes the first free place for a value. Once the residue is used up the rounds start at every
place in turn. -/
def take (t : PlaceTable) (residue : Nat) (v : Value) : PlaceTable :=
  match (attempts t.places (t.places + 13) (residue % t.places) residue).find? t.isFree with
  | some place => { t with taken := (place, residue, v) :: t.taken }
  | none => t

/-- What holds the places, in their order. -/
def entries (t : PlaceTable) : List (Nat × Value) :=
  (t.taken.mergeSort fun a b => decide (a.1 ≤ b.1)).map (·.2)

/-- The number of places for some members: the first power of two above four times as many. -/
def placesFor (members : Nat) : Nat :=
  Nat.pow 2 ((4 * members).log2 + 1)

/-- A table with more places for the same values. -/
def grown (t : PlaceTable) : PlaceTable :=
  t.entries.foldl (fun acc e => acc.take e.1 e.2) { places := placesFor t.taken.length }

/-- Takes a place for one more value. A table with three places in five taken grows. -/
def insert (t : PlaceTable) (residue : Nat) (v : Value) : PlaceTable :=
  let t := t.take residue v
  if 3 * (t.places - 1) ≤ 5 * t.taken.length then t.grown else t

end PlaceTable

namespace Value

/-! ## Members -/

/-- Values without repetitions, each at its first place. -/
def distinct (values : List Value) : List Value :=
  values.foldl (fun seen v => if seen.any (v.same ·) then seen else seen ++ [v]) []

/-- The residue of a number as a word of sixty-four bits. -/
def residue? (v : Value) : Option Nat :=
  (v.quantity?.bind Quantity.residue?).map fun r => (r.emod (Nat.pow 2 64 : Nat)).toNat

/-- A set of values. -/
def setOf (frozen : Bool) (values : List Value) : Value :=
  let members := distinct values
  let residues := members.filterMap fun v => v.residue?.map fun r => (r, v)
  if residues.length < members.length then .set frozen members
  else
    let table : PlaceTable := residues.foldl (fun t e => t.insert e.1 e.2) {}
    .set frozen (table.entries.map (·.2))

end Value

end Tablewright
