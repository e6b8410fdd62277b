import RdfReasoner.Statement

/-!
# Indexes from terms to positions

A `TermIndex` lists, for every term, the positions of the facts that hold it in one place of their
statement.  Positions are added in ascending order, so every list is ascending, and what two lists
have in common is found in one walk through both.
-/

namespace RdfReasoner

/-- Positions of facts by term. -/
structure TermIndex where
  postings : Std.TreeMap Term (Array Nat) := ∅

namespace TermIndex

/-- The positions listed for a term. -/
def positions (index : TermIndex) (t : Term) : List Nat := (index.postings.getD t #[]).toList

/-- Lists one more position for a term. -/
def add (index : TermIndex) (t : Term) (position : Nat) : TermIndex :=
  ⟨index.postings.alter t fun held => some ((held.getD #[]).push position)⟩

/-- Lists a position for a term if there is one. -/
def add? (index : TermIndex) (t : Option Term) (position : Nat) : TermIndex :=
  match t with
  | some t => index.add t position
  | none => index

@[simp] theorem positions_empty (t : Term) : ({} : TermIndex).positions t = [] := by
  simp [positions]

theorem positions_add (index : TermIndex) (t u : Term) (position : Nat) :
    (index.add t position).positions u =
      index.positions u ++ if t = u then [position] else [] := by
  unfold positions add
  rw [Std.TreeMap.getD_alter]
  by_cases h : t = u
  · subst h
    simp [Std.TreeMap.getD_eq_getD_getElem?]
  · simp [h]

theorem positions_add? (index : TermIndex) (t : Option Term) (u : Term) (position : Nat) :
    (index.add? t position).positions u =
      index.positions u ++ if t = some u then [position] else [] := by
  cases t with
  | none => simp [add?]
  | some t => simp [add?, positions_add]

/-- What two ascending lists have in common. -/
def common : List Nat → List Nat → List Nat
  | [], _ => []
  | a :: as, bs =>
    let rest := bs.dropWhile (· < a)
    if rest.head? = some a then a :: common as rest else common as rest

end TermIndex

end RdfReasoner
