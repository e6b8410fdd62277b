import RdfReasoner.Error

/-!
# Lazy sequences that put questions to the storage

What is evaluated over a storage is a sequence whose items are made on demand, and making an item
may take questions to the storage.  `Sequence` makes both visible: it is a tree in which an item, a
question with a continuation for every reply, or the end comes next.  `Inquiry` is the part before a
sequence can be pulled at all.  A `Responder` answers questions and may change while it does so.

What comes behind an item is a function, so it is not made before it is pulled.  Functions on
sequences are structural recursions that pass questions through, so the order of the questions and
of the items is that of a consumer who pulls one item after the other.  `Sequence.take` stops as
soon as it has enough items, and nothing is asked or made after that.
-/

namespace RdfReasoner

/-! ## Questions and answers -/

/-- A question to the storage. -/
inductive Request
  /-- The facts that a lookup accepts. -/
  | lookup (l : Lookup)
  /-- The facts that some of several lookups accept, each with the position of the lookup. -/
  | lookupAll (ls : List Lookup)
  /-- Whether the next fact of a lookup is delivered. -/
  | deliver
  /-- Whether a statement is stored, in its context or else in any. -/
  | holds (s : Statement)
  /-- The statements along a predicate that paths to or from an end make. -/
  | reach (e : Endpoint) (predicate : Term) (context : Option Term)
deriving DecidableEq

/-- What a question is answered with. -/
@[reducible] def Request.Reply : Request → Type
  | lookup _ => Except Error (List Fact)
  | lookupAll _ => Except Error (List (Fact × Nat))
  | deliver => Except Error Unit
  | holds _ => Except Error Bool
  | reach .. => Except Error (List Statement)

/-- Answers questions over a state. -/
abbrev Responder (σ : Type) := (q : Request) → StateM σ q.Reply

/-! ## Inquiries -/

/-- A result that some questions lead to. -/
inductive Inquiry (α : Type) : Type
  | done (a : α)
  | ask (q : Request) (next : q.Reply → Inquiry α)

namespace Inquiry

variable {α β σ : Type}

/-- Applies a function to the result. -/
def map (f : α → β) : Inquiry α → Inquiry β
  | done a => done (f a)
  | ask q next => ask q fun r => (next r).map f

/-- The result for a responder. -/
def run (responder : Responder σ) : Inquiry α → StateM σ α
  | done a => pure a
  | ask q next => do (next (← responder q)).run responder

end Inquiry

/-! ## Sequences -/

/-- Items that are made on demand. -/
inductive Sequence (α : Type) : Type
  | nil
  | cons (a : α) (rest : Unit → Sequence α)
  | ask (q : Request) (next : q.Reply → Sequence α)

namespace Sequence

variable {α β σ ε : Type}

/-- A single item. -/
def single (a : α) : Sequence α := cons a fun _ => nil

/-- The items of a list in front of a sequence. -/
def prepend : List α → (Unit → Sequence α) → Sequence α
  | [], t => t ()
  | a :: as, t => cons a fun _ => prepend as t

/-- The items of a list. -/
def ofList (as : List α) : Sequence α := prepend as fun _ => nil

/-- One sequence after the other. -/
def append : Sequence α → (Unit → Sequence α) → Sequence α
  | nil, t => t ()
  | cons a rest, t => cons a fun _ => (rest ()).append t
  | ask q next, t => ask q fun r => (next r).append t

/-- Puts the questions of an inquiry in front of the sequence that they lead to. -/
def ofInquiry : Inquiry (Sequence α) → Sequence α
  | .done s => s
  | .ask q next => ask q fun r => ofInquiry (next r)

/-- Applies a function to every item. -/
def map (f : α → β) : Sequence α → Sequence β
  | nil => nil
  | cons a rest => cons (f a) fun _ => (rest ()).map f
  | ask q next => ask q fun r => (next r).map f

/-- Puts a sequence in place of every item. -/
def flatMap (f : α → Sequence β) : Sequence α → Sequence β
  | nil => nil
  | cons a rest =>
    match f a with
    | nil => (rest ()).flatMap f
    | s => s.append fun _ => (rest ()).flatMap f
  | ask q next => ask q fun r => (next r).flatMap f

/-- Keeps the items that pass a test. -/
def filter (p : α → Bool) : Sequence α → Sequence α
  | nil => nil
  | cons a rest => if p a then cons a fun _ => (rest ()).filter p else (rest ()).filter p
  | ask q next => ask q fun r => (next r).filter p

/-! ### Sequences with errors among their items -/

/-- Keeps the values that pass a test, and all errors. -/
def filterOk (p : α → Bool) (s : Sequence (Except ε α)) : Sequence (Except ε α) :=
  s.filter fun
    | .ok a => p a
    | .error _ => true

/-- Puts a sequence in place of every value; errors stay. -/
def flatMapOk (f : α → Sequence (Except ε β)) (s : Sequence (Except ε α)) : Sequence (Except ε β) :=
  s.flatMap fun
    | .ok a => f a
    | .error e => single (.error e)

/-- Leaves out everything behind the first error. -/
def untilError : Sequence (Except ε α) → Sequence (Except ε α)
  | nil => nil
  | cons (.ok a) rest => cons (.ok a) fun _ => (rest ()).untilError
  | cons (.error e) _ => single (.error e)
  | ask q next => ask q fun r => (next r).untilError

/-- Leaves out the first `offset` values, and everything behind the next `limit` values.  Errors
before that stay and are not counted; behind the last value nothing is asked. -/
def slice (offset : Nat) (limit : Option Nat) (s : Sequence (Except ε α)) :
    Sequence (Except ε α) :=
  if limit = some 0 then nil
  else
    match s with
    | nil => nil
    | cons (.error e) rest => cons (.error e) fun _ => (rest ()).slice offset limit
    | cons (.ok a) rest =>
      if offset = 0 then cons (.ok a) fun _ => (rest ()).slice 0 (limit.map (· - 1))
      else (rest ()).slice (offset - 1) limit
    | ask q next => ask q fun r => (next r).slice offset limit

/-- Groups values into lists of `size`, of which the last may be shorter.  An error takes the place
of the values gathered before it. -/
def chunks (size : Nat) (gathered : List α) : Sequence (Except ε α) → Sequence (Except ε (List α))
  | nil => if gathered.isEmpty then nil else single (.ok gathered)
  | cons (.error e) rest => cons (.error e) fun _ => (rest ()).chunks size []
  | cons (.ok a) rest =>
    let all := gathered ++ [a]
    if size ≤ all.length then cons (.ok all) fun _ => (rest ()).chunks size []
    else (rest ()).chunks size all
  | ask q next => ask q fun r => (next r).chunks size gathered

/-- Makes items `size` at a time before the first of them is passed on, and ends at the first
error. -/
def buffered (size : Nat) (gathered : List (Except ε α)) :
    Sequence (Except ε α) → Sequence (Except ε α)
  | nil => ofList gathered
  | cons (.error e) _ => ofList (gathered ++ [.error e])
  | cons (.ok a) rest =>
    let all := gathered ++ [.ok a]
    if size ≤ all.length then prepend all fun _ => (rest ()).buffered size []
    else (rest ()).buffered size all
  | ask q next => ask q fun r => (next r).buffered size gathered

/-! ### Pulling -/

/-- Pulls until the end. -/
def drain (responder : Responder σ) : Sequence α → StateM σ (List α)
  | nil => pure []
  | cons a rest => return a :: (← (rest ()).drain responder)
  | ask q next => do (next (← responder q)).drain responder

/-- Pulls at most `n` items. -/
def take (responder : Responder σ) (n : Nat) (s : Sequence α) : StateM σ (List α) :=
  if n = 0 then pure []
  else
    match s with
    | nil => pure []
    | cons a rest => return a :: (← (rest ()).take responder (n - 1))
    | ask q next => do (next (← responder q)).take responder n

/-- The facts of a lookup, each of which has to be delivered first. -/
def delivered (facts : List α) : Sequence (Except Error α) :=
  match facts with
  | [] => nil
  | f :: rest => ask .deliver fun r => cons (r.map fun _ => f) fun _ => delivered rest

end Sequence

end RdfReasoner
