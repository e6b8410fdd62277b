import RdfReasoner.Json.Parser
import RdfReasoner.Settings
import RdfReasoner.Toml.Parser

/-!
# Values that settings are made of

The values of all sources of settings, whatever their format.  They are looked into generously: a
truth value may be written as a number or as a word, a size as a word or as a fraction, a text as a
number (`Reading.ofValue`).

Sources are laid over each other: tables are joined field by field, and of anything else the later
value counts (`Value.overlay`).
-/

namespace RdfReasoner.Settings

/-- A value of a source of settings. -/
inductive Value
  | null
  | bool (b : Bool)
  | int (n : Int)
  | real (x : Double)
  | text (s : String)
  | list (items : List Value)
  | table (fields : List (String × Value))
deriving Inhabited

namespace Value

/-! ## From documents -/

mutual

/-- The value of a JSON value. -/
def ofJson : Json → Value
  | .null => null
  | .bool b => bool b
  | .int n => int n
  | .real x => real x
  | .str s => text s
  | .arr items => list (ofJsonItems items)
  | .obj fields => table (ofJsonFields fields)

/-- The values of the items of a JSON list. -/
def ofJsonItems : List Json → List Value
  | [] => []
  | item :: rest => ofJson item :: ofJsonItems rest

/-- The values of the fields of a JSON object. -/
def ofJsonFields : List (String × Json) → List (String × Value)
  | [] => []
  | (name, v) :: rest => (name, ofJson v) :: ofJsonFields rest

end

/-- The name by which a table of a TOML document stands for a time. -/
def timeName : String := "$__toml_private_datetime"

/-- What a table that stands for a time has under that name, which must be the least of its
names. -/
def timeIn? (fields : List (String × Toml)) : Option Toml :=
  if fields.all fun field => timeName ≤ field.1 then fields.lookup timeName else none

mutual

/-- The value of a value of a TOML document; a time is its text. -/
def ofToml? : Toml → Option Value
  | .text s | .time s => some (text s)
  | .int n => some (int n)
  | .real x => some (real x)
  | .bool b => some (bool b)
  | .list items => (ofTomlItems? items).map list
  | .table _ fields => ofTomlTable? fields
  | .tables earlier last => do
    some (list ((← ofTomlTables? earlier) ++ [← ofTomlTable? last]))

/-- The value of a table. -/
def ofTomlTable? (fields : List (String × Toml)) : Option Value :=
  match timeIn? fields with
  | some (.text s) => (Toml.time? s.toList).map text
  | some _ => none
  | none => (ofTomlFields? fields).map table

/-- The values of the items of a list. -/
def ofTomlItems? : List Toml → Option (List Value)
  | [] => some []
  | item :: rest => do some ((← ofToml? item) :: (← ofTomlItems? rest))

/-- The values of the fields of a table. -/
def ofTomlFields? : List (String × Toml) → Option (List (String × Value))
  | [] => some []
  | (name, v) :: rest => do some ((name, ← ofToml? v) :: (← ofTomlFields? rest))

/-- The values of tables. -/
def ofTomlTables? : List (List (String × Toml)) → Option (List Value)
  | [] => some []
  | fields :: rest => do some ((← ofTomlTable? fields) :: (← ofTomlTables? rest))

end

/-! ## Looking into values -/

/-- The words for a truth value. -/
def ofWord? (s : String) : Option Bool :=
  let word := String.ofList (s.toList.map Char.toLower)
  if ["true", "on", "yes"].contains word then some true
  else if ["false", "off", "no"].contains word then some false
  else none

/-- A truth value: zero is false and any other number is true. -/
def bool? : Value → Option Bool
  | bool b => some b
  | int n => some (n != 0)
  | real x => some !x.isZero
  | text "1" => some true
  | text "0" => some false
  | text s => ofWord? s
  | _ => none

/-- Reads the digits of a size. -/
def sizeOfText? (s : String) : Option Nat :=
  let ds := match s.toList with
    | '+' :: ds => ds
    | ds => ds
  if ds.isEmpty || !ds.all Char.isDigit then none
  else
    let n := Decimal.natOfDigits ds
    if n ≤ Word.maxSize then some n else none

/-- A size.  Fractions are rounded, and what is too small or too large becomes the least or the
largest size. -/
def size? : Value → Option Nat
  | int n => if 0 ≤ n then some n.toNat else none
  | bool b => some b.toNat
  | real x => some x.toNatClamped
  | text s =>
    match ofWord? s with
    | some b => some b.toNat
    | none => sizeOfText? s
  | _ => none

/-- A text; numbers and truth values are written out. -/
def text? : Value → Option String
  | text s => some s
  | bool b => some (if b then "true" else "false")
  | int n => some (toString n)
  | real x => some x.render
  | _ => none

/-- The fields of a table, and none of anything else. -/
def fields : Value → List (String × Value)
  | table fields => fields
  | _ => []

/-- The items of a list, and none of anything else. -/
def items : Value → List Value
  | list items => items
  | _ => []

/-! ## Layers -/

mutual

/-- The value that is there when `upper` is laid over `lower`. -/
def overlay (lower : Value) : (upper : Value) → Value
  | table fields => table (overlayFields lower.fields fields)
  | upper => upper

/-- The fields that are there when others are laid over them. -/
def overlayFields (lower : List (String × Value)) : (upper : List (String × Value)) →
    List (String × Value)
  | [] => lower
  | (name, v) :: rest =>
    overlayFields (Fields.put name (overlay ((lower.lookup name).getD null) v) lower) rest

end

/-- A step from a value to one inside it. -/
inductive Step
  | field (name : String)
  /-- A place in a list, counted from its end if negative. -/
  | item (i : Int)
deriving DecidableEq

/-- Where an item stands in a list, which is made longer at its end or at its front if needed. -/
def reach (i : Int) (items : List Value) : Nat × List Value :=
  let fromFront := if 0 ≤ i then i else items.length + i
  if fromFront < 0 then (0, List.replicate (-fromFront).toNat null ++ items)
  else
    let place := fromFront.toNat
    (place, items ++ List.replicate (place + 1 - items.length) null)

/-- Changes the value at the end of a path.  What is missing on the way is made, and what is in the
way is replaced. -/
def change (f : Value → Value) : (path : List Step) → Value → Value
  | [], v => f v
  | .field name :: path, v =>
    table (Fields.put name (change f path ((v.fields.lookup name).getD null)) v.fields)
  | .item i :: path, v =>
    let (place, items) := reach i v.items
    list (items.modify place (change f path))

/-- Whether a character may stand in a name on a path. -/
def isNameChar (c : Char) : Bool := c.isAlphanum || c == '_' || c == '-'

/-- Reads a name on a path. -/
def name? (cs : List Char) : Option (Step × List Char) :=
  let (name, rest) := cs.span isNameChar
  if name.isEmpty then none else some (.field (String.ofList name), rest)

/-- Whether a character is a blank inside a line. -/
def isSpace (c : Char) : Bool := c == ' ' || c == '\t'

/-- Reads a place in a list behind the opening bracket.  Blanks around the number are skipped. -/
def place? (cs : List Char) : Option (Step × List Char) := do
  let cs := cs.dropWhile isSpace
  let (negative, cs) := match cs with
    | '-' :: cs => (true, cs)
    | cs => (false, cs)
  let (digits, rest) := cs.span Char.isDigit
  let n : Int := Decimal.natOfDigits digits
  let n := if negative then -n else n
  match rest.dropWhile isSpace with
  | ']' :: rest =>
    if digits.isEmpty || !Word.Fits n then none else some (.item n, rest)
  | _ => none

/-- Reads the steps of a path behind the first one. -/
def steps? : (fuel : Nat) → List Char → Option (List Step)
  | _, [] => some []
  | 0, _ => none
  | fuel + 1, c :: cs => do
    let (step, rest) ← if c = '.' then name? cs else if c = '[' then place? cs else none
    some (step :: (← steps? fuel rest))

/-- The path that a name at the root stands for: names with dots between them and places in
brackets.  A name of any other form stands for itself. -/
def path (name : String) : List Step :=
  let steps := do
    let (first, rest) ← name? name.toList
    some (first :: (← steps? rest.length rest))
  steps.getD [.field name]

example : path "writer.batch_size" = [.field "writer", .field "batch_size"] := by decide +kernel
example : path "a[-1].b" = [.field "a", .item (-1), .field "b"] := by decide +kernel
example : path "a[ 0\t]" = [.field "a", .item 0] := by decide +kernel
example : path "a b" = [.field "a b"] := by decide +kernel

/-- Lays a value over the one that a name at the root stands for. -/
def set (root : Value) (name : String) (v : Value) : Value :=
  change (overlay · v) (path name) root

/-- Lays the fields of a source over the root. -/
def addSource (root : Value) (fields : List (String × Value)) : Value :=
  fields.foldl (fun root (name, v) => root.set name v) root

end Value

/-- Looks into the values of sources. -/
def Reading.ofValue : Reading Value where
  isNull
    | .null => true
    | _ => false
  bool? := Value.bool?
  size? := Value.size?
  text? := Value.text?
  fields?
    | .table fields => some fields
    | _ => none
  items?
    | .list items => some items
    | _ => none
  allowsMore := true

end RdfReasoner.Settings
