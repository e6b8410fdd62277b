import RdfReasoner.Regex.Footprint
import RdfReasoner.Regex.Parser.Class
import RdfReasoner.Regex.Simplify

/-!
# Reading patterns

`Regex.read?` reads the source of a pattern.  The language has characters, escapes, `.`, classes in
brackets with their set operations, `^` and `$`, groups, alternation, and repetitions, greedy or
not; flags can be set for a group or for the rest of one.  There is no look-around and no
back-reference.  A pattern that breaks a rule or nests too deeply is refused; `Regex.parse?` also
refuses one that is too large.

The reader keeps the groups that are still open in a stack of `Frame`s and takes at least one
character in every round, so the length of the source bounds the rounds.
-/

namespace RdfReasoner.Regex

/-! ## Repetitions and groups -/

/-- Reads a number with blanks around it. -/
def decimal? (f : Flags) (cs : List Char) : Option (Nat × List Char) :=
  let (ds, rest) := f.collect Char.isDigit (cs.dropWhile Text.isBlank)
  let n := ds.foldl (fun n d => 10 * n + (d.toNat - 48)) 0
  if ds.isEmpty || n ≥ 0x100000000 then none else some (n, rest.dropWhile Text.isBlank)

/-- Reads the bounds of a repetition behind the opening brace. -/
def bounds? (f : Flags) (cs : List Char) : Option ((Nat × Option Nat) × List Char) := do
  let (least, rest) ← decimal? f (f.skip cs)
  match rest with
  | '\x7d' :: rest => some ((least, some least), rest)
  | ',' :: rest =>
    match f.skip rest with
    | '\x7d' :: rest => some ((least, none), rest)
    | rest => do
      let (most, rest) ← decimal? f rest
      match rest with
      | '\x7d' :: rest => if least ≤ most then some ((least, some most), rest) else none
      | _ => none
  | _ => none

/-- Whether a character may stand in the name of a group. -/
def isNameChar (first : Bool) (c : Char) : Bool :=
  c == '_' || Text.Property.alphabetic.contains c ||
    (!first && (c == '.' || c == '[' || c == ']' || Text.Category.number.contains c))

/-- Reads the name of a group up to `>`. -/
def groupName? (cs : List Char) : Option (String × List Char) :=
  match cs.span (· != '>') with
  | (c :: name, _ :: rest) =>
    if isNameChar true c && name.all (isNameChar false) then some (String.ofList (c :: name), rest)
    else none
  | _ => none

/-! ## The whole pattern -/

/-- A part of a pattern, with the depth to which parts are nested in it.  A change of flags is a
part without an expression. -/
structure Part where
  expr : Option Expr
  depth : Nat := 0

namespace Part

/-- The depth of the deepest of some parts. -/
def deepest (parts : List Part) : Nat := (parts.map (·.depth)).foldl max 0

/-- One part after the other; several parts nest one deeper than each of them. -/
def concat (parts : List Part) : Part :=
  match parts with
  | [] => ⟨some .empty, 0⟩
  | [part] => ⟨some (part.expr.getD .empty), part.depth⟩
  | parts => ⟨some (.concat (parts.filterMap (·.expr))), deepest parts + 1⟩

/-- Any of some parts. -/
def oneOf (parts : List Part) : Part :=
  match parts with
  | [part] => part
  | parts => ⟨some (.oneOf (parts.map (·.expr.getD .empty))), deepest parts + 1⟩

end Part

/-- A group that is still open. -/
structure Frame where
  /-- The finished alternatives, last first. -/
  alternatives : List Part := []
  /-- The parts of the open alternative, last first. -/
  parts : List Part := []
  /-- The flags around the group. -/
  around : Flags := {}
  /-- The number of the group, if it counts. -/
  index : Option Nat := none

namespace Frame

/-- The frame with one more part. -/
def push (frame : Frame) (part : Part) : Frame := { frame with parts := part :: frame.parts }

/-- The frame with an expression as its next part. -/
def pushExpr (frame : Frame) (e : Expr) : Frame := frame.push ⟨some e, 0⟩

/-- The frame at the start of the next alternative. -/
def nextAlternative (frame : Frame) : Frame :=
  { frame with alternatives := .concat frame.parts.reverse :: frame.alternatives, parts := [] }

/-- The whole content of a group. -/
def content (frame : Frame) : Part := .oneOf frame.nextAlternative.alternatives.reverse

/-- The part that a closed group is. -/
def close (frame : Frame) : Part :=
  let content := frame.content
  let expr := match frame.index with
    | some index => content.expr.map (.group index)
    | none => content.expr
  ⟨expr, content.depth + 1⟩

/-- Repeats the last part, of which there must be one that is no change of flags. -/
def repeat? (frame : Frame) (least : Nat) (most : Option Nat) (isLazy : Bool) : Option Frame :=
  match frame.parts with
  | ⟨some e, depth⟩ :: parts =>
    some { frame with parts := ⟨some (e.times least most isLazy), depth + 1⟩ :: parts }
  | _ => none

end Frame

/-- Reads the mark of a repetition that prefers few rounds. -/
def lazyMark : List Char → Bool × List Char
  | '?' :: cs => (true, cs)
  | cs => (false, cs)

/-- The set that `.` stands for; without Unicode it would have to match single bytes. -/
def anyChar? (f : Flags) : Option CharSet :=
  if !f.unicode then none
  else if f.dotAll then some .all
  else if f.crlf then some (CharSet.ofChars ['\r', '\n']).compl
  else some (CharSet.singleton '\n').compl

/-- The expression that a character stands for. -/
def literal (f : Flags) (c : Char) : Expr := .ofSet (f.fold (.singleton c))

/-- The expression of an atom outside of brackets. -/
def Atom.toExpr (f : Flags) : Atom → Expr
  | .char c => literal f c
  | .set s => .ofSet s
  | .place p => .place p

/-- The groups of a pattern so far: how many of them count, and their names. -/
structure Groups where
  count : Nat := 0
  names : List String := []

/-- Reads a pattern to its end.  `outer` holds the groups around the open one. -/
def pattern? : Nat → Frame → List Frame → Flags → Groups → List Char → Option Part
  | 0, _, _, _, _, _ => none
  | fuel + 1, frame, outer, f, groups, cs =>
    let go (frame : Frame) (rest : List Char) := pattern? fuel frame outer f groups rest
    let repeated (least : Nat) (most : Option Nat) (rest : List Char) :=
      let (marked, rest) := lazyMark rest
      (frame.repeat? least most (marked != f.swapGreed)).bind (go · rest)
    match f.skip cs with
    | [] => if outer.isEmpty then some frame.content else none
    | '(' :: cs =>
      let counted (groups : Groups) (rest : List Char) :=
        pattern? fuel { around := f, index := some groups.count } (frame :: outer) f
          { groups with count := groups.count + 1 } rest
      match f.skip cs with
      | '?' :: '=' :: _ | '?' :: '!' :: _ | '?' :: '<' :: '=' :: _ | '?' :: '<' :: '!' :: _ => none
      | '?' :: 'P' :: '<' :: cs | '?' :: '<' :: cs => do
        let (name, rest) ← groupName? cs
        if groups.names.contains name then none
        else counted { groups with names := name :: groups.names } rest
      | '?' :: cs => do
        let (inner, stop, rest, isEmpty) ← f.read? [] false false cs
        if stop = ':' then pattern? fuel { around := f } (frame :: outer) inner groups rest
        else if isEmpty then none
        else pattern? fuel (frame.push ⟨none, 0⟩) outer inner groups rest
      | rest => counted groups rest
    | ')' :: cs =>
      match outer with
      | [] => none
      | enclosing :: outer =>
        pattern? fuel (enclosing.push frame.close) outer frame.around groups cs
    | '|' :: cs => go frame.nextAlternative cs
    | '[' :: cs => do
      let (set, rest) ← class? f cs
      go (frame.push ⟨some (.ofSet set.set), set.depth⟩) rest
    | '?' :: cs => repeated 0 (some 1) cs
    | '*' :: cs => repeated 0 none cs
    | '+' :: cs => repeated 1 none cs
    | '\x7b' :: cs => do
      let ((least, most), rest) ← bounds? f cs
      repeated least most (f.skip rest)
    | '\\' :: cs => do
      let (atom, rest) ← escape? f cs
      go (frame.pushExpr (atom.toExpr f)) rest
    | '.' :: cs => do go (frame.pushExpr (.ofSet (← anyChar? f))) cs
    | '^' :: cs =>
      go (frame.pushExpr (.place (if f.multiLine then .lineStart f.crlf else .textStart))) cs
    | '$' :: cs =>
      go (frame.pushExpr (.place (if f.multiLine then .lineEnd f.crlf else .textEnd))) cs
    | c :: cs => go (frame.pushExpr (literal f c)) cs

/-- Parts may be nested this deeply. -/
def maxDepth : Nat := 250

/-- The expression that a source denotes, whatever its size. -/
def read? (source : String) : Option Expr := do
  let cs := source.toList
  let part ← pattern? (cs.length + 1) {} [] {} {} cs
  if part.depth ≤ maxDepth then part.expr else none

/-- The expression that the source of a pattern denotes. -/
def parse? (source : String) : Option Expr := (read? source).filter (·.fits)

end RdfReasoner.Regex
