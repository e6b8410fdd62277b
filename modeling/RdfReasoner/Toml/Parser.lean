import RdfReasoner.Toml.Scalar

/-!
# Reading TOML documents

`Toml.parse?` reads a document line by line into sections and puts these together.  Lists and
tables in braces may go over many lines and may end with a comma; they are nested in each other at
most `Toml.maxDepth` times.  Between braces a line may end anywhere but inside a key.  Every reader
takes at least one character in every round, so the length of the text bounds the rounds.
-/

namespace RdfReasoner.Toml

/-- Lists and tables in braces may be nested in each other this often. -/
def maxDepth : Nat := 80

/-- A key may have this many names. -/
def maxNames : Nat := 80

/-! ## Blanks and ends of lines -/

/-- Whether a character may stand in a comment or in a string: no control character but the
tabulator. -/
def isPlain (c : Char) : Bool := c == '\t' || (0x20 ≤ c.toNat && c.toNat != 0x7F)

/-- Whether a character is a blank inside a line. -/
def isSpace (c : Char) : Bool := c == ' ' || c == '\t'

/-- Drops blanks inside a line. -/
def skipSpaces (cs : List Char) : List Char := cs.dropWhile isSpace

/-- Drops blanks and a comment to the end of the line, where nothing else may stand. -/
def lineEnd? (inComment : Bool) : List Char → Option (List Char)
  | [] => some []
  | '\n' :: rest | '\r' :: '\n' :: rest => some rest
  | c :: rest =>
    if inComment then if isPlain c then lineEnd? true rest else none
    else if isSpace c then lineEnd? false rest
    else if c = '#' then lineEnd? true rest
    else none

/-- Drops blanks, ends of lines and comments. -/
def skipLines? (inComment : Bool) : List Char → Option (List Char)
  | [] => some []
  | '\n' :: rest | '\r' :: '\n' :: rest => skipLines? false rest
  | c :: rest =>
    if inComment then if isPlain c then skipLines? true rest else none
    else if isSpace c then skipLines? false rest
    else if c = '#' then skipLines? true rest
    else some (c :: rest)

/-- Drops blanks and ends of lines. -/
def skipEmpty : List Char → List Char
  | '\r' :: '\n' :: rest => skipEmpty rest
  | c :: rest => if isSpace c || c == '\n' then skipEmpty rest else c :: rest
  | [] => []

/-- Drops an end of a line. -/
def newline? : List Char → Option (List Char)
  | '\n' :: rest | '\r' :: '\n' :: rest => some rest
  | _ => none

/-! ## Strings and keys -/

/-- The characters behind a backslash, and what they stand for. -/
def escapes : List (Char × Char) :=
  [('"', '"'), ('\\', '\\'), ('b', '\x08'), ('e', '\x1b'), ('f', '\x0c'), ('n', '\n'), ('r', '\r'),
    ('t', '\t')]

/-- Reads a character from a fixed number of hexadecimal digits. -/
def codePoint? (width : Nat) (cs : List Char) : Option (Char × List Char) :=
  if cs.length < width then none else (Text.charOfHex? (cs.take width)).map (·, cs.drop width)

/-- Reads what stands behind a backslash. -/
def escape? : List Char → Option (Char × List Char)
  | 'x' :: cs => codePoint? 2 cs
  | 'u' :: cs => codePoint? 4 cs
  | 'U' :: cs => codePoint? 8 cs
  | c :: cs => (escapes.lookup c).map (·, cs)
  | [] => none

/-- Reads the end of a string, where it is.  Three quotes end a string of many lines, and up to two
quotes before these are part of it. -/
def closing? (quote : Char) (multi : Bool) (cs : List Char) : Option (List Char × List Char) :=
  let quotes := (cs.takeWhile (· == quote)).length
  if multi then
    if quotes < 3 then none
    else
      let inner := min (quotes - 3) 2
      some (List.replicate inner quote, cs.drop (inner + 3))
  else if quotes = 0 then none
  else some ([], cs.drop 1)

/-- Reads a string to its end.  `taken` is what is read so far, last character first.  Between
double quotes, a backslash starts an escape, or hides the end of a line and the blanks after it. -/
def string? (quote : Char) (multi : Bool) : (fuel : Nat) → (taken : List Char) → List Char →
    Option (String × List Char)
  | 0, _, _ => none
  | fuel + 1, taken, cs =>
    match closing? quote multi cs with
    | some (inner, rest) => some (String.ofList (taken.reverse ++ inner), rest)
    | none =>
      match cs with
      | [] => none
      | '\n' :: rest => if multi then string? quote multi fuel ('\n' :: taken) rest else none
      | '\r' :: '\n' :: rest =>
        if multi then string? quote multi fuel ('\n' :: '\r' :: taken) rest else none
      | '\\' :: rest =>
        if quote = '\'' then string? quote multi fuel ('\\' :: taken) rest
        else
          match newline? (skipSpaces rest) with
          | some rest => if multi then string? quote multi fuel taken (skipEmpty rest) else none
          | none => do
            let (c, rest) ← escape? rest
            string? quote multi fuel (c :: taken) rest
      | c :: rest => if isPlain c then string? quote multi fuel (c :: taken) rest else none

/-- Reads a string behind its opening quotes. -/
def stringBehind? (quote : Char) (multi : Bool) (cs : List Char) : Option (String × List Char) :=
  let cs := if multi then (newline? cs).getD cs else cs
  string? quote multi (cs.length + 1) [] cs

/-- Reads a string with its quotes. -/
def quoted? : List Char → Option (String × List Char)
  | '"' :: '"' :: '"' :: rest => stringBehind? '"' true rest
  | '\'' :: '\'' :: '\'' :: rest => stringBehind? '\'' true rest
  | '"' :: rest => stringBehind? '"' false rest
  | '\'' :: rest => stringBehind? '\'' false rest
  | _ => none

/-- Whether a character may stand in a name without quotes. -/
def isNameChar (c : Char) : Bool := c.isAlphanum || c == '_' || c == '-'

/-- Reads one name of a key. -/
def name? : List Char → Option (String × List Char)
  | '"' :: rest => stringBehind? '"' false rest
  | '\'' :: rest => stringBehind? '\'' false rest
  | cs =>
    let (name, rest) := cs.span isNameChar
    if name.isEmpty then none else some (String.ofList name, rest)

/-- Reads at most `limit` names with dots between them, and the blanks around these. -/
def names? : (limit : Nat) → List Char → Option (Key × List Char)
  | 0, _ => none
  | limit + 1, cs => do
    let (name, rest) ← name? (skipSpaces cs)
    match skipSpaces rest with
    | '.' :: rest => do
      let (key, rest) ← names? limit rest
      some (⟨name :: key.path, key.name⟩, rest)
    | rest => some (⟨[], name⟩, rest)

/-- Reads a key. -/
def key? (cs : List Char) : Option (Key × List Char) := names? maxNames cs

/-! ## Values -/

/-- Whether a character may stand in a scalar. -/
def isScalarChar (c : Char) : Bool := c.isAlphanum || ['+', '-', '.', ':', '_'].contains c

/-- Splits a text behind its first scalar.  A blank may separate a date from a time. -/
def splitScalar (cs : List Char) : List Char × List Char :=
  let (first, rest) := cs.span isScalarChar
  match date? first, rest with
  | some (_, []), ' ' :: c :: rest =>
    if c.isDigit then
      let (second, rest) := (c :: rest).span isScalarChar
      (first ++ ' ' :: second, rest)
    else (first, ' ' :: c :: rest)
  | _, _ => (first, rest)

mutual

/-- Reads a value. -/
def value? : (fuel depth : Nat) → List Char → Option (Toml × List Char)
  | 0, _, _ => none
  | fuel + 1, depth, cs =>
    match depth, cs with
    | 0, '[' :: _ | 0, '\x7b' :: _ => none
    | depth + 1, '[' :: rest =>
      (items? fuel depth rest).map fun (items, rest) => (.list items, rest)
    | depth + 1, '\x7b' :: rest => do
      let (assignments, rest) ← fields? fuel depth rest
      some (.table .inline (← ofAssignments? assignments), rest)
    | _, cs =>
      match quoted? cs with
      | some (s, rest) => some (.text s, rest)
      | none =>
        let (token, rest) := splitScalar cs
        (scalar? token).map (·, rest)

/-- Reads the items of a list to its closing bracket. -/
def items? : (fuel depth : Nat) → List Char → Option (List Toml × List Char)
  | 0, _, _ => none
  | fuel + 1, depth, cs => do
    match ← skipLines? false cs with
    | ']' :: rest => some ([], rest)
    | cs =>
      let (item, rest) ← value? fuel depth cs
      match ← skipLines? false rest with
      | ',' :: rest => (items? fuel depth rest).map fun (items, rest) => (item :: items, rest)
      | ']' :: rest => some ([item], rest)
      | _ => none

/-- Reads the assignments of a table in braces to its closing brace. -/
def fields? : (fuel depth : Nat) → List Char → Option (List Assignment × List Char)
  | 0, _, _ => none
  | fuel + 1, depth, cs => do
    match ← skipLines? false cs with
    | '\x7d' :: rest => some ([], rest)
    | cs =>
      let (a, rest) ← assignment? fuel depth (skipLines? false) cs
      match ← skipLines? false rest with
      | ',' :: rest => (fields? fuel depth rest).map fun (others, rest) => (a :: others, rest)
      | '\x7d' :: rest => some ([a], rest)
      | _ => none

/-- Reads a key, an equals sign and a value.  What may stand between them is skipped. -/
def assignment? : (fuel depth : Nat) → (skip : List Char → Option (List Char)) → List Char →
    Option (Assignment × List Char)
  | 0, _, _, _ => none
  | fuel + 1, depth, skip, cs => do
    let (key, rest) ← key? cs
    match ← skip rest with
    | '=' :: rest =>
      let (v, rest) ← value? fuel depth (← skip rest)
      some (⟨key, v⟩, rest)
    | _ => none

end

/-! ## Documents -/

/-- Reads a header to the end of its line. -/
def header? (cs : List Char) : Option (Section × List Char) := do
  match cs with
  | '[' :: '[' :: cs =>
    match ← key? cs with
    | (key, ']' :: ']' :: rest) => some (⟨some key, true, []⟩, ← lineEnd? false rest)
    | _ => none
  | '[' :: cs =>
    match ← key? cs with
    | (key, ']' :: rest) => some (⟨some key, false, []⟩, ← lineEnd? false rest)
    | _ => none
  | _ => none

/-- Reads the lines of a document, of which the first ones belong to `current`. -/
def sections? : (fuel : Nat) → (current : Section) → List Char → Option (List Section)
  | 0, _, _ => none
  | fuel + 1, current, cs => do
    match ← skipLines? false cs with
    | [] => some [current]
    | '[' :: rest =>
      let (next, rest) ← header? ('[' :: rest)
      some (current :: (← sections? fuel next rest))
    | cs =>
      let (a, rest) ← assignment? (3 * cs.length + 3) maxDepth (some ∘ skipSpaces) cs
      sections? fuel { current with assignments := current.assignments ++ [a] }
        (← lineEnd? false rest)

/-- The table at the root of a document.  A mark of the byte order before it is no part of it. -/
def parse? (text : String) : Option Fields := do
  let cs := match text.toList with
    | '\uFEFF' :: cs => cs
    | cs => cs
  ofSections? (← sections? (cs.length + 1) ⟨none, false, []⟩ cs)

/-- A header names a table once. -/
example : (parse? "[a]\n[a]").isNone = true := by decide +kernel

/-- A longer header may come before the one that it goes through. -/
example : (parse? "[a.b]\n[a]\nc = 1").isSome = true := by decide +kernel

end RdfReasoner.Toml
