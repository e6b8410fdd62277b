import Mathlib.Data.List.TakeDrop
import RdfReasoner.Json.Parser

/-!
# Texts of JSON values

`Json.Spells` says which texts spell a value by the grammar of JSON: there may be blanks around
everything, and a character of a string may be escaped in any of its ways, or stand for itself
unless it is a quote, a backslash or a control character.  Numbers are integers here, written
without a fraction and an exponent.

Every text that spells a value is read as this value (`Json.parse?_of_spells`), so no text spells
two of them.

## Shape of the proof

A reader gets the text of a part with something behind it, and leaves what is behind.  For readers
without fuel there is one such lemma each.  Values, items and fields are read by turns; their lemmas
are proved together by induction on the fuel (`Json.reads`), of which every character pays for one
unit.
-/

namespace RdfReasoner

namespace Fields

/-- A field of a new name comes last. -/
theorem put_of_notMem {α : Type} {name : String} {fields : List (String × α)}
    (h : name ∉ fields.map (·.1)) (v : α) : put name v fields = fields ++ [(name, v)] := by
  induction fields with
  | nil => rfl
  | cons field fields ih =>
    rw [List.map_cons, List.mem_cons, not_or] at h
    rw [put, if_neg (Ne.symm h.1), ih h.2, List.cons_append]

/-- Fields of different names stay as they are. -/
theorem ofList_of_nodup {α : Type} {fields : List (String × α)}
    (h : (fields.map (·.1)).Nodup) : ofList fields = fields := by
  have hfoldl (rest : List (String × α)) : ∀ found : List (String × α),
      ((found ++ rest).map (·.1)).Nodup →
        rest.foldl (fun found field => put field.1 field.2 found) found = found ++ rest := by
    induction rest with
    | nil => exact fun found _ => (List.append_nil found).symm
    | cons field rest ih =>
      intro found hfound
      have hnew : field.1 ∉ found.map (·.1) := by
        rw [List.map_append, List.map_cons, List.nodup_append] at hfound
        exact fun hmem => hfound.2.2 _ hmem _ List.mem_cons_self rfl
      have hput : put field.1 field.2 found = found ++ [field] := put_of_notMem hnew field.2
      rw [List.append_cons] at hfound ⊢
      rw [List.foldl_cons, ← ih _ hfound, ← hput]
  exact hfoldl fields [] h

end Fields

namespace Json

/-! ## The grammar -/

/-- What may stand between the parts of a text. -/
def Blanks (bs : List Char) : Prop := ∀ c ∈ bs, c ∈ [' ', '\n', '\r', '\t']

/-- The ways to write a character of a string. -/
inductive CharText : Char → List Char → Prop
  | plain {c : Char} (hquote : c ≠ '"') (hbackslash : c ≠ '\\') (hcontrol : 0x20 ≤ c.toNat) :
    CharText c [c]
  | short {mark c : Char} (h : (mark, c) ∈ escapes) : CharText c ['\\', mark]
  | code {c : Char} {a₁ a₂ a₃ a₄ : Char} (h : Text.hexNumber? [a₁, a₂, a₃, a₄] = some c.toNat) :
    CharText c ['\\', 'u', a₁, a₂, a₃, a₄]
  | halves {c : Char} {high low : Nat} {a₁ a₂ a₃ a₄ b₁ b₂ b₃ b₄ : Char}
    (ha : Text.hexNumber? [a₁, a₂, a₃, a₄] = some high) (hhigh : 0xD800 ≤ high ∧ high < 0xDC00)
    (hb : Text.hexNumber? [b₁, b₂, b₃, b₄] = some low) (hlow : 0xDC00 ≤ low ∧ low < 0xE000)
    (hc : c.toNat = 0x10000 + (high - 0xD800) * 0x400 + (low - 0xDC00)) :
    CharText c ['\\', 'u', a₁, a₂, a₃, a₄, '\\', 'u', b₁, b₂, b₃, b₄]

/-- The ways to write the characters of a string between its quotes. -/
inductive StringText : List Char → List Char → Prop
  | nil : StringText [] []
  | cons {c : Char} {t s u : List Char} (hc : CharText c t) (hs : StringText s u) :
    StringText (c :: s) (t ++ u)

/-- The decimal digits of a number, without a zero in front of others. -/
structure Decimals (n : Nat) (ds : List Char) : Prop where
  nonempty : ds ≠ []
  digits : ∀ c ∈ ds, c.isDigit = true
  value : Decimal.natOfDigits ds = n
  leading : 1 < ds.length → ds.head? ≠ some '0'

/-- The way to write an integer. -/
inductive IntText : Int → List Char → Prop
  | plain {n : Nat} {ds : List Char} (h : Decimals n ds) : IntText n ds
  | negative {n : Nat} {ds : List Char} (hn : n ≠ 0) (h : Decimals n ds) : IntText (-n) ('-' :: ds)

mutual

/-- The ways to write a value in which lists and objects are nested at most so often. -/
inductive ValueText : Nat → Json → List Char → Prop
  | null (d : Nat) : ValueText d .null ['n', 'u', 'l', 'l']
  | true (d : Nat) : ValueText d (.bool true) ['t', 'r', 'u', 'e']
  | false (d : Nat) : ValueText d (.bool false) ['f', 'a', 'l', 's', 'e']
  | int (d : Nat) {n : Int} {cs : List Char} (h : IntText n cs) (hword : isWord n = true) :
    ValueText d (.int n) cs
  | str (d : Nat) {s : String} {u : List Char} (h : StringText s.toList u) :
    ValueText d (.str s) ('"' :: (u ++ ['"']))
  | noItems (d : Nat) {bs : List Char} (hbs : Blanks bs) :
    ValueText (d + 1) (.arr []) ('[' :: (bs ++ [']']))
  | items {d : Nat} {items : List Json} {us : List Char} (h : ItemsText d items us) :
    ValueText (d + 1) (.arr items) ('[' :: (us ++ [']']))
  | noFields (d : Nat) {bs : List Char} (hbs : Blanks bs) :
    ValueText (d + 1) (.obj []) ('\x7b' :: (bs ++ ['\x7d']))
  | fields {d : Nat} {fields : List (String × Json)} {us : List Char}
    (h : FieldsText d fields us) :
    ValueText (d + 1) (.obj (Fields.ofList fields)) ('\x7b' :: (us ++ ['\x7d']))

/-- The ways to write a value with blanks around it. -/
inductive PaddedText : Nat → Json → List Char → Prop
  | mk {d : Nat} {j : Json} {bs cs bs' : List Char} (hbs : Blanks bs) (h : ValueText d j cs)
    (hbs' : Blanks bs') : PaddedText d j (bs ++ (cs ++ bs'))

/-- The ways to write the items of a list. -/
inductive ItemsText : Nat → List Json → List Char → Prop
  | last {d : Nat} {item : Json} {cs : List Char} (h : PaddedText d item cs) :
    ItemsText d [item] cs
  | more {d : Nat} {item : Json} {items : List Json} {cs us : List Char}
    (h : PaddedText d item cs) (hrest : ItemsText d items us) :
    ItemsText d (item :: items) (cs ++ ',' :: us)

/-- The ways to write the fields of an object. -/
inductive FieldsText : Nat → List (String × Json) → List Char → Prop
  | last {d : Nat} {name : String} {v : Json} {bs u bs' cs : List Char} (hbs : Blanks bs)
    (hname : StringText name.toList u) (hbs' : Blanks bs') (h : PaddedText d v cs) :
    FieldsText d [(name, v)] (bs ++ '"' :: (u ++ '"' :: (bs' ++ ':' :: cs)))
  | more {d : Nat} {name : String} {v : Json} {fields : List (String × Json)}
    {bs u bs' cs us : List Char} (hbs : Blanks bs) (hname : StringText name.toList u)
    (hbs' : Blanks bs') (h : PaddedText d v cs) (hrest : FieldsText d fields us) :
    FieldsText d ((name, v) :: fields)
      (bs ++ '"' :: (u ++ '"' :: (bs' ++ ':' :: (cs ++ ',' :: us))))

end

/-- Whether a text spells a value. -/
def Spells (j : Json) (text : String) : Prop := PaddedText maxDepth j text.toList

/-! ## Blanks -/

section blanks

variable {bs : List Char} {c : Char}

theorem blanks_nil : Blanks [] := fun _ hc => nomatch hc

theorem skipBlanks_append (hbs : Blanks bs) (cs : List Char) :
    skipBlanks (bs ++ cs) = skipBlanks cs := by
  refine List.dropWhile_append_of_pos fun c hc => ?_
  exact List.contains_iff_mem.mpr (hbs c hc)

theorem skipBlanks_cons (hc : c ∉ [' ', '\n', '\r', '\t']) (cs : List Char) :
    skipBlanks (c :: cs) = c :: cs :=
  List.dropWhile_cons_of_neg fun h => hc (List.contains_iff_mem.mp h)

@[simp] theorem skipBlanks_skipBlanks (cs : List Char) :
    skipBlanks (skipBlanks cs) = skipBlanks cs := by
  induction cs with
  | nil => rfl
  | cons c cs ih =>
    by_cases hc : c ∈ [' ', '\n', '\r', '\t']
    · have hblanks : Blanks [c] := fun x hx => List.mem_singleton.mp hx ▸ hc
      have hskip : skipBlanks (c :: cs) = skipBlanks cs := skipBlanks_append hblanks cs
      rw [hskip, ih]
    · rw [skipBlanks_cons hc, skipBlanks_cons hc]

end blanks

/-! ## Strings -/

section strings

variable {c : Char} {s t u : List Char}

theorem string?_char (h : CharText c t) (taken rest : List Char) :
    string? none taken (t ++ rest) = string? none (c :: taken) rest := by
  cases h with
  | plain hquote hbackslash hcontrol =>
    show string? none taken (c :: rest) = _
    rw [string?]
    · simp [hquote, hbackslash, Nat.not_lt.mpr hcontrol]
    · rintro _ _ _ _ _ rfl
      exact absurd rfl hbackslash
    · rintro _ _ rfl
      exact absurd rfl hbackslash
  | short h =>
    simp only [escapes, List.mem_cons, List.not_mem_nil, or_false, Prod.mk.injEq] at h
    rcases h with ⟨rfl, rfl⟩ | ⟨rfl, rfl⟩ | ⟨rfl, rfl⟩ | ⟨rfl, rfl⟩ | ⟨rfl, rfl⟩ | ⟨rfl, rfl⟩ |
      ⟨rfl, rfl⟩ | ⟨rfl, rfl⟩ <;> rfl
  | code h =>
    -- The code of a character is never the first half of a pair, so no second one is looked for.
    have hhigh : isHighHalf c.toNat = false := by
      have hvalid : c.toNat < 0xD800 ∨ 0xDFFF < c.toNat ∧ c.toNat < 0x110000 := c.valid
      simp only [isHighHalf, Bool.and_eq_false_iff, decide_eq_false_iff_not]
      omega
    simp [string?, h, hhigh, Text.charOfCode?_toNat]
  | @halves _ high low _ _ _ _ _ _ _ _ ha hhigh hb hlow hc =>
    have hchar : joinHalves? high low = some c := by
      rw [joinHalves?, isLowHalf, if_pos (by simpa using hlow), ← hc, Text.charOfCode?_toNat]
    simp [string?, ha, hb, isHighHalf, hhigh, hchar]

theorem string?_text (h : StringText s u) (taken rest : List Char) :
    string? none taken (u ++ '"' :: rest) = some (String.ofList (taken.reverse ++ s), rest) := by
  induction h generalizing taken with
  | nil =>
    show string? none taken ('"' :: rest) = _
    simp [string?]
  | cons hc _ ih =>
    rw [List.append_assoc, string?_char hc, ih, List.reverse_cons, List.append_assoc]
    rfl

end strings

/-! ## Numbers -/

/-- Whether a number that ends in front of a text is seen to end there. -/
def Ends (rest : List Char) : Prop :=
  ∀ c ∈ rest.head?, c.isDigit = false ∧ c ≠ '.' ∧ c ≠ 'e' ∧ c ≠ 'E'

section numbers

variable {n : Nat} {ds rest : List Char}

theorem isWord_iff {i : Int} :
    isWord i = true ↔ -0x8000000000000000 ≤ i ∧ i ≤ 0xffffffffffffffff := by
  rw [isWord, Bool.and_eq_true, decide_eq_true_iff, decide_eq_true_iff]
  exact Iff.rfl

theorem digits?_append (hds : Decimals n ds) (hrest : Ends rest) :
    digits? (ds ++ rest) = some (ds, rest) := by
  have hstop : rest.takeWhile Char.isDigit = [] ∧ rest.dropWhile Char.isDigit = rest := by
    cases rest with
    | nil => exact ⟨rfl, rfl⟩
    | cons c rest =>
      have hc : c.isDigit = false := (hrest c rfl).1
      simp [hc]
  have hspan : (ds ++ rest).span Char.isDigit = (ds, rest) := by
    rw [List.span_eq_takeWhile_dropWhile, List.takeWhile_append_of_pos hds.digits,
      List.dropWhile_append_of_pos hds.digits, hstop.1, hstop.2, List.append_nil]
  rw [digits?, hspan]
  simp [hds.nonempty]

theorem fraction?_of_ends (hrest : Ends rest) : fraction? rest = some (none, rest) := by
  rw [fraction?]
  rintro cs rfl
  exact absurd rfl (hrest '.' rfl).2.1

theorem exponent?_of_ends (hrest : Ends rest) : exponent? rest = some (none, rest) := by
  cases rest with
  | nil => rfl
  | cons c rest =>
    obtain ⟨-, -, he, hE⟩ := hrest c rfl
    rw [exponent?, if_neg (by simp [he, hE])]

theorem number?_append {i : Int} {cs : List Char} (h : IntText i cs) (hword : isWord i = true)
    (hrest : Ends rest) : number? (cs ++ rest) = some (.int i, rest) := by
  cases h with
  | plain h =>
    have hsign : ∀ tail, cs ++ rest ≠ '-' :: tail := by
      intro tail htail
      obtain ⟨c, ds, rfl⟩ := List.exists_cons_of_ne_nil h.nonempty
      obtain rfl : c = '-' := (List.cons.inj htail).1
      exact absurd (h.digits '-' List.mem_cons_self) (by decide)
    have hzero : ¬ (cs.length > 1 ∧ cs.head? = some '0') := fun hz => h.leading hz.1 hz.2
    rw [number?]
    · simp [digits?_append h hrest, fraction?_of_ends hrest, exponent?_of_ends hrest, hzero,
        h.value, hword]
    · exact hsign
  | @negative n ds hn h =>
    have hzero : ¬ (ds.length > 1 ∧ ds.head? = some '0') := fun hz => h.leading hz.1 hz.2
    rw [List.cons_append, number?]
    simp [digits?_append h hrest, fraction?_of_ends hrest, exponent?_of_ends hrest, hzero,
      h.value, hword, hn]

end numbers

/-! ## Values -/

/-- What is no blank and closes no list can begin a value. -/
def Begins (cs : List Char) : Prop :=
  ∃ c tail, cs = c :: tail ∧ c ∉ [' ', '\n', '\r', '\t'] ∧ c ≠ ']'

section values

variable {d f : Nat} {j : Json} {items : List Json} {fields : List (String × Json)}
  {cs us rest : List Char}

theorem begins_digits {n : Nat} (h : Decimals n cs) : Begins cs := by
  obtain ⟨c, tail, rfl⟩ := List.exists_cons_of_ne_nil h.nonempty
  have hc : c.isDigit = true := h.digits c List.mem_cons_self
  refine ⟨c, tail, rfl, fun hblank => ?_, ?_⟩
  · simp only [List.mem_cons, List.not_mem_nil, or_false] at hblank
    rcases hblank with rfl | rfl | rfl | rfl <;> exact absurd hc (by decide)
  · rintro rfl
    exact absurd hc (by decide)

theorem ValueText.begins (h : ValueText d j cs) : Begins cs := by
  cases h with
  | int _ h hword =>
    cases h with
    | plain h => exact begins_digits h
    | negative hn h => exact ⟨'-', _, rfl, by decide, by decide⟩
  | _ => exact ⟨_, _, rfl, by decide, by decide⟩

/-- The first character of the items is not that which closes the list. -/
theorem ItemsText.begins (h : ItemsText d items us) (rest : List Char) :
    Begins (skipBlanks (us ++ rest)) := by
  have hpadded {j : Json} {cs : List Char} (h : PaddedText d j cs) (rest : List Char) :
      Begins (skipBlanks (cs ++ rest)) := by
    obtain ⟨hbs, hvalue, -⟩ := h
    obtain ⟨c, tail, rfl, hblank, hclose⟩ := hvalue.begins
    rw [List.append_assoc, skipBlanks_append hbs, List.cons_append, List.cons_append,
      skipBlanks_cons hblank]
    exact ⟨c, _, rfl, hblank, hclose⟩
  cases h with
  | last h => exact hpadded h rest
  | more h hrest =>
    rw [List.append_assoc]
    exact hpadded h _

/-- The fields begin with a quote. -/
theorem FieldsText.begins (h : FieldsText d fields us) (rest : List Char) :
    ∃ tail, skipBlanks (us ++ rest) = '"' :: tail := by
  cases h with
  | last hbs hname hbs' h =>
    rw [List.append_assoc, skipBlanks_append hbs]
    exact ⟨_, skipBlanks_cons (by decide) _⟩
  | more hbs hname hbs' h hrest =>
    rw [List.append_assoc, skipBlanks_append hbs]
    exact ⟨_, skipBlanks_cons (by decide) _⟩

/-! ### Blanks in front do not matter -/

theorem value?_skipBlanks (cs : List Char) : value? f d (skipBlanks cs) = value? f d cs := by
  cases f with
  | zero => rfl
  | succ f => rw [value?, value?, skipBlanks_skipBlanks]

theorem items?_skipBlanks (cs : List Char) : items? f d (skipBlanks cs) = items? f d cs := by
  cases f with
  | zero => rfl
  | succ f => rw [items?, items?, value?_skipBlanks]

theorem fields?_skipBlanks (cs : List Char) : fields? f d (skipBlanks cs) = fields? f d cs := by
  cases f with
  | zero => rfl
  | succ f => rw [fields?, fields?, skipBlanks_skipBlanks]

/-! ### What is read -/

/-- An integer begins with a sign or a digit, and nothing else that is read does. -/
theorem value?_int {n : Int} (h : IntText n cs) (hword : isWord n = true) (hrest : Ends rest) :
    value? (f + 1) d (cs ++ rest) = some (.int n, rest) := by
  -- The other branches of `value?` each want a character of their own in front.
  obtain ⟨c, tail, rfl, hblank, -⟩ := (ValueText.int d h hword).begins
  have hfirst : c.isDigit = true ∨ c = '-' := by
    generalize hcs : c :: tail = cs at h
    cases h with
    | plain h => exact .inl (h.digits c (hcs ▸ List.mem_cons_self))
    | negative hn h => exact .inr (List.cons.inj hcs).1
  have hother (mark : Char) (hmark : mark.isDigit = false ∧ mark ≠ '-') : c ≠ mark := by
    rintro rfl
    rcases hfirst with hdigit | hsign
    · exact Bool.false_ne_true (hmark.1.symm.trans hdigit)
    · exact hmark.2 hsign
  rw [value?, List.cons_append, skipBlanks_cons hblank]
  split
  · next heq => exact absurd (List.cons.inj heq).1 (hother 'n' (by decide))
  · next heq => exact absurd (List.cons.inj heq).1 (hother 't' (by decide))
  · next heq => exact absurd (List.cons.inj heq).1 (hother 'f' (by decide))
  · next heq => exact absurd (List.cons.inj heq).1 (hother '"' (by decide))
  · next heq => exact absurd (List.cons.inj heq).1 (hother '[' (by decide))
  · next heq => exact absurd (List.cons.inj heq).1 (hother '\x7b' (by decide))
  · exact number?_append h hword hrest

/-- What follows a value. -/
theorem ends_of_mark {mark : Char}
    (h : mark.isDigit = false ∧ mark ≠ '.' ∧ mark ≠ 'e' ∧ mark ≠ 'E') (rest : List Char) :
    Ends (mark :: rest) := by
  intro c hc
  obtain rfl : mark = c := Option.some.inj hc
  exact h

theorem ends_append {bs : List Char} (hbs : Blanks bs) (hrest : Ends rest) : Ends (bs ++ rest) := by
  cases bs with
  | nil => exact hrest
  | cons b bs =>
    have hb := hbs b List.mem_cons_self
    refine ends_of_mark ?_ _
    simp only [List.mem_cons, List.not_mem_nil, or_false] at hb
    rcases hb with rfl | rfl | rfl | rfl <;> decide

/-- A value is read, if its items and fields are. -/
theorem value?_append
    (hitems : ∀ d items us rest, ItemsText d items us → us.length < f →
      items? f d (us ++ ']' :: rest) = some (items, rest))
    (hfields : ∀ d fields us rest, FieldsText d fields us → us.length < f →
      fields? f d (us ++ '\x7d' :: rest) = some (fields, rest))
    (h : ValueText d j cs) (hrest : Ends rest) (hfuel : cs.length ≤ f + 1) :
    value? (f + 1) d (cs ++ rest) = some (j, rest) := by
  cases h with
  | null => rfl
  | true => rfl
  | false => rfl
  | int _ h hword => exact value?_int h hword hrest
  | @str _ s u h =>
    have htext : string? none [] (u ++ '"' :: rest) = some (s, rest) := by
      simpa using string?_text h [] rest
    rw [List.cons_append, value?, skipBlanks_cons (by decide)]
    simp [htext]
  | @noItems d bs hbs =>
    have hskip : skipBlanks (bs ++ ']' :: rest) = ']' :: rest := by
      rw [skipBlanks_append hbs, skipBlanks_cons (by decide)]
    rw [List.cons_append, value?, skipBlanks_cons (by decide)]
    simp [hskip]
  | @items d items us h =>
    obtain ⟨c, tail, hskip, -, hclose⟩ := h.begins (']' :: rest)
    have hread : items? f d (c :: tail) = some (items, rest) := by
      rw [← hskip, items?_skipBlanks]
      refine hitems d items us rest h ?_
      simp only [List.length_cons, List.length_append, List.length_nil] at hfuel
      omega
    rw [List.cons_append, value?, skipBlanks_cons (by decide)]
    simp [hskip, hclose, hread]
  | @noFields d bs hbs =>
    have hskip : skipBlanks (bs ++ '\x7d' :: rest) = '\x7d' :: rest := by
      rw [skipBlanks_append hbs, skipBlanks_cons (by decide)]
    rw [List.cons_append, value?, skipBlanks_cons (by decide)]
    simp [hskip]
  | @fields d fields us h =>
    obtain ⟨tail, hskip⟩ := h.begins ('\x7d' :: rest)
    have hread : fields? f d ('"' :: tail) = some (fields, rest) := by
      rw [← hskip, fields?_skipBlanks]
      refine hfields d fields us rest h ?_
      simp only [List.length_cons, List.length_append, List.length_nil] at hfuel
      omega
    rw [List.cons_append, value?, skipBlanks_cons (by decide)]
    simp [hskip, hread]

/-- A field is read with its name and its value, and those behind its comma if there is one. -/
theorem fields?_append {name : String} {bs u bs' left : List Char} (hbs : Blanks bs)
    (hname : StringText name.toList u) (hbs' : Blanks bs')
    (hread : value? f d cs = some (j, left)) :
    (skipBlanks left = '\x7d' :: rest →
        fields? (f + 1) d (bs ++ '"' :: (u ++ '"' :: (bs' ++ ':' :: cs))) =
          some ([(name, j)], rest)) ∧
      ∀ us fields, skipBlanks left = ',' :: us → fields? f d us = some (fields, rest) →
        fields? (f + 1) d (bs ++ '"' :: (u ++ '"' :: (bs' ++ ':' :: cs))) =
          some ((name, j) :: fields, rest) := by
  have htext : string? none [] (u ++ '"' :: (bs' ++ ':' :: cs)) =
      some (name, bs' ++ ':' :: cs) := by
    simpa using string?_text hname [] (bs' ++ ':' :: cs)
  have hcolon : skipBlanks (bs' ++ ':' :: cs) = ':' :: cs := by
    rw [skipBlanks_append hbs', skipBlanks_cons (by decide)]
  rw [fields?, skipBlanks_append hbs, skipBlanks_cons (by decide)]
  refine ⟨fun hleft => ?_, fun us fields hleft hmore => ?_⟩
  · simp [htext, hcolon, hread, hleft]
  · simp [htext, hcolon, hread, hleft, hmore]

/-- Values are read with a unit of fuel for every character, items and fields with one more. -/
theorem reads (f : Nat) :
    (∀ d j cs rest, PaddedText d j cs → Ends rest → cs.length ≤ f →
      ∃ left, value? f d (cs ++ rest) = some (j, left) ∧ skipBlanks left = skipBlanks rest) ∧
    (∀ d items us rest, ItemsText d items us → us.length < f →
      items? f d (us ++ ']' :: rest) = some (items, rest)) ∧
    (∀ d fields us rest, FieldsText d fields us → us.length < f →
      fields? f d (us ++ '\x7d' :: rest) = some (fields, rest)) := by
  have hcomma (rest : List Char) : Ends (',' :: rest) := ends_of_mark (by decide) rest
  -- Items are left to the values in them with one unit less, values to their items likewise; the
  -- bracket that stands around the items makes up for the unit that these need more.
  induction f with
  | zero =>
    refine ⟨fun d j cs rest h _ hfuel => ?_,
      fun _ _ _ _ _ hfuel => absurd hfuel (Nat.not_lt_zero _),
      fun _ _ _ _ _ hfuel => absurd hfuel (Nat.not_lt_zero _)⟩
    obtain ⟨hbs, hvalue, hbs'⟩ := h
    obtain ⟨c, tail, rfl, -⟩ := hvalue.begins
    simp at hfuel
  | succ f ih =>
    obtain ⟨hvalue, hitems, hfields⟩ := ih
    refine ⟨?_, ?_, ?_⟩
    · intro d j cs rest h hrest hfuel
      obtain @⟨_, _, bs, cs, bs', hbs, h, hbs'⟩ := h
      refine ⟨bs' ++ rest, ?_, skipBlanks_append hbs' rest⟩
      rw [List.append_assoc, ← value?_skipBlanks, skipBlanks_append hbs, value?_skipBlanks,
        List.append_assoc]
      refine value?_append hitems hfields h (ends_append hbs' hrest) ?_
      simp only [List.length_append] at hfuel
      omega
    · intro d items us rest h hfuel
      cases h with
      | last h =>
        obtain ⟨left, hread, hleft⟩ :=
          hvalue _ _ _ (']' :: rest) h (ends_of_mark (by decide) rest) (by omega)
        rw [skipBlanks_cons (by decide)] at hleft
        simp [items?, hread, hleft]
      | @more _ item items cs us h hmore =>
        simp only [List.length_append, List.length_cons] at hfuel
        obtain ⟨left, hread, hleft⟩ :=
          hvalue _ _ _ (',' :: (us ++ ']' :: rest)) h (hcomma _) (by omega)
        rw [skipBlanks_cons (by decide)] at hleft
        have hread' := hitems _ _ _ rest hmore (by omega)
        rw [List.append_assoc, List.cons_append]
        simp [items?, hread, hleft, hread']
    · intro d fields us rest h hfuel
      cases h with
      | @last _ name v bs u bs' cs hbs hname hbs' h =>
        simp only [List.length_append, List.length_cons] at hfuel
        obtain ⟨left, hread, hleft⟩ :=
          hvalue _ _ _ ('\x7d' :: rest) h (ends_of_mark (by decide) rest) (by omega)
        rw [skipBlanks_cons (by decide)] at hleft
        simp only [List.append_assoc, List.cons_append]
        exact (fields?_append hbs hname hbs' hread).1 hleft
      | @more _ name v fields bs u bs' cs us hbs hname hbs' h hmore =>
        simp only [List.length_append, List.length_cons] at hfuel
        obtain ⟨left, hread, hleft⟩ :=
          hvalue _ _ _ (',' :: (us ++ '\x7d' :: rest)) h (hcomma _) (by omega)
        rw [skipBlanks_cons (by decide)] at hleft
        have hread' := hfields _ _ _ rest hmore (by omega)
        simp only [List.append_assoc, List.cons_append]
        exact (fields?_append hbs hname hbs' hread).2 _ _ hleft hread'

/-- A text that spells a value is read as this value. -/
theorem parse?_of_spells {text : String} (h : Spells j text) : parse? text = some j := by
  obtain ⟨hvalue, -, -⟩ := reads (2 * text.toList.length + 1)
  obtain ⟨left, hread, hleft⟩ :=
    hvalue maxDepth j text.toList [] h (fun c hc => nomatch hc) (by omega)
  rw [List.append_nil] at hread
  have hnone : skipBlanks left = [] := hleft
  simp [parse?, hread, hnone]

end values

/-! ## Values that have a text -/

/-- A character that must not stand for itself can be escaped. -/
theorem exists_charText (c : Char) : ∃ t, CharText c t := by
  by_cases hcontrol : c.toNat < 0x20
  · have hcode : ∀ n < 0x20, Text.hexNumber?
        ['0', '0', Nat.digitChar (n / 16), Nat.digitChar (n % 16)] = some n := by decide
    exact ⟨_, .code (hcode c.toNat hcontrol)⟩
  · by_cases hquote : c = '"'
    · have h : ('"', c) ∈ escapes := by rw [hquote]; decide
      exact ⟨_, .short h⟩
    · by_cases hbackslash : c = '\\'
      · have h : ('\\', c) ∈ escapes := by rw [hbackslash]; decide
        exact ⟨_, .short h⟩
      · exact ⟨[c], .plain hquote hbackslash (Nat.not_lt.mp hcontrol)⟩

theorem exists_stringText (s : List Char) : ∃ u, StringText s u := by
  induction s with
  | nil => exact ⟨[], .nil⟩
  | cons c s ih =>
    obtain ⟨t, ht⟩ := exists_charText c
    obtain ⟨u, hu⟩ := ih
    exact ⟨t ++ u, .cons ht hu⟩

theorem head?_toDigits {n : Nat} (hn : n ≠ 0) : (Nat.toDigits 10 n).head? ≠ some '0' := by
  induction n using Nat.strongRecOn with
  | _ n ih =>
    by_cases hlt : n < 10
    · have hdigit : ∀ m < 10, m ≠ 0 → Nat.digitChar m ≠ '0' := by decide
      rw [Nat.toDigits_of_lt_base hlt, List.head?_cons]
      exact fun h => hdigit n hlt hn (Option.some.inj h)
    · have hle : 10 ≤ n := Nat.not_lt.mp hlt
      obtain ⟨c, cs, hcs⟩ :=
        List.exists_cons_of_ne_nil (Nat.toDigits_ne_nil (n := n / 10) (b := 10))
      have hfront := ih (n / 10) (by omega) (by omega)
      rw [Nat.toDigits_of_base_le (by decide) hle, hcs]
      rwa [hcs] at hfront

theorem decimals_toDigits (n : Nat) : Decimals n (Nat.toDigits 10 n) where
  nonempty := Nat.toDigits_ne_nil
  digits _ hc := Nat.isDigit_of_mem_toDigits (by decide) (by decide) hc
  value := Nat.ofDigitChars_toDigits (by decide) (by decide)
  leading hlength := by
    refine head?_toDigits ?_
    rintro rfl
    exact absurd hlength (by decide)

theorem exists_intText (n : Int) : ∃ cs, IntText n cs := by
  obtain ⟨m, rfl | rfl⟩ := n.eq_nat_or_neg
  · exact ⟨_, .plain (decimals_toDigits m)⟩
  · by_cases hm : m = 0
    · subst hm
      exact ⟨_, .plain (decimals_toDigits 0)⟩
    · exact ⟨_, .negative hm (decimals_toDigits m)⟩

theorem exists_int {n : Int} (hword : isWord n = true) (d : Nat) :
    ∃ cs, ValueText d (.int n) cs := by
  obtain ⟨cs, h⟩ := exists_intText n
  exact ⟨cs, .int d h hword⟩

theorem exists_str (s : String) (d : Nat) : ∃ cs, ValueText d (.str s) cs := by
  obtain ⟨u, h⟩ := exists_stringText s.toList
  exact ⟨_, .str d h⟩

theorem ValueText.padded {d : Nat} {j : Json} {cs : List Char} (h : ValueText d j cs) :
    PaddedText d j cs := by
  have hpadded := PaddedText.mk blanks_nil h blanks_nil
  rwa [List.nil_append, List.append_nil] at hpadded

/-- An object can be written if the values of its fields can, and no two have the same name. -/
theorem exists_obj {d : Nat} {fields : List (String × Json)}
    (hnames : (fields.map (·.1)).Nodup) (h : ∀ field ∈ fields, ∃ cs, ValueText d field.2 cs) :
    ∃ cs, ValueText (d + 1) (.obj fields) cs := by
  have hfields (first : String × Json) (rest : List (String × Json))
      (h : ∀ field ∈ first :: rest, ∃ cs, ValueText d field.2 cs) :
      ∃ us, FieldsText d (first :: rest) us := by
    induction rest generalizing first with
    | nil =>
      obtain ⟨cs, hcs⟩ := h first List.mem_cons_self
      obtain ⟨u, hu⟩ := exists_stringText first.1.toList
      exact ⟨_, .last blanks_nil hu blanks_nil hcs.padded⟩
    | cons next rest ih =>
      obtain ⟨cs, hcs⟩ := h first List.mem_cons_self
      obtain ⟨u, hu⟩ := exists_stringText first.1.toList
      obtain ⟨us, hus⟩ := ih next fun field hfield => h field (List.mem_cons_of_mem _ hfield)
      exact ⟨_, .more blanks_nil hu blanks_nil hcs.padded hus⟩
  cases fields with
  | nil => exact ⟨_, .noFields d blanks_nil⟩
  | cons field rest =>
    obtain ⟨us, hus⟩ := hfields field rest h
    have hvalue := ValueText.fields hus
    rw [Fields.ofList_of_nodup hnames] at hvalue
    exact ⟨_, hvalue⟩

end Json

end RdfReasoner
