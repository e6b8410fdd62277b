import RdfReasoner.Error

/-!
# The text form of terms

The text form of a term is read back exactly if nothing in the term gets in the way of the signs
around it (`Term.Expressible`): the lexical form of a literal may be any text whatsoever, while an
IRI, a label and a decoration have to be of the characters that are read in their places.  A term
that was read from any text is of this kind, so its text form is read as the same term again
(`Term.parse_render`).

## Shape of the proof

Each part of the text form is read exactly: between angle brackets (`bracketed?_eq_some`), behind
`_:` (`label?_eq_some`), and what decorates a literal (`literal?_eq_some`).  Between the quotes every
quote stands behind a backslash, so reading stops at the closing one (`splitQuoted?_escape`).  What
was escaped is restored in two rounds.  The first one leaves the backslashes doubled: the second
backslash of a pair is never taken for the escape of a quote, since no escaped text begins with a
quote (`replacePair_escape`).
-/

namespace RdfReasoner

/-! ## Blanks at the ends -/

namespace Text

variable {c : Char}

/-- A text that begins and ends without blanks is left as it is. -/
theorem trim_eq_self {l m : List Char} (hc : isBlank c = false) (hne : m ≠ [])
    (hm : ∀ d ∈ m, isBlank d = false) : trim (c :: (l ++ m)) = c :: (l ++ m) := by
  obtain ⟨init, last, rfl⟩ : ∃ init last, m = init ++ [last] :=
    ⟨_, _, (List.dropLast_concat_getLast hne).symm⟩
  have hlast : isBlank last = false := hm last (by simp)
  rw [trim, List.dropWhile_cons_of_neg (by simp [hc]), ← List.cons_append, ← List.append_assoc,
    List.reverse_append, List.reverse_singleton, List.singleton_append,
    List.dropWhile_cons_of_neg (by simp [hlast]), List.reverse_cons, List.reverse_reverse]

/-- Letters and digits are no blanks. -/
theorem isBlank_of_isAlphanum (h : c.isAlphanum = true) : isBlank c = false := by
  delta Char.isAlphanum Char.isAlpha Char.isUpper Char.isLower Char.isDigit at h
  simp only [Bool.or_eq_true, Bool.and_eq_true, decide_eq_true_eq, UInt32.le_iff_toNat_le,
    ge_iff_le] at h
  change ((65 ≤ c.toNat ∧ c.toNat ≤ 90) ∨ (97 ≤ c.toNat ∧ c.toNat ≤ 122)) ∨
    (48 ≤ c.toNat ∧ c.toNat ≤ 57) at h
  rw [isBlank, CharSet.contains, CharSet.holdsCode, List.any_eq_false]
  intro r hr
  simp only [blanks, List.mem_cons, List.not_mem_nil, or_false] at hr
  simp only [Bool.and_eq_true, decide_eq_true_eq]
  rcases hr with rfl | rfl | rfl | rfl | rfl | rfl | rfl | rfl | rfl | rfl <;> omega

end Text

namespace Term

variable {cs : List Char} {text label tag : String} {t : Term}

/-! ## Terms that have a text form -/

/-- A text that may stand between angle brackets. -/
def IsIriText (text : String) : Prop :=
  ∀ c ∈ text.toList, c ≠ '<' ∧ c ≠ '>' ∧ c ≠ '"' ∧ Text.isBlank c = false

/-- A letter, digit or underscore, followed by letters, digits, underscores, dots and hyphens. -/
def IsLabel (label : String) : Prop :=
  ∃ c cs, label.toList = c :: cs ∧ (c.isAlphanum = true ∨ c = '_') ∧
    ∀ d ∈ cs, d.isAlphanum = true ∨ d = '_' ∨ d = '.' ∨ d = '-'

/-- Groups of letters and digits, each behind a hyphen. -/
def IsGroups (cs : List Char) : Prop :=
  ∃ groups : List (List Char), cs = groups.flatMap ('-' :: ·) ∧
    ∀ group ∈ groups, group ≠ [] ∧ ∀ c ∈ group, c.isAlphanum = true

/-- Letters, and groups behind them. -/
def IsTag (tag : String) : Prop :=
  ∃ first rest, tag.toList = first ++ rest ∧ (first ≠ [] ∧ ∀ c ∈ first, c.isAlpha = true) ∧
    IsGroups rest

/-- The text form tells everything there is about the term. -/
inductive Expressible : Term → Prop
  | iri {text : String} (h : IsIriText text) : Expressible (iri text)
  | blank {label : String} (h : IsLabel label) : Expressible (blank label)
  | plain (lexical : String) : Expressible (literal lexical none none)
  | typed (lexical : String) {type : String} (h : IsIriText type) :
    Expressible (literal lexical (some type) none)
  | tagged (lexical : String) {tag : String} (h : IsTag tag) :
    Expressible (literal lexical none (some tag))

/-! ## Between angle brackets -/

theorem isIriChar_iff {c : Char} :
    isIriChar c = true ↔ c ≠ '<' ∧ c ≠ '>' ∧ c ≠ '"' ∧ Text.isBlank c = false := by
  simp [isIriChar, and_assoc]

/-- What is read between angle brackets. -/
theorem bracketed?_eq_some :
    bracketed? cs = some text ↔ cs = '<' :: (text.toList ++ ['>']) ∧ IsIriText text := by
  constructor
  · intro h
    unfold bracketed? at h
    split at h
    · next cs =>
      split at h
      · next hrest =>
        obtain rfl := Option.some.inj h
        rw [String.toList_ofList, ← hrest, List.takeWhile_append_dropWhile]
        refine ⟨rfl, fun c hc => isIriChar_iff.mp ?_⟩
        rw [String.toList_ofList] at hc
        exact List.all_eq_true.mp List.all_takeWhile c hc
      · cases h
    · cases h
  · rintro ⟨rfl, h⟩
    have hall : ∀ c ∈ text.toList, isIriChar c = true := fun c hc => isIriChar_iff.mpr (h c hc)
    rw [bracketed?, List.dropWhile_append_of_pos hall, List.takeWhile_append_of_pos hall]
    simp [isIriChar]

/-! ## Labels -/

theorem isLabelStart_iff {c : Char} : isLabelStart c = true ↔ c.isAlphanum = true ∨ c = '_' := by
  simp [isLabelStart]

theorem isLabelChar_iff {c : Char} :
    isLabelChar c = true ↔ c.isAlphanum = true ∨ c = '_' ∨ c = '.' ∨ c = '-' := by
  simp [isLabelChar, isLabelStart, or_assoc]

/-- What is read behind an underscore and a colon. -/
theorem label?_eq_some :
    label? cs = some label ↔ cs = '_' :: ':' :: label.toList ∧ IsLabel label := by
  constructor
  · intro h
    unfold label? at h
    split at h
    · next c cs =>
      split at h
      · next hchars =>
        rw [Bool.and_eq_true, List.all_eq_true] at hchars
        obtain rfl := Option.some.inj h
        rw [String.toList_ofList]
        exact ⟨rfl, c, cs, String.toList_ofList, isLabelStart_iff.mp hchars.1,
          fun d hd => isLabelChar_iff.mp (hchars.2 d hd)⟩
      · cases h
    · cases h
  · rintro ⟨rfl, c, cs, hlabel, hc, hcs⟩
    have hchars : (isLabelStart c && cs.all isLabelChar) = true := by
      rw [Bool.and_eq_true, List.all_eq_true]
      exact ⟨isLabelStart_iff.mpr hc, fun d hd => isLabelChar_iff.mpr (hcs d hd)⟩
    rw [hlabel, label?, if_pos hchars, ← hlabel, String.ofList_toList]

/-! ## Quoted texts -/

theorem escape_cons (c : Char) (cs : List Char) :
    escape (c :: cs) = (if c = '\\' ∨ c = '"' then ['\\', c] else [c]) ++ escape cs :=
  rfl

/-- Reading stops at the closing quote and nowhere before. -/
theorem splitQuoted?_escape (cs tail : List Char) :
    splitQuoted? (escape cs ++ '"' :: tail) = some (escape cs, tail) := by
  induction cs with
  | nil => rfl
  | cons c cs ih =>
    rw [escape_cons]
    split
    · next hc =>
      have hline : c ≠ '\n' := by rintro rfl; simp at hc
      simp [splitQuoted?, hline, ih]
    · next hc =>
      rw [not_or] at hc
      simp [splitQuoted?, hc.1, hc.2, ih]

theorem head?_escape_ne (cs : List Char) : (escape cs).head? ≠ some '"' := by
  cases cs with
  | nil => exact nofun
  | cons c cs =>
    rw [escape_cons]
    split
    · simp
    · next hc => simpa using (not_or.mp hc).2

/-- A character that does not begin a pair stays. -/
theorem replacePair_cons {first second out c : Char} (h : c ≠ first ∨ cs.head? ≠ some second) :
    replacePair first second out (c :: cs) = c :: replacePair first second out cs := by
  cases cs with
  | nil => rfl
  | cons d cs =>
    rw [replacePair, if_neg]
    rintro ⟨rfl, rfl⟩
    simp at h

/-- The first round restores the quotes and leaves the backslashes doubled. -/
theorem replacePair_escape (cs : List Char) :
    replacePair '\\' '"' '"' (escape cs) =
      cs.flatMap fun c => if c = '\\' then ['\\', '\\'] else [c] := by
  induction cs with
  | nil => rfl
  | cons c cs ih =>
    rw [escape_cons, List.flatMap_cons, ← ih]
    by_cases hback : c = '\\'
    · subst hback
      rw [if_pos (.inl rfl), if_pos rfl, List.cons_append, List.cons_append, List.nil_append,
        replacePair_cons (.inr (by simp)), replacePair_cons (.inr (head?_escape_ne cs))]
      rfl
    · by_cases hquote : c = '"'
      · subst hquote
        rfl
      · simp only [hback, hquote, or_self, if_false, List.singleton_append]
        exact replacePair_cons (.inl hback)

/-- What was escaped is restored. -/
theorem unescape_escape (cs : List Char) : unescape (escape cs) = cs := by
  rw [unescape, replacePair_escape]
  induction cs with
  | nil => rfl
  | cons c cs ih =>
    rw [List.flatMap_cons]
    by_cases hback : c = '\\'
    · subst hback
      exact congrArg ('\\' :: ·) ih
    · rw [if_neg hback, List.singleton_append, replacePair_cons (.inl hback), ih]

/-! ## Language tags -/

/-- Characters of a group are read one by one. -/
theorem continuesTag_append {digits : Bool} {group : List Char}
    (h : ∀ c ∈ group, (c.isAlpha || digits && c.isDigit) = true) (tail : List Char) :
    continuesTag digits (group ++ tail) = continuesTag digits tail := by
  induction group with
  | nil => rfl
  | cons c group ih =>
    obtain ⟨hc, hgroup⟩ := List.forall_mem_cons.mp h
    have hhyphen : c ≠ '-' := by rintro rfl; cases digits <;> simp at hc
    rw [List.cons_append, continuesTag.eq_def]
    simp [hhyphen, hc, ih hgroup]

/-- What goes on with a tag is the rest of a group, and more groups behind it. -/
theorem continuesTag_iff {digits : Bool} :
    continuesTag digits cs = true ↔ ∃ group rest, cs = group ++ rest ∧
      (∀ c ∈ group, (c.isAlpha || digits && c.isDigit) = true) ∧ IsGroups rest := by
  constructor
  · intro h
    fun_induction continuesTag digits cs with
    | case1 digits => exact ⟨[], [], rfl, List.forall_mem_nil _, [], rfl, List.forall_mem_nil _⟩
    | case2 digits c rest ih =>
      rw [Bool.and_eq_true] at h
      obtain ⟨group, _, rfl, hgroup, groups, rfl, hgroups⟩ := ih h.2
      refine ⟨[], _, rfl, List.forall_mem_nil _, (c :: group) :: groups, rfl, ?_⟩
      refine List.forall_mem_cons.mpr ⟨⟨List.cons_ne_nil _ _, ?_⟩, hgroups⟩
      exact List.forall_mem_cons.mpr ⟨h.1, hgroup⟩
    | case3 digits c rest _ ih =>
      rw [Bool.and_eq_true] at h
      obtain ⟨group, rest, rfl, hgroup, hrest⟩ := ih h.2
      exact ⟨c :: group, rest, rfl, List.forall_mem_cons.mpr ⟨h.1, hgroup⟩, hrest⟩
  · rintro ⟨group, _, rfl, hgroup, groups, rfl, hgroups⟩
    rw [continuesTag_append hgroup]
    clear hgroup
    induction groups generalizing digits with
    | nil => rfl
    | cons next groups ih =>
      obtain ⟨⟨hne, hnext⟩, hrest⟩ := List.forall_mem_cons.mp hgroups
      obtain ⟨c, next, rfl⟩ := List.exists_cons_of_ne_nil hne
      obtain ⟨hc, hnext⟩ := List.forall_mem_cons.mp hnext
      rw [List.flatMap_cons, List.cons_append, List.cons_append, continuesTag, hc, Bool.true_and,
        continuesTag_append hnext]
      exact ih hrest

theorem isLanguageTag_iff : isLanguageTag cs = true ↔ IsTag (String.ofList cs) := by
  rw [IsTag, String.toList_ofList]
  cases cs with
  | nil =>
    refine iff_of_false nofun ?_
    rintro ⟨first, rest, heq, ⟨hne, -⟩, -⟩
    exact hne (List.append_eq_nil_iff.mp heq.symm).1
  | cons c cs =>
    rw [isLanguageTag, Bool.and_eq_true, continuesTag_iff]
    constructor
    · rintro ⟨hc, group, rest, rfl, hgroup, hrest⟩
      refine ⟨c :: group, rest, rfl, ⟨List.cons_ne_nil _ _, ?_⟩, hrest⟩
      exact List.forall_mem_cons.mpr ⟨hc, by simpa using hgroup⟩
    · rintro ⟨first, rest, heq, ⟨hne, hfirst⟩, hrest⟩
      obtain ⟨d, group, rfl⟩ := List.exists_cons_of_ne_nil hne
      obtain ⟨rfl, rfl⟩ := List.cons.inj heq
      obtain ⟨hc, hgroup⟩ := List.forall_mem_cons.mp hfirst
      exact ⟨hc, group, rest, rfl, by simpa using hgroup, hrest⟩

/-! ## Literals -/

/-- What stands behind the closing quote of a literal. -/
def decoration : Option String → Option String → List Char
  | _, some tag => '@' :: tag.toList
  | some type, none => '^' :: '^' :: '<' :: (type.toList ++ ['>'])
  | none, none => []

theorem toList_render_literal (lexical : String) (datatype language : Option String) :
    (literal lexical datatype language).render.toList =
      '"' :: (escape lexical.toList ++ '"' :: decoration datatype language) := by
  cases language <;> cases datatype <;> simp [render, decoration]

/-- What is read behind the quotes: at most one of a datatype and a language, and only what the
literal can be written with. -/
theorem literal?_eq_some {body tail : List Char} :
    literal? body tail = some t ↔ ∃ datatype language,
      t = literal (String.ofList (unescape body)) datatype language ∧ t.Expressible ∧
        tail = decoration datatype language := by
  constructor
  · intro h
    unfold literal? at h
    split at h
    · obtain rfl := Option.some.inj h
      exact ⟨none, none, rfl, .plain _, rfl⟩
    · next tag =>
      split at h
      · next htag =>
        obtain rfl := Option.some.inj h
        refine ⟨none, some (String.ofList tag), rfl, .tagged _ (isLanguageTag_iff.mp htag), ?_⟩
        rw [decoration, String.toList_ofList]
      · cases h
    · next datatype =>
      obtain ⟨type, htype, rfl⟩ := Option.map_eq_some_iff.mp h
      obtain ⟨rfl, htext⟩ := bracketed?_eq_some.mp htype
      exact ⟨some type, none, rfl, .typed _ htext, rfl⟩
    · cases h
  · rintro ⟨datatype, language, rfl, hexpressible, rfl⟩
    cases hexpressible with
    | plain => rfl
    | @typed _ type htype =>
      rw [decoration, literal?, bracketed?_eq_some.mpr ⟨rfl, htype⟩]
      rfl
    | @tagged _ tag htag =>
      rw [decoration, literal?, if_pos, String.ofList_toList]
      rwa [isLanguageTag_iff, String.ofList_toList]

/-! ## Terms -/

theorem ofChars?_of_head?_ne (h : cs.head? ≠ some '"') :
    ofChars? cs = ((bracketed? cs).map iri).or ((label? cs).map blank) := by
  unfold ofChars?
  split
  · exact absurd rfl h
  · rfl

/-- Whatever is read can be written. -/
theorem expressible_of_ofChars? (h : ofChars? cs = some t) : t.Expressible := by
  by_cases hquote : cs.head? = some '"'
  · obtain ⟨cs, rfl⟩ := List.head?_eq_some_iff.mp hquote
    rw [ofChars?, Option.bind_eq_some_iff] at h
    obtain ⟨⟨body, tail⟩, -, h⟩ := h
    obtain ⟨-, -, -, hexpressible, -⟩ := literal?_eq_some.mp h
    exact hexpressible
  · rw [ofChars?_of_head?_ne hquote, Option.or_eq_some_iff] at h
    rcases h with h | ⟨-, h⟩
    · obtain ⟨text, htext, rfl⟩ := Option.map_eq_some_iff.mp h
      exact .iri (bracketed?_eq_some.mp htext).2
    · obtain ⟨label, hlabel, rfl⟩ := Option.map_eq_some_iff.mp h
      exact .blank (label?_eq_some.mp hlabel).2

theorem toList_render_iri (text : String) :
    (iri text).render.toList = '<' :: (text.toList ++ ['>']) := by
  simp [render]

theorem toList_render_blank (label : String) :
    (blank label).render.toList = '_' :: ':' :: label.toList := by
  simp [render]

/-- What can be written is read. -/
theorem ofChars?_render (h : t.Expressible) : ofChars? t.render.toList = some t := by
  cases t with
  | iri text =>
    cases h with | iri h =>
    rw [toList_render_iri, ofChars?_of_head?_ne (by simp), bracketed?_eq_some.mpr ⟨rfl, h⟩]
    rfl
  | blank label =>
    cases h with | blank h =>
    rw [toList_render_blank, ofChars?_of_head?_ne (by simp), label?_eq_some.mpr ⟨rfl, h⟩]
    rfl
  | literal lexical datatype language =>
    rw [toList_render_literal, ofChars?, splitQuoted?_escape, Option.bind_some]
    refine literal?_eq_some.mpr ⟨datatype, language, ?_, h, rfl⟩
    rw [unescape_escape, String.ofList_toList]

/-- A tag is of letters, digits and hyphens. -/
theorem IsTag.isAlphanum_or_eq (h : IsTag tag) {c : Char} (hc : c ∈ tag.toList) :
    c.isAlphanum = true ∨ c = '-' := by
  obtain ⟨first, _, htag, ⟨-, hfirst⟩, groups, rfl, hgroups⟩ := h
  rw [htag, List.mem_append, List.mem_flatMap] at hc
  rcases hc with hc | ⟨group, hgroup, hc⟩
  · exact .inl (Bool.or_eq_true_iff.mpr (.inl (hfirst c hc)))
  · rcases List.mem_cons.mp hc with rfl | hc
    · exact .inr rfl
    · exact .inl ((hgroups group hgroup).2 c hc)

theorem isBlank_of_mem_decoration {lexical : String} {datatype language : Option String}
    (h : (literal lexical datatype language).Expressible) {c : Char}
    (hc : c ∈ decoration datatype language) : Text.isBlank c = false := by
  cases h with
  | plain => cases hc
  | @typed _ type htype =>
    simp only [decoration, List.mem_cons, List.mem_append, List.not_mem_nil, or_false] at hc
    rcases hc with rfl | rfl | rfl | hc | rfl
    · rfl
    · rfl
    · rfl
    · exact (htype c hc).2.2.2
    · rfl
  | @tagged _ tag htag =>
    rcases List.mem_cons.mp hc with rfl | hc
    · rfl
    · rcases htag.isAlphanum_or_eq hc with hc | rfl
      · exact Text.isBlank_of_isAlphanum hc
      · rfl

/-- What can be written has no blanks at its ends. -/
theorem trim_render (h : t.Expressible) : Text.trim t.render.toList = t.render.toList := by
  cases t with
  | iri text =>
    rw [toList_render_iri]
    exact Text.trim_eq_self rfl (List.cons_ne_nil _ _) (List.forall_mem_singleton.mpr rfl)
  | blank label =>
    cases h with | blank h =>
    obtain ⟨c, cs, hlabel, hc, hcs⟩ := h
    rw [toList_render_blank, hlabel]
    refine Text.trim_eq_self (l := [':']) rfl (List.cons_ne_nil _ _) ?_
    refine List.forall_mem_cons.mpr ⟨?_, fun d hd => ?_⟩
    · rcases hc with hc | rfl
      · exact Text.isBlank_of_isAlphanum hc
      · rfl
    · rcases hcs d hd with hd | rfl | rfl | rfl
      · exact Text.isBlank_of_isAlphanum hd
      · rfl
      · rfl
      · rfl
  | literal lexical datatype language =>
    rw [toList_render_literal]
    refine Text.trim_eq_self rfl (List.cons_ne_nil _ _) ?_
    exact List.forall_mem_cons.mpr ⟨rfl, fun c => isBlank_of_mem_decoration h⟩

theorem parse_eq_ok : parse text = .ok t ↔ ofChars? (Text.trim text.toList) = some t := by
  rw [parse, parse?]
  split
  · next t' h => rw [h, Except.ok.injEq, Option.some.injEq]
  · next h => simp [h]

/-- **The text form tells a term exactly if it can.**  The text form of a term is read as that term
exactly if it is an IRI without angle brackets, double quotes and blanks; a blank node whose label
is a letter, digit or underscore before letters, digits, underscores, dots and hyphens; or a literal
with any lexical form, and with no decoration, a datatype that could be an IRI, or a language of
letters and groups of letters and digits behind hyphens.  Whatever else is read, with blanks at the
ends or other escapes than those written, is read as such a term, so reading it and writing it again
leads to the same term. -/
theorem parse_render :
    (∀ t : Term, parse t.render = .ok t ↔ t.Expressible) ∧
      ∀ text t, parse text = .ok t → parse t.render = .ok t := by
  have hread {text : String} {t : Term} (h : parse text = .ok t) : t.Expressible :=
    expressible_of_ofChars? (parse_eq_ok.mp h)
  have hwritten {t : Term} (h : t.Expressible) : parse t.render = .ok t := by
    rw [parse_eq_ok, trim_render h]
    exact ofChars?_render h
  exact ⟨fun t => ⟨hread, hwritten⟩, fun text t h => hwritten (hread h)⟩

/-- A path in quotes is read, with some of its backslashes left alone, and written. -/
theorem parse_render_path :
    let text := "\t\"\\\"C:\\new\\\\\\\" \\n\"@en-GB-1997 "
    let path := literal "\"C:\\new\\\" \\n" none (some "en-GB-1997")
    parse text = .ok path ∧ parse path.render = .ok path ∧ path.Expressible := by
  intro text path
  have hread : parse text = .ok path := parse_eq_ok.mpr (by decide +kernel)
  have hwritten := parse_render.2 text path hread
  exact ⟨hread, hwritten, (parse_render.1 path).mp hwritten⟩

end Term

end RdfReasoner
