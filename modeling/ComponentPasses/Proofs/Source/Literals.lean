import ComponentPasses.Proofs.Source.Tokens

/-!
# What a literal stands for

Escapes are put into a string by replacing one character after the other in the whole of it, the
backslash first, so that no backslash of an escape is doubled in turn.  That is the same as to
write each character by itself (`escapeAll_eq`), and of a character little can happen: it is
written as a backslash with a sign, or as itself.

For a reader a text is a **literal of** a string if it begins with a quote, holds no line end, ends
at the first quote that no backslash escapes, whatever comes after it, and gives the string back
when its escapes are undone (`IsLiteralOf`).  The literal that is written is one, and there is no
other of the same string (`stringLiteral_faithful`).
-/

namespace ComponentPasses.Source

/-! ## 1. Four replacements -/

/-- A text with something else for each occurrence of a character. -/
def replaceEach (old : Char) (new s : List Char) : List Char :=
  s.flatMap fun c => if c = old then new else [c]

/-- A text with escapes for what may not stand in a literal. -/
def escapeAll (s : List Char) : List Char :=
  let slashes := replaceEach '\\' ['\\', '\\'] s
  let quotes := replaceEach '"' ['\\', '"'] slashes
  let lineFeeds := replaceEach '\n' ['\\', 'n'] quotes
  replaceEach '\r' ['\\', 'r'] lineFeeds

theorem replaceEach_append (old : Char) (new front back : List Char) :
    replaceEach old new (front ++ back) =
      replaceEach old new front ++ replaceEach old new back :=
  List.flatMap_append

theorem escapeAll_append (front back : List Char) :
    escapeAll (front ++ back) = escapeAll front ++ escapeAll back := by
  simp only [escapeAll, replaceEach_append]

/-- A replacement writes nothing that a later one replaces. -/
theorem escapeAll_singleton (c : Char) : escapeAll [c] = literalChar c := by
  by_cases slash : c = '\\'
  · subst slash; rfl
  by_cases quote : c = '"'
  · subst quote; rfl
  by_cases lineFeed : c = '\n'
  · subst lineFeed; rfl
  simp [escapeAll, replaceEach, literalChar, slash, quote, lineFeed]

/-- The four replacements write each character by itself. -/
theorem escapeAll_eq (s : List Char) : escapeAll s = s.flatMap literalChar := by
  induction s with
  | nil => rfl
  | cons c rest ih =>
    rw [← List.singleton_append, escapeAll_append, escapeAll_singleton, ih, List.flatMap_append,
      List.flatMap_singleton]

/-- If the backslash came after the quote, an escaped quote would not be escaped any more. -/
example : replaceEach '\\' ['\\', '\\'] (replaceEach '"' ['\\', '"'] ['"']) = ['\\', '\\', '"'] :=
  rfl

/-! ## 2. Reading a literal -/

/-- Cuts a text at the first quote that is not escaped; a backslash escapes what comes after it. -/
def cutAtBareQuote? : List Char → Option (List Char × List Char)
  | [] => none
  | '"' :: rest => some ([], rest)
  | '\\' :: c :: rest => (cutAtBareQuote? rest).map fun cut => ('\\' :: c :: cut.1, cut.2)
  | c :: rest => (cutAtBareQuote? rest).map fun cut => (c :: cut.1, cut.2)

/-- Undoes the escapes of a text; each backslash must begin one. -/
def unescapeAll? : List Char → Option (List Char)
  | [] => some []
  | '\\' :: sign :: rest =>
    (unescape? sign).bind fun meant => (unescapeAll? rest).map (meant :: ·)
  | c :: rest => if c = '\\' then none else (unescapeAll? rest).map (c :: ·)

/-- A text is a literal of a string, for a reader who comes upon its first character. -/
structure IsLiteralOf (text : List Char) (s : String) : Prop where
  opens : text.head? = some '"'
  no_lineFeed : '\n' ∉ text
  no_return : '\r' ∉ text
  /-- Behind the quote that opens the text, the first bare quote is the last character, and so the
  text ends there whatever comes after it. -/
  closes : ∀ after, cutAtBareQuote? (text.tail ++ after) = some (text.tail.dropLast, after)
  decodes : unescapeAll? text.tail.dropLast = some s.toList

/-- What is cut at a quote is put together again with the quote. -/
theorem eq_of_cutAtBareQuote? {text inside after : List Char}
    (cut : cutAtBareQuote? text = some (inside, after)) : text = inside ++ '"' :: after := by
  fun_induction cutAtBareQuote? text generalizing inside with
  | case1 => cases cut
  | case2 rest =>
    cases cut
    rfl
  | case3 c rest ih | case4 c rest _ _ ih =>
    obtain ⟨⟨front, back⟩, further, same⟩ := Option.map_eq_some_iff.mp cut
    cases same
    rw [ih further]
    rfl

/-! ## 3. The literal that is written -/

theorem cutAtBareQuote?_literalChar (c : Char) (rest : List Char) :
    cutAtBareQuote? (literalChar c ++ rest) =
      (cutAtBareQuote? rest).map fun cut => (literalChar c ++ cut.1, cut.2) := by
  rcases literalChar_cases c with ⟨sign, -, escaped⟩ | ⟨itself, noSlash, noQuote, -⟩
  · rw [escaped]
    rfl
  · rw [itself]
    simp [cutAtBareQuote?, noSlash]

theorem cutAtBareQuote?_literalChars (s after : List Char) :
    cutAtBareQuote? (s.flatMap literalChar ++ '"' :: after) =
      some (s.flatMap literalChar, after) := by
  induction s with
  | nil => rfl
  | cons c rest ih =>
    rw [List.flatMap_cons, List.append_assoc, cutAtBareQuote?_literalChar, ih]
    rfl

theorem unescapeAll?_literalChar (c : Char) (rest : List Char) :
    unescapeAll? (literalChar c ++ rest) = (unescapeAll? rest).map (c :: ·) := by
  rcases literalChar_cases c with ⟨sign, meant, escaped⟩ | ⟨itself, noSlash, -⟩
  · rw [escaped]
    simp [unescapeAll?, meant]
  · rw [itself]
    simp [unescapeAll?, noSlash]

theorem unescapeAll?_literalChars (s : List Char) :
    unescapeAll? (s.flatMap literalChar) = some s := by
  induction s with
  | nil => rfl
  | cons c rest ih => rw [List.flatMap_cons, unescapeAll?_literalChar, ih, Option.map_some]

/-- No line end is written inside a literal. -/
theorem not_mem_literalChar {lineEnd : Char} (h : lineEnd = '\n' ∨ lineEnd = '\r') (c : Char) :
    lineEnd ∉ literalChar c := by
  have noSlash : lineEnd ≠ '\\' := by rcases h with rfl | rfl <;> decide
  have noSign : unescape? lineEnd = none := by rcases h with rfl | rfl <;> rfl
  intro mem
  rcases literalChar_cases c with ⟨sign, meant, escaped⟩ | ⟨itself, -, -, noLineFeed, noReturn⟩
  · rw [escaped] at mem
    rcases List.mem_cons.mp mem with slash | escape
    · exact noSlash slash
    · rw [← List.mem_singleton.mp escape, noSign] at meant
      cases meant
  · rw [itself, List.mem_singleton] at mem
    rcases h with rfl | rfl
    · exact noLineFeed mem.symm
    · exact noReturn mem.symm

theorem isLiteralOf_stringLiteral (s : String) : IsLiteralOf (stringLiteral s).toList s := by
  rw [toList_stringLiteral]
  refine ⟨rfl, ?_, ?_, ?_, ?_⟩
  · simp [not_mem_literalChar (.inl rfl)]
  · simp [not_mem_literalChar (.inr rfl)]
  · intro after
    simpa using cutAtBareQuote?_literalChars s.toList after
  · simpa using unescapeAll?_literalChars s.toList

/-! ## 4. No other literal -/

/-- A quote behind a text is the first bare one. -/
def HasNoBareQuote (inside : List Char) : Prop :=
  cutAtBareQuote? (inside ++ ['"']) = some (inside, [])

theorem HasNoBareQuote.of_escape {sign : Char} {rest : List Char}
    (h : HasNoBareQuote ('\\' :: sign :: rest)) : HasNoBareQuote rest := by
  simpa [HasNoBareQuote, cutAtBareQuote?] using h

theorem HasNoBareQuote.of_cons {c : Char} {rest : List Char} (h : HasNoBareQuote (c :: rest))
    (noSlash : c ≠ '\\') : c ≠ '"' ∧ HasNoBareQuote rest := by
  by_cases quote : c = '"'
  · subst quote
    cases h
  · exact ⟨quote, by simpa [HasNoBareQuote, cutAtBareQuote?, noSlash, quote] using h⟩

/-- What has no bare quote and no line end is what is written for the text that it decodes to. -/
theorem eq_flatMap_literalChar {inside s : List Char} (noQuote : HasNoBareQuote inside)
    (noLineFeed : '\n' ∉ inside) (noReturn : '\r' ∉ inside)
    (decodes : unescapeAll? inside = some s) : inside = s.flatMap literalChar := by
  -- by one escape or one plain character at a time; each has only one spelling
  fun_induction unescapeAll? inside generalizing s with
  | case1 =>
    cases decodes
    rfl
  | case2 sign rest ih =>
    obtain ⟨c, meant, decodes⟩ := Option.bind_eq_some_iff.mp decodes
    obtain ⟨others, further, rfl⟩ := Option.map_eq_some_iff.mp decodes
    simp only [List.mem_cons, not_or] at noLineFeed noReturn
    rw [List.flatMap_cons, literalChar_of_unescape? meant,
      ← ih noQuote.of_escape noLineFeed.2.2 noReturn.2.2 further]
    rfl
  | case3 => cases decodes
  | case4 c rest _ noSlash ih =>
    obtain ⟨others, further, rfl⟩ := Option.map_eq_some_iff.mp decodes
    obtain ⟨plain, noQuote⟩ := noQuote.of_cons noSlash
    simp only [List.mem_cons, not_or] at noLineFeed noReturn
    have itself : literalChar c = [c] := by
      simp [literalChar, noSlash, plain, Ne.symm noLineFeed.1, Ne.symm noReturn.1]
    rw [List.flatMap_cons, itself, ← ih noQuote noLineFeed.2 noReturn.2 further]
    rfl

/-- There is only one literal of a string. -/
theorem IsLiteralOf.eq {text : List Char} {s : String} (h : IsLiteralOf text s) :
    text = (stringLiteral s).toList := by
  obtain ⟨rest, rfl⟩ := List.head?_eq_some_iff.mp h.opens
  have closes : cutAtBareQuote? rest = some (rest.dropLast, []) := by simpa using h.closes []
  have ended : rest = rest.dropLast ++ ['"'] := eq_of_cutAtBareQuote? closes
  have noQuote : HasNoBareQuote rest.dropLast := by rwa [HasNoBareQuote, ← ended]
  have inside : rest.dropLast = s.toList.flatMap literalChar :=
    eq_flatMap_literalChar noQuote
      (fun lineFeed => h.no_lineFeed (.tail _ (List.dropLast_subset _ lineFeed)))
      (fun lineEnd => h.no_return (.tail _ (List.dropLast_subset _ lineEnd))) h.decodes
  rw [toList_stringLiteral, ← inside, ← ended]

/-! ## 5. Faithful literals -/

/-- What a literal decodes to is the string that it was written for. -/
theorem stringLiteral_injective : stringLiteral.Injective := by
  intro s t same
  have told : IsLiteralOf (stringLiteral s).toList t := same ▸ isLiteralOf_stringLiteral t
  have decoded := (isLiteralOf_stringLiteral s).decodes.symm.trans told.decodes
  exact String.toList_inj.mp (Option.some.inj decoded)

/-- **A literal tells its string, and where it ends.**  What is written for a string are its
characters after four replacements, between two quotes.  This is a literal of the string for a
reader, it is the only one, and no two strings have the same. -/
theorem stringLiteral_faithful :
    (∀ s : String, (stringLiteral s).toList = '"' :: (escapeAll s.toList ++ ['"'])) ∧
      (∀ (text : List Char) (s : String), IsLiteralOf text s ↔ text = (stringLiteral s).toList) ∧
      stringLiteral.Injective := by
  refine ⟨?replaced, ?only, stringLiteral_injective⟩
  case replaced =>
    intro s
    rw [toList_stringLiteral, escapeAll_eq]
  case only =>
    intro text s
    constructor
    · exact IsLiteralOf.eq
    · rintro rfl
      exact isLiteralOf_stringLiteral s

end ComponentPasses.Source
