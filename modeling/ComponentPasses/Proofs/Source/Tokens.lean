import ComponentPasses.Proofs.Source.Names
import ComponentPasses.Proofs.Source.Writer
import ComponentPasses.Text.Lowercase

/-!
# Generated source as tokens

To say what generated source means it has to be read.  The first step takes a text apart into
**tokens**: words, signs, and texts written as literals.  A scanner does so character by character;
it refuses what it does not know, so where it answers, nothing of the text is passed over but
blanks.

Two facts carry the rest.  A sign or a blank separates: the tokens of a text with one in the middle
are those of the two parts (`tokensOf?_append_sign`, `tokensOf?_append_gap`).  And a literal is
one token that holds the text it was made for (`tokensOf?_stringLiteral`).
-/

namespace ComponentPasses.Source

/-! ## 1. The scanner -/

/-- A piece of source: a name or keyword, a literal with the text it stands for, or a sign. -/
inductive Token
  | word (spelling : String)
  | text (content : String)
  | sign (c : Char)
deriving DecidableEq, Repr

/-- Where a scanner stands: between tokens, in a word, in a literal, or after a backslash in one. -/
inductive Mode
  | between
  | word (spelling : List Char)
  | text (content : List Char)
  | escape (content : List Char)
deriving DecidableEq, Repr

/-- A character that words are made of; a word with an `@` in front is a verbatim identifier. -/
def isWordChar (c : Char) : Bool :=
  isNamePart c || c == '@'

/-- A character between words that means nothing. -/
def isGap (c : Char) : Bool :=
  c == ' ' || c == '\n'

/-- A character that is a token of its own. -/
def isSign (c : Char) : Bool :=
  ['(', ')', '\x7b', '\x7d', '[', ']', '<', '>', '.', ',', ':', ';', '?', '=', '$'].contains c

/-- The character that an escape stands for. -/
def unescape? (c : Char) : Option Char :=
  if c = '\\' ∨ c = '"' then some c
  else if c = 'n' then some '\n'
  else if c = 'r' then some '\r'
  else none

/-- The token that ends where a word does. -/
def Mode.pending : Mode → List Token
  | .word spelling => [.word (String.ofList spelling)]
  | _ => []

/-- The characters of the word that the scanner is in. -/
def Mode.spelled : Mode → List Char
  | .word spelling => spelling
  | _ => []

/-- Whether the scanner is in no literal. -/
def Mode.isPlain : Mode → Bool
  | .between | .word _ => true
  | .text _ | .escape _ => false

/-- Reads one character: the tokens that are complete with it, and where the scanner stands then.  A
literal begins between words only, and does not go on over a line end. -/
def step : Mode → Char → Option (List Token × Mode)
  | .text content, c =>
    if c = '"' then some ([.text (String.ofList content)], .between)
    else if c = '\\' then some ([], .escape content)
    else if c = '\n' ∨ c = '\r' then none
    else some ([], .text (content ++ [c]))
  | .escape content, c => (unescape? c).map fun meant => ([], .text (content ++ [meant]))
  | mode, c =>
    if isWordChar c then some ([], .word (mode.spelled ++ [c]))
    else if isGap c then some (mode.pending, .between)
    else if isSign c then some (mode.pending ++ [.sign c], .between)
    else if c = '"' ∧ mode = .between then some ([], .text [])
    else none

/-- Reads characters one after the other. -/
def scan : Mode → List Char → Option (List Token × Mode)
  | mode, [] => some ([], mode)
  | mode, c :: rest =>
    (step mode c).bind fun (tokens, next) =>
      (scan next rest).map fun (more, last) => (tokens ++ more, last)

/-- The tokens of a text, which must not end inside a literal. -/
def tokensOf? (s : List Char) : Option (List Token) :=
  (scan .between s).bind fun (tokens, last) =>
    if last.isPlain then some (tokens ++ last.pending) else none

/-! ## 2. Scanning in parts -/

/-- Scanning goes on where it stopped. -/
theorem scan_append (mode : Mode) (front back : List Char) :
    scan mode (front ++ back) =
      (scan mode front).bind fun (tokens, next) =>
        (scan next back).map fun (more, last) => (tokens ++ more, last) := by
  induction front generalizing mode with
  | nil =>
    cases scan mode back <;> simp [scan]
  | cons c rest ih =>
    simp only [List.cons_append, scan, ih]
    cases step mode c with
    | none => rfl
    | some stepped =>
      obtain ⟨tokens, next⟩ := stepped
      simp only [Option.bind_some]
      cases scan next rest with
      | none => rfl
      | some scanned =>
        simp only [Option.bind_some, Option.map_some, Option.map_map]
        congr 1
        funext last
        simp

/-- The scanner reads a text from one mode to another. -/
def Scans (mode : Mode) (s : List Char) (tokens : List Token) (last : Mode) : Prop :=
  scan mode s = some (tokens, last)

theorem Scans.append {mode next last : Mode} {front back : List Char}
    {tokens more : List Token} (first : Scans mode front tokens next)
    (second : Scans next back more last) : Scans mode (front ++ back) (tokens ++ more) last := by
  unfold Scans at *
  rw [scan_append, first]
  simp [second]

theorem Scans.cons {mode next last : Mode} {c : Char} {rest : List Char}
    {tokens more : List Token} (first : step mode c = some (tokens, next))
    (second : Scans next rest more last) : Scans mode (c :: rest) (tokens ++ more) last := by
  unfold Scans at *
  rw [scan, first]
  simp [second]

/-- A text has tokens exactly if the scanner comes to its end outside literals. -/
theorem tokensOf?_eq_some_iff {s : List Char} {tokens : List Token} :
    tokensOf? s = some tokens ↔
      ∃ complete last, Scans .between s complete last ∧ last.isPlain = true ∧
        tokens = complete ++ last.pending := by
  unfold tokensOf? Scans
  cases scan .between s with
  | none => simp
  | some scanned =>
    obtain ⟨complete, last⟩ := scanned
    simp only [Option.bind_some]
    constructor
    · intro h
      split at h
      · rename_i plain
        cases h
        exact ⟨complete, last, rfl, plain, rfl⟩
      · cases h
    · rintro ⟨complete', last', same, plain, rfl⟩
      cases same
      rw [if_pos plain]

/-! ## 3. Words, gaps and signs -/

section Plain

variable {mode : Mode} {c : Char}

theorem step_of_isPlain (plain : mode.isPlain = true) :
    step mode c =
      if isWordChar c then some ([], .word (mode.spelled ++ [c]))
      else if isGap c then some (mode.pending, .between)
      else if isSign c then some (mode.pending ++ [.sign c], .between)
      else if c = '"' ∧ mode = .between then some ([], .text [])
      else none := by
  cases mode with
  | between | word spelling => rfl
  | text content | escape content => cases plain

theorem step_word (plain : mode.isPlain = true) (h : isWordChar c = true) :
    step mode c = some ([], .word (mode.spelled ++ [c])) := by
  rw [step_of_isPlain plain, if_pos h]

theorem step_gap (plain : mode.isPlain = true) (h : isGap c = true) :
    step mode c = some (mode.pending, .between) := by
  have noWord : isWordChar c = false := by
    simp only [isGap, Bool.or_eq_true, beq_iff_eq] at h
    rcases h with rfl | rfl <;> decide
  rw [step_of_isPlain plain, noWord, h]
  rfl

theorem step_sign (plain : mode.isPlain = true) (h : isSign c = true) :
    step mode c = some (mode.pending ++ [.sign c], .between) := by
  have apart : ∀ c ∈ ['(', ')', '\x7b', '\x7d', '[', ']', '<', '>', '.', ',', ':', ';', '?', '=',
      '$'], (!isWordChar c && !isGap c) = true := List.all_eq_true.mp (by decide)
  have neither := apart c (List.contains_iff_mem.mp h)
  simp only [Bool.and_eq_true, Bool.not_eq_true'] at neither
  rw [step_of_isPlain plain, neither.1, neither.2, h]
  rfl

end Plain

section Parts

variable {front back : List Char} {tokens more : List Token} {c : Char}

/-- A sign separates: the tokens around it are those of the parts. -/
theorem tokensOf?_append_sign (first : tokensOf? front = some tokens) (sign : isSign c = true)
    (second : tokensOf? back = some more) :
    tokensOf? (front ++ c :: back) = some (tokens ++ .sign c :: more) := by
  obtain ⟨complete, next, scans, plain, rfl⟩ := tokensOf?_eq_some_iff.mp first
  obtain ⟨complete', last, scans', plain', rfl⟩ := tokensOf?_eq_some_iff.mp second
  refine tokensOf?_eq_some_iff.mpr
    ⟨_, last, scans.append (.cons (step_sign plain sign) scans'), plain', ?_⟩
  simp

/-- A gap separates and is no token. -/
theorem tokensOf?_append_gap (first : tokensOf? front = some tokens) (gap : isGap c = true)
    (second : tokensOf? back = some more) :
    tokensOf? (front ++ c :: back) = some (tokens ++ more) := by
  obtain ⟨complete, next, scans, plain, rfl⟩ := tokensOf?_eq_some_iff.mp first
  obtain ⟨complete', last, scans', plain', rfl⟩ := tokensOf?_eq_some_iff.mp second
  refine tokensOf?_eq_some_iff.mpr
    ⟨_, last, scans.append (.cons (step_gap plain gap) scans'), plain', ?_⟩
  simp

/-- At the end of a line the scanner stands between tokens. -/
theorem scans_line (h : tokensOf? front = some tokens) :
    Scans .between (front ++ ['\n']) tokens .between := by
  obtain ⟨complete, last, scans, plain, rfl⟩ := tokensOf?_eq_some_iff.mp h
  have ends := scans.append (.cons (step_gap (c := '\n') plain rfl) (rfl : Scans .between [] [] _))
  simpa using ends

end Parts

theorem scans_wordChars (spelling s : List Char) (h : ∀ c ∈ s, isWordChar c = true) :
    Scans (.word spelling) s [] (.word (spelling ++ s)) := by
  induction s generalizing spelling with
  | nil => simp [Scans, scan]
  | cons c rest ih =>
    obtain ⟨first, others⟩ := List.forall_mem_cons.mp h
    have word : step (.word spelling) c = some ([], .word (spelling ++ [c])) := step_word rfl first
    simpa using Scans.cons word (ih (spelling ++ [c]) others)

/-- Characters of words make one word. -/
theorem tokensOf?_of_wordChars {s : List Char} (some : s ≠ []) (h : ∀ c ∈ s, isWordChar c = true) :
    tokensOf? s = .some [.word (String.ofList s)] := by
  obtain ⟨c, rest, rfl⟩ := List.exists_cons_of_ne_nil some
  obtain ⟨first, others⟩ := List.forall_mem_cons.mp h
  exact tokensOf?_eq_some_iff.mpr
    ⟨_, _, .cons (step_word rfl first) (scans_wordChars _ rest others), rfl, rfl⟩

/-- A token that may come from a text without literals: a word, or one of the text's signs. -/
def Token.ComesFrom (s : List Char) : Token → Prop
  | .word _ => True
  | .text _ => False
  | .sign c => c ∈ s

theorem Token.ComesFrom.mono {s t : List Char} (sub : ∀ c ∈ s, c ∈ t) {token : Token}
    (h : token.ComesFrom s) : token.ComesFrom t := by
  cases token with
  | word spelling => trivial
  | text content => exact h.elim
  | sign c => exact sub c h

/-! ## 4. Literals -/

/-- A character stands in a literal as an escape or as itself, and no quote, backslash or line end
does the latter. -/
theorem literalChar_cases (c : Char) :
    (∃ sign, unescape? sign = some c ∧ literalChar c = ['\\', sign]) ∨
      (literalChar c = [c] ∧ c ≠ '\\' ∧ c ≠ '"' ∧ c ≠ '\n' ∧ c ≠ '\r') := by
  unfold literalChar
  split
  · rename_i special
    exact .inl ⟨c, if_pos special, rfl⟩
  · rename_i plain
    split
    · rename_i lineFeed
      exact .inl ⟨'n', by rw [lineFeed]; rfl, rfl⟩
    · rename_i noLineFeed
      split
      · rename_i lineEnd
        exact .inl ⟨'r', by rw [lineEnd]; rfl, rfl⟩
      · rename_i noReturn
        obtain ⟨noSlash, noQuote⟩ := not_or.mp plain
        exact .inr ⟨rfl, noSlash, noQuote, noLineFeed, noReturn⟩

/-- An escape is what is written for the character that it stands for. -/
theorem literalChar_of_unescape? {sign meant : Char} (h : unescape? sign = some meant) :
    literalChar meant = ['\\', sign] := by
  unfold unescape? at h
  split at h
  · rename_i special
    obtain rfl := Option.some.inj h
    exact if_pos special
  · split at h
    · rename_i lineFeed
      obtain rfl := Option.some.inj h
      rw [lineFeed]
      rfl
    · split at h
      · rename_i lineEnd
        obtain rfl := Option.some.inj h
        rw [lineEnd]
        rfl
      · cases h

theorem toList_stringLiteral (s : String) :
    (stringLiteral s).toList = '"' :: (s.toList.flatMap literalChar ++ ['"']) :=
  String.toList_ofList

/-- The escape of a character is read as that character. -/
theorem scans_literalChar (content : List Char) (c : Char) :
    Scans (.text content) (literalChar c) [] (.text (content ++ [c])) := by
  rcases literalChar_cases c with ⟨sign, told, escaped⟩ | ⟨itself, noSlash, noQuote, noLineEnd⟩
  · rw [escaped]
    simp [Scans, scan, step, told]
  · rw [itself]
    simp [Scans, scan, step, noSlash, noQuote, noLineEnd]

theorem scans_literalChars (content s : List Char) :
    Scans (.text content) (s.flatMap literalChar) [] (.text (content ++ s)) := by
  induction s generalizing content with
  | nil => simp [Scans, scan]
  | cons c rest ih =>
    have := (scans_literalChar content c).append (ih (content ++ [c]))
    simpa using this

/-- A literal is one token, and it stands for the text that it was made for. -/
theorem tokensOf?_stringLiteral (s : String) :
    tokensOf? (stringLiteral s).toList = some [.text s] := by
  have inside := scans_literalChars [] s.toList
  have closed : Scans (.text s.toList) ['"'] [.text s] .between := by
    simp [Scans, scan, step]
  refine tokensOf?_eq_some_iff.mpr ⟨[.text s], .between, ?_, rfl, rfl⟩
  rw [toList_stringLiteral]
  have opened : step .between '"' = some ([], .text []) := rfl
  simpa using Scans.cons opened (inside.append closed)

/-! ## 5. Texts without literals -/

/-- A character that stands in no literal and can be read everywhere else. -/
def isPlainChar (c : Char) : Bool :=
  isWordChar c || isGap c || isSign c

theorem comesFrom_of_mem_pending {mode : Mode} {token : Token} (h : token ∈ mode.pending)
    (s : List Char) : token.ComesFrom s := by
  cases mode with
  | word spelling =>
    rw [Mode.pending, List.mem_singleton] at h
    rw [h]
    trivial
  | between | text content | escape content => exact absurd h List.not_mem_nil

/-- A plain character is read everywhere but in literals. -/
theorem step_plain {mode : Mode} {c : Char} (plain : mode.isPlain = true)
    (h : isPlainChar c = true) :
    ∃ tokens next, step mode c = some (tokens, next) ∧ next.isPlain = true ∧
      ∀ token ∈ tokens, token.ComesFrom [c] := by
  simp only [isPlainChar, Bool.or_eq_true] at h
  rcases h with (word | gap) | sign
  · exact ⟨_, _, step_word plain word, rfl, fun _ h => absurd h List.not_mem_nil⟩
  · exact ⟨_, _, step_gap plain gap, rfl, fun _ h => comesFrom_of_mem_pending h _⟩
  · refine ⟨_, _, step_sign plain sign, rfl, fun token h => ?_⟩
    rcases List.mem_append.mp h with h | h
    · exact comesFrom_of_mem_pending h _
    · rw [List.mem_singleton.mp h]
      exact List.mem_singleton_self c

theorem scans_plain {mode : Mode} {s : List Char} (plain : mode.isPlain = true)
    (h : ∀ c ∈ s, isPlainChar c = true) :
    ∃ tokens last, Scans mode s tokens last ∧ last.isPlain = true ∧
      ∀ token ∈ tokens, token.ComesFrom s := by
  induction s generalizing mode with
  | nil => exact ⟨[], mode, rfl, plain, fun _ h => absurd h List.not_mem_nil⟩
  | cons c rest ih =>
    obtain ⟨first, others⟩ := List.forall_mem_cons.mp h
    obtain ⟨tokens, next, stepped, plain', here⟩ := step_plain plain first
    obtain ⟨more, last, scans, plain'', later⟩ := ih plain' others
    refine ⟨tokens ++ more, last, .cons stepped scans, plain'', fun token h => ?_⟩
    rcases List.mem_append.mp h with h | h
    · exact (here token h).mono fun d hd => by rw [List.mem_singleton.mp hd]; exact .head _
    · exact (later token h).mono fun d hd => .tail _ hd

/-- A text of plain characters has tokens, which are words and signs of the text. -/
theorem tokensOf?_of_plain {s : List Char} (h : ∀ c ∈ s, isPlainChar c = true) :
    ∃ tokens, tokensOf? s = some tokens ∧ ∀ token ∈ tokens, token.ComesFrom s := by
  obtain ⟨tokens, last, scans, plain, come⟩ :=
    scans_plain (show Mode.between.isPlain = true from rfl) h
  refine ⟨_, tokensOf?_eq_some_iff.mpr ⟨_, _, scans, plain, rfl⟩, fun token h => ?_⟩
  rcases List.mem_append.mp h with h | h
  · exact come token h
  · exact comesFrom_of_mem_pending h s

/-! ## 6. Names and types -/

/-- The word that is written for an identifier. -/
def writtenWord (name : String) : String :=
  String.ofList (dropLineEnd (writtenName name).toList)

/-- The member that an identifier names: a line end and an `@` belong to the spelling only. -/
def memberOf (name : String) : String :=
  String.ofList (dropAt (dropLineEnd name.toList))

theorem dropLineEnd_eq (s : List Char) : s = dropLineEnd s ∨ s = dropLineEnd s ++ ['\n'] := by
  unfold dropLineEnd
  split
  · rename_i ends
    obtain ⟨front, rfl⟩ := List.getLast?_eq_some_iff.mp ends
    exact .inr (by rw [List.dropLast_concat])
  · exact .inl rfl

/-- A keyword is written as itself with an `@`, so the word names the same member. -/
theorem dropAt_writtenWord (name : String) :
    dropAt (writtenWord name).toList = dropAt (dropLineEnd name.toList) := by
  have keyword : ∀ name ∈ keywords,
      dropAt (dropLineEnd ("@" ++ name).toList) = dropAt (dropLineEnd name.toList) := by
    decide +kernel
  unfold writtenWord writtenName
  rw [String.toList_ofList]
  split
  · rename_i reserved
    exact keyword name (List.contains_iff_mem.mp reserved)
  · rfl

theorem forall_isWordChar_of_isWord {s : List Char} (h : isWord (dropAt s) = true) :
    s ≠ [] ∧ ∀ c ∈ s, isWordChar c = true := by
  have parts : ∀ s, isWord s = true → s ≠ [] ∧ ∀ c ∈ s, isWordChar c = true := by
    intro s h
    cases s with
    | nil => cases h
    | cons c rest =>
      simp only [isWord, Bool.and_eq_true, List.all_eq_true] at h
      refine ⟨List.cons_ne_nil _ _, List.forall_mem_cons.mpr ⟨?_, fun d hd => ?_⟩⟩
      · simp [isWordChar, isNamePart, h.1]
      · simp [isWordChar, h.2 d hd]
  unfold dropAt at h
  split at h
  · exact ⟨List.cons_ne_nil _ _, List.forall_mem_cons.mpr ⟨by decide, (parts _ h).2⟩⟩
  · exact parts s h

/-- An identifier is made of characters of words, but for a line end. -/
theorem mem_of_isIdentifier {name : String} (h : isIdentifier name.toList = true) {c : Char}
    (hc : c ∈ name.toList) : c = '\n' ∨ isWordChar c = true := by
  have word := (forall_isWordChar_of_isWord h).2
  rcases dropLineEnd_eq name.toList with plain | ended
  · exact .inr (word c (plain ▸ hc))
  · rw [ended] at hc
    exact (List.mem_append.mp hc).symm.imp List.mem_singleton.mp (word c)

/-- What is written for an identifier is one. -/
theorem isIdentifier_writtenName {name : String} (h : isIdentifier name.toList = true) :
    isIdentifier (writtenName name).toList = true := by
  have same := dropAt_writtenWord name
  rw [writtenWord, String.toList_ofList] at same
  rw [isIdentifier, same]
  exact h

theorem toNat_lt_of_isWordChar {c : Char} (h : isWordChar c = true) : c.toNat < 128 := by
  have small : ∀ d : Char, d.toNat < 128 → c ≤ d → c.toNat < 128 :=
    fun d bound below => Nat.lt_of_le_of_lt (Char.le_def.mp below) bound
  simp only [isWordChar, isNamePart, isNameStart, Bool.or_eq_true, Bool.and_eq_true,
    decide_eq_true_eq, beq_iff_eq] at h
  rcases h with (((⟨-, below⟩ | ⟨-, below⟩) | rfl) | ⟨-, below⟩) | rfl
  · exact small 'Z' (by decide) below
  · exact small 'z' (by decide) below
  · decide
  · exact small '9' (by decide) below
  · decide

/-- An identifier is in ASCII. -/
theorem toNat_lt_of_isIdentifier {name : String} (h : isIdentifier name.toList = true) :
    ∀ c ∈ name.toList, c.toNat < 128 := by
  intro c hc
  rcases mem_of_isIdentifier h hc with rfl | word
  · decide
  · exact toNat_lt_of_isWordChar word

/-- In ASCII each character has its small letter by itself. -/
theorem lowerAfter_of_ascii {s : List Char} (ascii : ∀ c ∈ s, c.toNat < 128) (before : List Char) :
    Text.lowerAfter before s = s.map Char.toLower := by
  induction s generalizing before with
  | nil => rfl
  | cons c rest ih =>
    obtain ⟨first, others⟩ := List.forall_mem_cons.mp ascii
    -- The two letters whose small letter is not a matter of a table are no ASCII.
    have dotted : c ≠ '\u0130' := by
      rintro rfl
      exact absurd first (by decide)
    have sigma : c ≠ '\u03a3' := by
      rintro rfl
      exact absurd first (by decide)
    rw [Text.lowerAfter, if_neg dotted, if_neg sigma, Text.smallOf, if_pos first, ih others,
      List.map_cons]

theorem toList_lowercase_of_ascii {s : String} (ascii : ∀ c ∈ s.toList, c.toNat < 128) :
    (Text.lowercase s).toList = s.toList.map Char.toLower := by
  rw [Text.lowercase, String.toList_ofList, lowerAfter_of_ascii ascii]

/-- What is written for an identifier is one word. -/
theorem tokensOf?_writtenName {name : String} (h : isIdentifier name.toList = true) :
    tokensOf? (writtenName name).toList = some [.word (writtenWord name)] := by
  rw [isIdentifier, ← dropAt_writtenWord] at h
  obtain ⟨some, chars⟩ := forall_isWordChar_of_isWord h
  have word := tokensOf?_of_wordChars some chars
  rw [String.ofList_toList] at word
  have spelled : (writtenWord name).toList = dropLineEnd (writtenName name).toList :=
    String.toList_ofList
  rcases dropLineEnd_eq (writtenName name).toList with plain | ended
  · rw [plain, ← spelled]
    exact word
  · rw [ended, ← spelled]
    exact tokensOf?_append_gap (c := '\n') word rfl rfl

/-- The tokens of a type reference as it is written. -/
def typeTokens (display : String) : List Token :=
  (tokensOf? (Text.trim display).toList).getD []

theorem isPlainChar_of_isTypeChar {c : Char} (h : isTypeChar c = true) : isPlainChar c = true := by
  have signs : ∀ c ∈ [' ', '.', ',', ':', '?', '@', '<', '>', '[', ']'], isPlainChar c = true :=
    List.all_eq_true.mp (by decide)
  simp only [isTypeChar, Bool.or_eq_true] at h
  rcases h with name | sign
  · simp [isPlainChar, isWordChar, name]
  · exact signs c (List.contains_iff_mem.mp sign)

/-- A type reference that can be written has tokens, which are words and signs of the reference. -/
theorem tokensOf?_trim {display : String} (h : isTypeText display) :
    tokensOf? (Text.trim display).toList = some (typeTokens display) ∧
      ∀ token ∈ typeTokens display, token.ComesFrom (Text.trim display).toList := by
  obtain ⟨tokens, read, come⟩ := tokensOf?_of_plain fun c hc =>
    isPlainChar_of_isTypeChar (List.all_eq_true.mp h.2 c hc)
  rw [typeTokens, read]
  exact ⟨rfl, come⟩

/-! ## 7. Layouts -/

/-- Layouts spell out tokens: however deep they stand, their lines are read as these. -/
def Spells (layouts : List Layout) (tokens : List Token) : Prop :=
  ∀ level, Scans .between (Layout.ended (Layout.linesOfAll level layouts)) tokens .between

namespace Spells

variable {layouts layouts' : List Layout} {tokens more head : List Token}

theorem nil : Spells [] [] := fun _ => rfl

theorem append (first : Spells layouts tokens) (second : Spells layouts' more) :
    Spells (layouts ++ layouts') (tokens ++ more) := by
  intro level
  rw [Layout.linesOfAll_append, Layout.ended_append]
  exact (first level).append (second level)

theorem flatMap {α : Type} {items : List α} {layoutsOf : α → List Layout}
    {tokensOf : α → List Token} (each : ∀ item ∈ items, Spells (layoutsOf item) (tokensOf item)) :
    Spells (items.flatMap layoutsOf) (items.flatMap tokensOf) := by
  induction items with
  | nil => exact nil
  | cons item rest ih =>
    obtain ⟨first, others⟩ := List.forall_mem_cons.mp each
    exact first.append (ih others)

/-- The blanks in front of a line are no tokens. -/
theorem scans_indentLine {text : String} (level : Nat) (h : tokensOf? text.toList = some tokens) :
    Scans .between (Layout.ended [Writer.indentLine level text]) tokens .between := by
  have blanks : ∀ n, Scans .between (List.replicate n ' ') [] .between := by
    intro n
    induction n with
    | zero => rfl
    | succ n ih =>
      have gap : step .between ' ' = some ([], .between) := rfl
      exact Scans.cons gap ih
  have line := scans_line h
  rw [Layout.ended, List.flatMap_singleton, Writer.indentLine]
  split
  · rename_i empty
    rw [empty] at line
    exact line
  · rw [String.toList_append, Writer.indent, String.toList_ofList, List.append_assoc]
    exact (blanks _).append line

theorem line {text : String} (h : tokensOf? text.toList = some tokens) :
    Spells [.line text] tokens :=
  fun level => scans_indentLine level h

/-- A block spells out its header and what it holds between braces. -/
theorem block {header : String} (headed : tokensOf? header.toList = some head)
    (body : Spells layouts tokens) :
    Spells [.block (some header) layouts] (head ++ .sign '\x7b' :: (tokens ++ [.sign '\x7d'])) := by
  intro level
  have lines : Layout.linesOfAll level [.block (some header) layouts] =
      [Writer.indentLine level header] ++ ([Writer.indentLine level "\x7b"] ++
        (Layout.linesOfAll (level + 1) layouts ++ [Writer.indentLine level "\x7d"])) := by
    simp [Layout.linesOfAll, Layout.linesAt]
  have opening : tokensOf? "\x7b".toList = some [.sign '\x7b'] := rfl
  have closing : tokensOf? "\x7d".toList = some [.sign '\x7d'] := rfl
  rw [lines, Layout.ended_append, Layout.ended_append, Layout.ended_append]
  exact (scans_indentLine level headed).append ((scans_indentLine level opening).append
    ((body (level + 1)).append (scans_indentLine level closing)))

theorem indented (body : Spells layouts tokens) : Spells [.indented layouts] tokens := by
  intro level
  have lines : Layout.linesOfAll level [.indented layouts] =
      Layout.linesOfAll (level + 1) layouts := by
    simp [Layout.linesOfAll, Layout.linesAt]
  rw [lines]
  exact body (level + 1)

end Spells

/-- The text of layouts is read as the tokens that they spell out. -/
theorem tokensOf?_text {layouts : List Layout} {tokens : List Token}
    (written : Layout.linesOfAll 0 layouts ≠ []) (spells : Spells layouts tokens) :
    tokensOf? (Layout.text layouts).toList = some tokens := by
  rw [Layout.toList_text written]
  exact tokensOf?_eq_some_iff.mpr ⟨tokens, .between, spells 0, rfl, (List.append_nil _).symm⟩

end ComponentPasses.Source
