import ComponentPasses.Proofs.Source.Legibility

/-!
# Generated source as lexemes

What stands outside of literals and comments cannot be read off tokens, which have lost the blanks
and the lines.  So a text is also taken apart into **lexemes**: characters of code, each by itself,
and literals and comments as a whole.  Nothing is lost that way (`spelling_lexemes?`), and what is
code begins neither a literal nor a comment (`isCodeChar_of_mem_lexemes?`).  The reader refuses what
it does not know: a slash alone, and a literal that goes on over a line end.

The source is then the lines of its lexemes (`sourceLines?`).  A part of a text that is made of
whole lines has lines of its own, whatever comes after it (`Lined`).
-/

namespace ComponentPasses.Source

/-! ## 1. The reader -/

/-- A piece of source: a character of code, a literal with the text it stands for, or a comment. -/
inductive Lexeme
  | code (c : Char)
  | literal (content : String)
  | comment (content : String)
deriving DecidableEq, Repr

namespace Lexeme

/-- A lexeme as it stands in the source. -/
def spelling : Lexeme → List Char
  | code c => [c]
  | literal content => (stringLiteral content).toList
  | comment content => '/' :: '/' :: content.toList

def isCode : Lexeme → Bool
  | code _ => true
  | literal _ | comment _ => false

end Lexeme

/-- A character that begins no literal and no comment, and may stand in code. -/
def isCodeChar (c : Char) : Bool :=
  !(['"', '\x27', '/', '\\'].contains c)

/-- Where a reader stands: in code, after a slash, in a comment, in a literal, or after a backslash
in one. -/
inductive Place
  | code
  | slash
  | comment (content : List Char)
  | literal (content : List Char)
  | escape (content : List Char)

/-- Reads one character: the lexemes that are complete with it, and where the reader stands then. -/
def readChar : Place → Char → Option (List Lexeme × Place)
  | .code, c =>
    if c = '"' then some ([], .literal [])
    else if c = '/' then some ([], .slash)
    else if isCodeChar c then some ([.code c], .code)
    else none
  | .slash, c => if c = '/' then some ([], .comment []) else none
  | .comment content, c =>
    if c = '\n' then some ([.comment (String.ofList content), .code '\n'], .code)
    else some ([], .comment (content ++ [c]))
  | .literal content, c =>
    if c = '"' then some ([.literal (String.ofList content)], .code)
    else if c = '\\' then some ([], .escape content)
    else if c = '\n' ∨ c = '\r' then none
    else some ([], .literal (content ++ [c]))
  | .escape content, c => (unescape? c).map fun meant => ([], .literal (content ++ [meant]))

/-- The lexeme that the end of a text completes; a text does not end after a slash or in a literal.
-/
def Place.close? : Place → Option (List Lexeme)
  | .code => some []
  | .comment content => some [.comment (String.ofList content)]
  | .slash | .literal _ | .escape _ => none

/-- The lexemes of a text, for a reader that stands where something may have begun. -/
def lexemesFrom : Place → List Char → Option (List Lexeme)
  | place, [] => place.close?
  | place, c :: rest =>
    (readChar place c).bind fun (lexemes, next) => (lexemesFrom next rest).map (lexemes ++ ·)

/-- The lexemes of a text. -/
def lexemes? (s : List Char) : Option (List Lexeme) :=
  lexemesFrom .code s

/-! ## 2. What is read -/

/-- The characters of what has begun where a reader stands. -/
def Place.begun : Place → List Char
  | .code => []
  | .slash => ['/']
  | .comment content => '/' :: '/' :: content
  | .literal content => '"' :: content.flatMap literalChar
  | .escape content => '"' :: content.flatMap literalChar ++ ['\\']

/-- What one character completes, and what it leaves begun, is spelled by what had begun and it. -/
theorem spelling_readChar {place next : Place} {c : Char} {lexemes : List Lexeme}
    (h : readChar place c = some (lexemes, next)) :
    lexemes.flatMap Lexeme.spelling ++ next.begun = place.begun ++ [c] ∧
      ∀ d, .code d ∈ lexemes → isCodeChar d = true := by
  cases place with
  | code =>
    simp only [readChar] at h
    split at h
    · rename_i quote
      cases h
      exact ⟨by rw [quote]; rfl, nofun⟩
    · split at h
      · rename_i slash
        cases h
        exact ⟨by rw [slash]; rfl, nofun⟩
      · split at h
        · rename_i code
          cases h
          refine ⟨rfl, fun d hd => ?_⟩
          obtain rfl := Lexeme.code.inj (List.mem_singleton.mp hd)
          exact code
        · cases h
  | slash =>
    simp only [readChar] at h
    split at h
    · rename_i slash
      cases h
      exact ⟨by rw [slash]; rfl, nofun⟩
    · cases h
  | comment content =>
    simp only [readChar] at h
    split at h
    · rename_i lineEnd
      cases h
      refine ⟨by simp [Lexeme.spelling, Place.begun, lineEnd], fun d hd => ?_⟩
      obtain rfl : d = '\n' := by simpa using hd
      rfl
    · cases h
      exact ⟨rfl, nofun⟩
  | literal content =>
    simp only [readChar] at h
    split at h
    · rename_i quote
      cases h
      refine ⟨by simp [Lexeme.spelling, Place.begun, stringLiteral, quote], fun d hd => ?_⟩
      simp at hd
    · rename_i noQuote
      split at h
      · rename_i slash
        cases h
        exact ⟨by rw [slash]; rfl, nofun⟩
      · rename_i noSlash
        split at h
        · cases h
        · rename_i noLineEnd
          cases h
          obtain ⟨noLineFeed, noReturn⟩ := not_or.mp noLineEnd
          have itself : literalChar c = [c] := by
            simp [literalChar, noSlash, noQuote, noLineFeed, noReturn]
          exact ⟨by simp [Place.begun, itself], nofun⟩
  | escape content =>
    obtain ⟨meant, told, same⟩ := Option.map_eq_some_iff.mp h
    cases same
    exact ⟨by simp [Place.begun, literalChar_of_unescape? told], nofun⟩

theorem spelling_lexemesFrom {place : Place} {s : List Char} {lexemes : List Lexeme}
    (h : lexemesFrom place s = some lexemes) :
    lexemes.flatMap Lexeme.spelling = place.begun ++ s ∧
      ∀ c, .code c ∈ lexemes → isCodeChar c = true := by
  induction s generalizing place lexemes with
  | nil =>
    rw [lexemesFrom] at h
    cases place with
    | code => cases h; exact ⟨rfl, nofun⟩
    | comment content =>
      cases h
      refine ⟨by simp [Lexeme.spelling, Place.begun], fun d hd => ?_⟩
      simp at hd
    | slash | literal content | escape content => cases h
  | cons c rest ih =>
    obtain ⟨⟨here, next⟩, read, after⟩ := Option.bind_eq_some_iff.mp h
    obtain ⟨later, read', rfl⟩ := Option.map_eq_some_iff.mp after
    obtain ⟨spelled, code⟩ := spelling_readChar read
    obtain ⟨spelled', code'⟩ := ih read'
    refine ⟨?_, fun d hd => (List.mem_append.mp hd).elim (code d) (code' d)⟩
    rw [List.flatMap_append, spelled', ← List.append_assoc, spelled, List.append_assoc]
    rfl

/-- The lexemes of a text spell it. -/
theorem spelling_lexemes? {s : List Char} {lexemes : List Lexeme} (h : lexemes? s = some lexemes) :
    lexemes.flatMap Lexeme.spelling = s :=
  (spelling_lexemesFrom h).1

/-- What is read as code begins no literal and no comment. -/
theorem isCodeChar_of_mem_lexemes? {s : List Char} {lexemes : List Lexeme}
    (h : lexemes? s = some lexemes) {c : Char} (present : .code c ∈ lexemes) :
    isCodeChar c = true :=
  (spelling_lexemesFrom h).2 c present

example : lexemes? "f(\"//\"); // \x7b".toList =
    some ("f(".toList.map .code ++ .literal "//" :: "); ".toList.map .code ++
      [.comment " \x7b"]) := by
  decide

/-! ## 3. Reading in parts -/

/-- A text is read as these lexemes where code is expected, whatever comes after it. -/
def ReadAs (s : List Char) (lexemes : List Lexeme) : Prop :=
  ∀ rest, lexemesFrom .code (s ++ rest) = (lexemesFrom .code rest).map (lexemes ++ ·)

namespace ReadAs

variable {s t : List Char} {lexemes more : List Lexeme}

theorem append (first : ReadAs s lexemes) (second : ReadAs t more) :
    ReadAs (s ++ t) (lexemes ++ more) := by
  intro rest
  rw [List.append_assoc, first, second, Option.map_map]
  congr 1
  funext later
  exact (List.append_assoc _ _ _).symm

/-- Characters of code are read one by one. -/
theorem code (h : ∀ c ∈ s, isCodeChar c = true) : ReadAs s (s.map .code) := by
  induction s with
  | nil =>
    intro rest
    simp
  | cons c later ih =>
    obtain ⟨first, others⟩ := List.forall_mem_cons.mp h
    have apart : ∀ d ∈ ['"', '/'], c ≠ d := by
      rintro d hd rfl
      have refused : ∀ d ∈ ['"', '/'], (!isCodeChar d) = true := List.all_eq_true.mp (by decide)
      have other := refused c hd
      rw [first] at other
      cases other
    have single : ReadAs [c] [.code c] := by
      intro rest
      simp [lexemesFrom, readChar, apart '"' (by decide), apart '/' (by decide), first]
    exact single.append (ih others)

/-- What completes no lexeme only moves the reader on. -/
theorem lexemesFrom_of_begun {place next : Place} {c : Char}
    (h : readChar place c = some ([], next))
    (rest : List Char) : lexemesFrom place (c :: rest) = lexemesFrom next rest := by
  rw [lexemesFrom, h]
  simp

theorem lexemesFrom_literalChars (before s rest : List Char) :
    lexemesFrom (.literal before) (s.flatMap literalChar ++ rest) =
      lexemesFrom (.literal (before ++ s)) rest := by
  induction s generalizing before with
  | nil => rw [List.append_nil]; rfl
  | cons c later ih =>
    have one : ∀ rest, lexemesFrom (.literal before) (literalChar c ++ rest) =
        lexemesFrom (.literal (before ++ [c])) rest := by
      intro rest
      rcases literalChar_cases c with ⟨sign, told, escaped⟩ | ⟨itself, noSlash, noQuote, noLineEnd⟩
      · have slash : readChar (.literal before) '\\' = some ([], .escape before) := rfl
        have meant : readChar (.escape before) sign = some ([], .literal (before ++ [c])) := by
          rw [readChar, told]
          rfl
        rw [escaped]
        exact (lexemesFrom_of_begun slash _).trans (lexemesFrom_of_begun meant _)
      · rw [itself]
        refine lexemesFrom_of_begun ?_ _
        rw [readChar, if_neg noQuote, if_neg noSlash, if_neg (not_or.mpr noLineEnd)]
    rw [List.flatMap_cons, List.append_assoc, one, ih, List.append_assoc]
    rfl

/-- A literal is read as the text that it was made for. -/
theorem literal (content : String) : ReadAs (stringLiteral content).toList [.literal content] := by
  intro rest
  have spelled : (stringLiteral content).toList ++ rest =
      '"' :: (content.toList.flatMap literalChar ++ '"' :: rest) := by
    simp [stringLiteral]
  have closed : readChar (.literal content.toList) '"' =
      some ([.literal (String.ofList content.toList)], .code) := rfl
  rw [spelled, lexemesFrom_of_begun rfl, lexemesFrom_literalChars, List.nil_append, lexemesFrom,
    closed, String.ofList_toList]
  rfl

/-- A comment goes to the end of its line. -/
theorem comment {content : List Char} (plain : '\n' ∉ content) :
    ReadAs ('/' :: '/' :: content ++ ['\n']) [.comment (String.ofList content), .code '\n'] := by
  have chars : ∀ before rest : List Char, lexemesFrom (.comment before) (content ++ rest) =
      lexemesFrom (.comment (before ++ content)) rest := by
    induction content with
    | nil => intro before rest; rw [List.append_nil]; rfl
    | cons c later ih =>
      obtain ⟨first, others⟩ := not_or.mp (mt List.mem_cons.mpr plain)
      intro before rest
      have one : readChar (.comment before) c = some ([], .comment (before ++ [c])) :=
        if_neg (Ne.symm first)
      rw [List.cons_append, lexemesFrom_of_begun one, ih others, List.append_assoc]
      rfl
  intro rest
  have ended : readChar (.comment content) '\n' =
      some ([.comment (String.ofList content), .code '\n'], .code) := rfl
  rw [List.append_assoc, List.cons_append, List.cons_append, lexemesFrom_of_begun rfl,
    lexemesFrom_of_begun rfl, chars, List.nil_append, List.singleton_append, lexemesFrom, ended]
  rfl

end ReadAs

/-! ## 4. Lines -/

/-- The lines of a text, each without its line end. -/
def sourceLines? (s : List Char) : Option (List (List Lexeme)) :=
  (lexemes? s).map (List.splitOn (.code '\n'))

section Lines

variable {s t : List Char} {lines more : List (List Lexeme)}

theorem mem_intercalate {α : Type} {separator piece : List α} {pieces : List (List α)}
    (present : piece ∈ pieces) : ∀ item ∈ piece, item ∈ separator.intercalate pieces := by
  intro item inside
  induction pieces with
  | nil => cases present
  | cons first rest ih =>
    cases rest with
    | nil =>
      rw [List.intercalate_singleton]
      exact List.mem_singleton.mp present ▸ inside
    | cons next later =>
      rw [List.intercalate_cons_cons, List.append_assoc]
      rcases List.mem_cons.mp present with rfl | present
      · exact List.mem_append_left _ inside
      · exact List.mem_append_right _ (List.mem_append_right _ (ih present))

/-- What is in a piece is in the whole. -/
theorem mem_of_mem_splitOn {α : Type} [BEq α] [LawfulBEq α] {mark : α} {items piece : List α}
    (present : piece ∈ items.splitOn mark) : ∀ item ∈ piece, item ∈ items := by
  have whole : [mark].intercalate (items.splitOn mark) = items := List.intercalate_splitOn _
  exact fun item inside => whole ▸ mem_intercalate present item inside

theorem flatMap_intercalate {α β : Type} (f : α → List β) (separator : List α)
    (pieces : List (List α)) :
    (separator.intercalate pieces).flatMap f =
      (separator.flatMap f).intercalate (pieces.map (·.flatMap f)) := by
  induction pieces with
  | nil => rfl
  | cons first rest ih =>
    cases rest with
    | nil => simp only [List.map_cons, List.map_nil, List.intercalate_singleton]
    | cons next later =>
      rw [List.intercalate_cons_cons, List.flatMap_append, List.flatMap_append, ih]
      simp only [List.map_cons, List.intercalate_cons_cons]

/-- The lines of a text spell it. -/
theorem spelling_sourceLines? (h : sourceLines? s = some lines) :
    ['\n'].intercalate (lines.map (·.flatMap Lexeme.spelling)) = s := by
  obtain ⟨lexemes, read, rfl⟩ := Option.map_eq_some_iff.mp h
  have whole := flatMap_intercalate Lexeme.spelling [.code '\n'] (lexemes.splitOn (.code '\n'))
  rw [List.intercalate_splitOn, spelling_lexemes? read] at whole
  exact whole.symm

theorem isCodeChar_of_sourceLines? (h : sourceLines? s = some lines) :
    ∀ line ∈ lines, ∀ c, .code c ∈ line → isCodeChar c = true := by
  obtain ⟨lexemes, read, rfl⟩ := Option.map_eq_some_iff.mp h
  exact fun line present c hc => isCodeChar_of_mem_lexemes? read (mem_of_mem_splitOn present _ hc)

/-- A text is made of whole lines, and they are read as these, whatever comes after. -/
def Lined (s : List Char) (lines : List (List Lexeme)) : Prop :=
  ∀ rest, sourceLines? (s ++ rest) = (sourceLines? rest).map (lines ++ ·)

theorem Lined.nil : Lined [] [] := by
  intro rest
  simp

theorem Lined.append (first : Lined s lines) (second : Lined t more) :
    Lined (s ++ t) (lines ++ more) := by
  intro rest
  rw [List.append_assoc, first, second, Option.map_map]
  congr 1
  funext later
  exact (List.append_assoc _ _ _).symm

/-- What ends with a line end is made of whole lines. -/
theorem ReadAs.lined {lexemes : List Lexeme} (h : ReadAs s (lexemes ++ [.code '\n'])) :
    Lined s (lexemes.splitOn (.code '\n')) := by
  intro rest
  rw [sourceLines?, lexemes?, h, Option.map_map, sourceLines?, Option.map_map]
  congr 1
  funext later
  simp only [Function.comp_apply, List.append_assoc, List.singleton_append]
  exact List.splitOn_append_cons_self lexemes later

theorem ReadAs.lined_singleton {lexemes : List Lexeme} (h : ReadAs s (lexemes ++ [.code '\n']))
    (single : .code '\n' ∉ lexemes) : Lined s [lexemes] := by
  have lined := h.lined
  rw [List.splitOn_eq_singleton single] at lined
  exact lined

/-- After whole lines there is an empty one. -/
theorem Lined.sourceLines? (h : Lined s lines) : sourceLines? s = some (lines ++ [[]]) := by
  have whole := h []
  rw [List.append_nil] at whole
  exact whole

end Lines

end ComponentPasses.Source
