import ComponentPasses.Proofs.Source.Lexemes
import ComponentPasses.Proofs.Source.LineEnds

/-!
# Blocks in generated source

A brace in code opens or closes a block.  Whoever reads the lines of a source from the top can keep
the indentations of the blocks that are open, innermost first (`nest?`).  A block has to be opened
behind four blanks for each block around it, and closed behind as many blanks as it was opened, or
there is no going on.

Layouts are **balanced** if they leave the blocks open that are open around them (`Balanced`).  The
blocks that are open around a layout are as many as its level tells, but not inside of a plain
indentation, which is a level and no block.  So a layout in a plain indentation has to be balanced
whatever is open around it, as layouts without blocks are.

Along with this goes what stands on lines that are not all code.  These lines are kept as they are,
but for their indentation (`spokenLines`).
-/

namespace ComponentPasses.Source

/-! ## 1. Nesting -/

namespace Lexeme

/-- Whether a lexeme is a brace in code. -/
def isBrace : Lexeme → Bool
  | code c => c == '\x7b' || c == '\x7d'
  | literal _ | comment _ => false

/-- Blanks in code. -/
def blanks (width : Nat) : List Lexeme :=
  List.replicate width (.code ' ')

/-- The number of blanks that a line begins with. -/
def indentation (line : List Lexeme) : Nat :=
  (line.takeWhile (· == .code ' ')).length

/-- A line without the blanks that it begins with. -/
def unindented (line : List Lexeme) : List Lexeme :=
  line.dropWhile (· == .code ' ')

/-- Whether a brace that is on a line stands there alone, behind blanks. -/
def BraceAlone (line : List Lexeme) : Prop :=
  ∀ brace ∈ line, brace.isBrace = true → ∃ width, line = blanks width ++ [brace]

/-- Whether a line is not all code. -/
def speaks (line : List Lexeme) : Bool :=
  line.any fun lexeme => !lexeme.isCode

/-- The lines that are not all code, without the blanks that they begin with. -/
def spokenLines (lines : List (List Lexeme)) : List (List Lexeme) :=
  (lines.filter speaks).map unindented

/-- Closes the innermost of the open blocks, which are given by their indentations. -/
def close? (width : Nat) : List Nat → Option (List Nat)
  | inner :: others => if width = inner then some others else none
  | [] => none

/-- Whether some lexemes make up a single line that is not all code, without blanks in front and
braces. -/
def isSpoken (line : List Lexeme) : Bool :=
  speaks line && !(line.head?.any (· == .code ' ')) &&
    !line.contains (.code '\n') && line.all fun lexeme => !lexeme.isBrace

/-- A line of code around a literal. -/
def literalLine (front content back : String) : List Lexeme :=
  front.toList.map .code ++ .literal content :: back.toList.map .code

/-- The indentations of the open blocks, innermost first, after a lexeme of a line with that
indentation. -/
def meet? (width : Nat) (opened : List Nat) (lexeme : Lexeme) : Option (List Nat) :=
  if lexeme = .code '\x7b' then
    if width = 4 * opened.length then some (width :: opened) else none
  else if lexeme = .code '\x7d' then close? width opened
  else some opened

def nestLine? (opened : List Nat) (line : List Lexeme) : Option (List Nat) :=
  line.foldlM (meet? (indentation line)) opened

/-- The indentations of the blocks that are open after some lines. -/
def nest? (opened : List Nat) (lines : List (List Lexeme)) : Option (List Nat) :=
  lines.foldlM nestLine? opened

section Blanks

variable {width : Nat} {lexeme : Lexeme}

theorem eq_of_mem_blanks (blank : lexeme ∈ blanks width) : lexeme = .code ' ' :=
  List.eq_of_mem_replicate blank

theorem isBrace_of_mem_blanks (blank : lexeme ∈ blanks width) : lexeme.isBrace = false :=
  eq_of_mem_blanks blank ▸ rfl

theorem beq_of_mem_blanks : ∀ lexeme ∈ blanks width, (lexeme == .code ' ') = true :=
  fun _ blank => beq_iff_eq.mpr (eq_of_mem_blanks blank)

end Blanks

section Nesting

variable {opened : List Nat} {line : List Lexeme}

theorem foldlM_meet? (free : ∀ lexeme ∈ line, lexeme.isBrace = false) (width : Nat) :
    line.foldlM (meet? width) opened = some opened := by
  induction line with
  | nil => rfl
  | cons lexeme rest ih =>
    obtain ⟨first, others⟩ := List.forall_mem_cons.mp free
    have met : meet? width opened lexeme = some opened := by
      have apart : lexeme ≠ .code '\x7b' ∧ lexeme ≠ .code '\x7d' := by
        constructor <;> rintro rfl <;> cases first
      rw [meet?, if_neg apart.1, if_neg apart.2]
    rw [List.foldlM_cons, met]
    exact ih others

/-- Lines without braces change nothing. -/
theorem nest?_of_free {lines : List (List Lexeme)}
    (free : ∀ line ∈ lines, ∀ lexeme ∈ line, lexeme.isBrace = false) :
    nest? opened lines = some opened := by
  induction lines with
  | nil => rfl
  | cons line rest ih =>
    obtain ⟨first, others⟩ := List.forall_mem_cons.mp free
    have here : nestLine? opened line = some opened := foldlM_meet? first _
    rw [nest?, List.foldlM_cons, here]
    exact ih others

theorem nest?_append (lines more : List (List Lexeme)) :
    nest? opened (lines ++ more) = (nest? opened lines).bind (nest? · more) :=
  List.foldlM_append

/-- A brace behind blanks is met with their number. -/
theorem nestLine?_brace {brace : Char} (sign : brace ≠ ' ') (width : Nat) :
    nestLine? opened (blanks width ++ [.code brace]) = meet? width opened (.code brace) := by
  have indented : indentation (blanks width ++ [.code brace]) = width := by
    rw [indentation, List.takeWhile_append_of_pos beq_of_mem_blanks]
    simp [blanks, sign]
  rw [nestLine?, indented, List.foldlM_append, foldlM_meet? fun _ => isBrace_of_mem_blanks]
  cases met : meet? width opened (.code brace) <;> simp [met]

theorem nestLine?_opening (opened : List Nat) :
    nestLine? opened (blanks (4 * opened.length) ++ [.code '\x7b']) =
      some (4 * opened.length :: opened) := by
  rw [nestLine?_brace (by decide), meet?, if_pos rfl, if_pos rfl]

theorem nestLine?_closing (width : Nat) (opened : List Nat) :
    nestLine? (width :: opened) (blanks width ++ [.code '\x7d']) = some opened := by
  rw [nestLine?_brace (by decide), meet?, if_neg (by decide), if_pos rfl]
  exact if_pos rfl

theorem braceAlone_brace (width : Nat) (brace : Char) :
    BraceAlone (blanks width ++ [.code brace]) := by
  intro lexeme present sign
  rcases List.mem_append.mp present with blank | last
  · rw [isBrace_of_mem_blanks blank] at sign
    cases sign
  · exact ⟨width, by rw [List.mem_singleton.mp last]⟩

/-- A closing brace that is indented further than the opening one closes nothing. -/
example : nest? [] [[.code '\x7b'], blanks 4 ++ [.code '\x7d']] = none := by decide

/-- Lines of code are not kept. -/
theorem spokenLines_of_code {lines : List (List Lexeme)}
    (code : ∀ line ∈ lines, ∀ lexeme ∈ line, lexeme.isCode = true) : spokenLines lines = [] := by
  have none : lines.filter speaks = [] :=
    List.filter_eq_nil_iff.mpr fun line present => by simpa [speaks] using code line present
  rw [spokenLines, none]
  rfl

theorem spokenLines_brace (width : Nat) (brace : Char) :
    spokenLines [blanks width ++ [.code brace]] = [] := by
  refine spokenLines_of_code (List.forall_mem_singleton.mpr fun lexeme mem => ?_)
  rcases List.mem_append.mp mem with blank | last
  · rw [eq_of_mem_blanks blank]
    rfl
  · rw [List.mem_singleton.mp last]
    rfl

/-- A line that is not all code is kept, without the blanks in front. -/
theorem spokenLines_indented (spoken : speaks line = true)
    (begins : line.head?.any (· == .code ' ') = false) (width : Nat) :
    spokenLines [blanks width ++ line] = [line] := by
  have bare : unindented (blanks width ++ line) = line := by
    rw [unindented, List.dropWhile_append_of_pos beq_of_mem_blanks]
    cases line with
    | nil => rfl
    | cons first rest =>
      have other : (first == Lexeme.code ' ') = false := begins
      rw [List.dropWhile_cons, other]
      rfl
  have kept : speaks (blanks width ++ line) = true := by
    rw [speaks, List.any_append, ← speaks, ← speaks, spoken, Bool.or_true]
  rw [spokenLines, List.filter_cons_of_pos kept, List.filter_nil, List.map_singleton, bare]

theorem spokenLines_append (lines more : List (List Lexeme)) :
    spokenLines (lines ++ more) = spokenLines lines ++ spokenLines more := by
  rw [spokenLines, List.filter_append, List.map_append]
  rfl

end Nesting

end Lexeme

/-! ## 2. Parts of a text -/

/-- A character that begins no literal and no comment and is no brace. -/
def isSilent (c : Char) : Bool :=
  !(['"', '\x27', '/', '\\', '\x7b', '\x7d'].contains c)

theorem isSilent_of {p : Char → Bool} {c : Char} (h : p c = true)
    (refused : (['"', '\x27', '/', '\\', '\x7b', '\x7d'].all fun d => !p d) = true) :
    isSilent c = true := by
  rw [isSilent, Bool.not_eq_true', ← Bool.not_eq_true, List.contains_iff_mem]
  intro among
  have other := List.all_eq_true.mp refused c among
  rw [h] at other
  cases other

theorem all_isSilent_append {s t : String} (first : s.toList.all isSilent = true)
    (second : t.toList.all isSilent = true) : (s ++ t).toList.all isSilent = true := by
  rw [String.toList_append, List.all_append, first, second]
  rfl

theorem isCodeChar_of_isSilent {c : Char} (silent : isSilent c = true) :
    isCodeChar c = true ∧ (Lexeme.code c).isBrace = false := by
  simp only [isSilent, isCodeChar, Lexeme.isBrace, Bool.not_eq_true', List.contains_cons,
    Bool.or_eq_false_iff] at *
  obtain ⟨quote, mark, slash, back, opening, closing, nothing⟩ := silent
  exact ⟨⟨quote, mark, slash, back, nothing⟩, opening, closing⟩

/-- A part of a text that is made of whole lines, with each brace alone on its line.  It leaves the
blocks open that are open around it, if these are as assumed. -/
structure Balanced (around : List Nat → Prop) (s : List Char) (lines spoken : List (List Lexeme)) :
    Prop where
  lined : Lined s lines
  alone : ∀ line ∈ lines, Lexeme.BraceAlone line
  nested : ∀ opened, around opened → Lexeme.nest? opened lines = some opened
  spoken : Lexeme.spokenLines lines = spoken

namespace Balanced

open Lexeme

variable {around : List Nat → Prop} {s t : List Char}
  {lines more spoken spoken' : List (List Lexeme)}

theorem nil : Balanced around [] [] [] :=
  ⟨.nil, nofun, fun _ _ => rfl, rfl⟩

theorem append (first : Balanced around s lines spoken) (second : Balanced around t more spoken') :
    Balanced around (s ++ t) (lines ++ more) (spoken ++ spoken') where
  lined := first.lined.append second.lined
  alone line present := (List.mem_append.mp present).elim (first.alone line) (second.alone line)
  nested opened h := by
    rw [nest?_append, first.nested opened h]
    exact second.nested opened h
  spoken := by rw [spokenLines_append, first.spoken, second.spoken]

theorem mono {around' : List Nat → Prop} (h : Balanced around s lines spoken)
    (weaker : ∀ opened, around' opened → around opened) : Balanced around' s lines spoken :=
  { h with nested := fun opened known => h.nested opened (weaker opened known) }

/-- Lines without braces. -/
theorem of_free (lined : Lined s lines)
    (free : ∀ line ∈ lines, ∀ lexeme ∈ line, lexeme.isBrace = false) :
    Balanced around s lines (spokenLines lines) where
  lined := lined
  alone line present brace inside sign := by
    rw [free line present brace inside] at sign
    cases sign
  nested _ _ := nest?_of_free free
  spoken := rfl

/-- Text without braces, quotes and slashes is made of lines of code, wherever it has line ends. -/
theorem of_silent (silent : ∀ c ∈ s, isSilent c = true) :
    ∃ lines, Balanced around (s ++ ['\n']) lines [] := by
  have read : ReadAs (s ++ ['\n']) (s.map .code ++ [.code '\n']) := by
    have code : ∀ c ∈ s ++ ['\n'], isCodeChar c = true := by
      intro c hc
      rcases List.mem_append.mp hc with hc | hc
      · exact (isCodeChar_of_isSilent (silent c hc)).1
      · rw [List.mem_singleton.mp hc]
        rfl
    have whole := ReadAs.code code
    rw [List.map_append] at whole
    exact whole
  have each : ∀ line ∈ (s.map Lexeme.code).splitOn (.code '\n'), ∀ lexeme ∈ line,
      lexeme.isBrace = false ∧ lexeme.isCode = true := by
    intro line present lexeme inside
    obtain ⟨c, hc, rfl⟩ := List.mem_map.mp (mem_of_mem_splitOn present lexeme inside)
    exact ⟨(isCodeChar_of_isSilent (silent c hc)).2, rfl⟩
  have free : ∀ line ∈ (s.map Lexeme.code).splitOn (.code '\n'), ∀ lexeme ∈ line,
      lexeme.isBrace = false :=
    fun line present lexeme inside => (each line present lexeme inside).1
  have silence : spokenLines ((s.map Lexeme.code).splitOn (.code '\n')) = [] :=
    spokenLines_of_code fun line present lexeme inside => (each line present lexeme inside).2
  exact ⟨_, silence ▸ of_free read.lined free⟩

section Indented

variable {lexemes : List Lexeme}

theorem lined_indented (level : Nat) (read : ReadAs (s ++ ['\n']) (lexemes ++ [.code '\n']))
    (single : .code '\n' ∉ lexemes) :
    Lined ((Writer.indent level).toList ++ (s ++ ['\n'])) [blanks (4 * level) ++ lexemes] := by
  have front : ReadAs (Writer.indent level).toList (blanks (4 * level)) := by
    have blank : ∀ c ∈ List.replicate (4 * level) ' ', isCodeChar c = true := by
      intro c hc
      rw [List.eq_of_mem_replicate hc]
      rfl
    have whole := ReadAs.code blank
    rw [List.map_replicate] at whole
    rw [Writer.indent, String.toList_ofList]
    exact whole
  have all := front.append read
  rw [← List.append_assoc (blanks _)] at all
  refine all.lined_singleton fun mem => ?_
  rcases List.mem_append.mp mem with blank | mem
  · exact absurd (eq_of_mem_blanks blank) (by decide)
  · exact single mem

theorem of_spoken (level : Nat) (read : ReadAs (s ++ ['\n']) (lexemes ++ [.code '\n']))
    (h : isSpoken lexemes = true) :
    Balanced around ((Writer.indent level).toList ++ (s ++ ['\n']))
      [blanks (4 * level) ++ lexemes] [lexemes] := by
  simp only [isSpoken, Bool.and_eq_true, List.all_eq_true, Bool.not_eq_true'] at h
  obtain ⟨⟨⟨spoken, begins⟩, noLineEnd⟩, free⟩ := h
  have single : Lexeme.code '\n' ∉ lexemes := fun mem =>
    absurd (List.contains_iff_mem.mpr mem) (by rw [noLineEnd]; decide)
  have free' : ∀ line ∈ [blanks (4 * level) ++ lexemes], ∀ lexeme ∈ line,
      lexeme.isBrace = false := by
    refine List.forall_mem_singleton.mpr fun lexeme mem => ?_
    exact (List.mem_append.mp mem).elim isBrace_of_mem_blanks (free lexeme)
  have balanced : Balanced around _ _ _ := of_free (lined_indented level read single) free'
  rw [spokenLines_indented spoken begins] at balanced
  exact balanced

/-- A brace on a line of its own. -/
theorem lined_brace (level : Nat) (brace : Char) (code : isCodeChar brace = true)
    (noLineEnd : brace ≠ '\n') :
    Lined ((Writer.indent level).toList ++ ([brace] ++ ['\n']))
      [blanks (4 * level) ++ [.code brace]] := by
  refine lined_indented level (ReadAs.code ?_) fun mem => ?_
  · exact List.forall_mem_cons.mpr ⟨code, List.forall_mem_singleton.mpr rfl⟩
  · exact noLineEnd (Lexeme.code.inj (List.mem_singleton.mp mem)).symm

end Indented

/-- A block leaves open what was open if its body does, with one more block around it. -/
theorem block {level : Nat} {header body : List Char} {above inside : List (List Lexeme)}
    (headed : Balanced (·.length = level) header above [])
    (balanced : Balanced (·.length = level + 1) body inside spoken) :
    ∃ lines, Balanced (·.length = level)
      (header ++ ((Writer.indent level).toList ++ (['\x7b'] ++ ['\n']) ++
        (body ++ ((Writer.indent level).toList ++ (['\x7d'] ++ ['\n'])))))
      lines spoken := by
  have opening := lined_brace level '\x7b' rfl (by decide)
  have closing := lined_brace level '\x7d' rfl (by decide)
  refine ⟨_, headed.lined.append (opening.append (balanced.lined.append closing)), ?alone, ?nested,
    ?spoken⟩
  case alone =>
    simp only [List.mem_append, List.mem_singleton]
    rintro line (present | rfl | present | rfl)
    · exact headed.alone line present
    · exact braceAlone_brace _ _
    · exact balanced.alone line present
    · exact braceAlone_brace _ _
  case nested =>
    rintro opened rfl
    have first : nest? opened [blanks (4 * opened.length) ++ [.code '\x7b']] =
        some (4 * opened.length :: opened) := by
      rw [nest?, List.foldlM_cons, nestLine?_opening]
      rfl
    have last : nest? (4 * opened.length :: opened) [blanks (4 * opened.length) ++ [.code '\x7d']] =
        some opened := by
      rw [nest?, List.foldlM_cons, nestLine?_closing]
      rfl
    have within := balanced.nested (4 * opened.length :: opened) rfl
    simp only [nest?_append, headed.nested opened rfl, first, within, last, Option.bind_some]
  case spoken =>
    simp only [spokenLines_append, headed.spoken, spokenLines_brace, balanced.spoken,
      List.nil_append, List.append_nil]

end Balanced

/-- A text whose lines are read as these, with nothing lost, and its blocks.  What is code begins no
literal and no comment.  Each brace in code stands alone on its line, behind four blanks for each
block around it or as many as the block was opened behind.  Only open blocks are closed, and at the
end none is open. -/
structure WellFramed (text : String) (lines : List (List Lexeme)) : Prop where
  read : sourceLines? text.toList = some lines
  spelled : ['\n'].intercalate (lines.map (·.flatMap Lexeme.spelling)) = text.toList
  code : ∀ line ∈ lines, ∀ c, .code c ∈ line → isCodeChar c = true
  alone : ∀ line ∈ lines, Lexeme.BraceAlone line
  nested : Lexeme.nest? [] lines = some []

/-! ## 3. Layouts -/

namespace Layout

/-- Layouts whose lines are balanced at each level.  What is assumed of the open blocks around them
may depend on the level. -/
def Balanced (around : Nat → List Nat → Prop) (layouts : List Layout)
    (spoken : List (List Lexeme)) : Prop :=
  ∀ level, ∃ lines, Source.Balanced (around level) (ended (linesOfAll level layouts)) lines spoken

/-- Layouts that are balanced whatever is open. -/
abbrev Free (layouts : List Layout) (spoken : List (List Lexeme)) : Prop :=
  Balanced (fun _ _ => True) layouts spoken

/-- Layouts that are balanced inside as many blocks as their level tells. -/
abbrev Framed (layouts : List Layout) (spoken : List (List Lexeme)) : Prop :=
  Balanced (fun level opened => opened.length = level) layouts spoken

variable {around : Nat → List Nat → Prop} {layouts layouts' : List Layout}
  {spoken spoken' : List (List Lexeme)}

namespace Balanced

theorem nil : Balanced around [] [] :=
  fun _ => ⟨_, .nil⟩

theorem append (first : Balanced around layouts spoken)
    (second : Balanced around layouts' spoken') :
    Balanced around (layouts ++ layouts') (spoken ++ spoken') := by
  intro level
  obtain ⟨lines, here⟩ := first level
  obtain ⟨lines', there⟩ := second level
  rw [linesOfAll_append, ended_append]
  exact ⟨_, here.append there⟩

theorem flatMap {α : Type} {items : List α} {layoutsOf : α → List Layout}
    {spokenOf : α → List (List Lexeme)}
    (each : ∀ item ∈ items, Balanced around (layoutsOf item) (spokenOf item)) :
    Balanced around (items.flatMap layoutsOf) (items.flatMap spokenOf) := by
  induction items with
  | nil => exact nil
  | cons item rest ih =>
    obtain ⟨first, others⟩ := List.forall_mem_cons.mp each
    exact first.append (ih others)

end Balanced

theorem Balanced.framed (free : Free layouts spoken) : Framed layouts spoken := by
  intro level
  obtain ⟨lines, balanced⟩ := free level
  exact ⟨lines, balanced.mono fun _ _ => trivial⟩

/-- Inside of a plain indentation nothing can be told from the level. -/
theorem Balanced.indented (free : Free layouts spoken) : Free [.indented layouts] spoken := by
  intro level
  have lines : linesOfAll level [.indented layouts] = linesOfAll (level + 1) layouts := by
    simp [linesOfAll, linesAt]
  rw [lines]
  exact free (level + 1)

theorem exists_balanced_indentLine {around : List Nat → Prop} {text : String}
    (silent : text.toList.all isSilent = true) (level : Nat) :
    ∃ lines, Source.Balanced around (ended [Writer.indentLine level text]) lines [] := by
  have all : ∀ c ∈ (Writer.indentLine level text).toList, isSilent c = true := by
    rw [forall_mem_indentLine (p := (isSilent · = true)) rfl]
    exact List.all_eq_true.mp silent
  rw [ended, List.flatMap_singleton]
  exact Source.Balanced.of_silent all

/-- A line of code without braces. -/
theorem free_line {text : String} (silent : text.toList.all isSilent = true) :
    Free [.line text] [] :=
  fun level => exists_balanced_indentLine silent level

/-- A line that is not all code. -/
theorem free_spokenLine {text : String} {lexemes : List Lexeme} (some : text ≠ "")
    (read : ReadAs (text.toList ++ ['\n']) (lexemes ++ [.code '\n']))
    (h : Lexeme.isSpoken lexemes = true) : Free [.line text] [lexemes] := by
  intro level
  have line : ended (linesOfAll level [.line text]) =
      (Writer.indent level).toList ++ (text.toList ++ ['\n']) := by
    simp [linesOfAll, linesAt, ended, Writer.indentLine, some]
  rw [line]
  exact ⟨_, .of_spoken level read h⟩

/-- A line of code around a literal. -/
theorem free_literalLine {front content back : String} (silent : front.toList.all isSilent = true)
    (silent' : back.toList.all isSilent = true)
    (h : Lexeme.isSpoken (Lexeme.literalLine front content back) = true) :
    Free [.line (front ++ stringLiteral content ++ back)]
      [Lexeme.literalLine front content back] := by
  have some : front ++ stringLiteral content ++ back ≠ "" := by
    intro empty
    have quote := (String.append_eq_empty_iff.mp (String.append_eq_empty_iff.mp empty).1).2
    exact absurd (congrArg String.toList quote) (by simp [stringLiteral])
  have code : ∀ {text : String}, text.toList.all isSilent = true →
      ReadAs text.toList (text.toList.map .code) := fun silent =>
    .code fun c hc => (isCodeChar_of_isSilent (List.all_eq_true.mp silent c hc)).1
  have lineEnd : ReadAs ['\n'] [.code '\n'] := .code (List.forall_mem_singleton.mpr rfl)
  have read := (code silent).append
    ((ReadAs.literal content).append ((code silent').append lineEnd))
  refine free_spokenLine some ?_ h
  simpa only [Lexeme.literalLine, String.toList_append, List.append_assoc, List.cons_append,
    List.nil_append] using read

/-- A line that is a comment. -/
theorem free_commentLine {content : String} (plain : '\n' ∉ content.toList) :
    Free [.line ("//" ++ content)] [[.comment content]] := by
  have some : "//" ++ content ≠ "" := fun empty =>
    absurd (String.append_eq_empty_iff.mp empty).1 (by decide)
  have read := ReadAs.comment plain
  rw [String.ofList_toList] at read
  refine free_spokenLine some ?_ rfl
  rw [String.toList_append]
  exact read

/-- Framed layouts may stand in a block whose header has no braces. -/
theorem Balanced.block (body : Framed layouts spoken) {header : String}
    (silent : header.toList.all isSilent = true) :
    Framed [.block (some header) layouts] spoken := by
  intro level
  obtain ⟨above, headed⟩ : ∃ above,
      Source.Balanced (·.length = level) (ended [Writer.indentLine level header]) above [] :=
    exists_balanced_indentLine silent level
  obtain ⟨inside, balanced⟩ := body (level + 1)
  have lines : ended (linesOfAll level [.block (some header) layouts]) =
      ended [Writer.indentLine level header] ++
        ((Writer.indent level).toList ++ (['\x7b'] ++ ['\n']) ++
          (ended (linesOfAll (level + 1) layouts) ++
            ((Writer.indent level).toList ++ (['\x7d'] ++ ['\n'])))) := by
    have opening : (Writer.indentLine level "\x7b").toList =
        (Writer.indent level).toList ++ ['\x7b'] := indentLine_of_ne (by decide) level
    have closing : (Writer.indentLine level "\x7d").toList =
        (Writer.indent level).toList ++ ['\x7d'] := indentLine_of_ne (by decide) level
    simp [linesOfAll, linesAt, ended, opening, closing]
  rw [lines]
  exact headed.block balanced

/-- The text of framed layouts is well framed, and the lines that are not all code are as told. -/
theorem Balanced.wellFramed (framed : Framed layouts spoken) (written : linesOfAll 0 layouts ≠ []) :
    ∃ lines, WellFramed (text layouts) lines ∧ Lexeme.spokenLines lines = spoken := by
  obtain ⟨lines, balanced⟩ := framed 0
  have read := balanced.lined.sourceLines?
  rw [← toList_text written] at read
  -- after the last line end there is an empty line, which changes nothing
  refine ⟨lines ++ [[]], ⟨read, spelling_sourceLines? read, isCodeChar_of_sourceLines? read, ?alone,
    ?nested⟩, ?spoken⟩
  case alone =>
    exact fun line present => (List.mem_append.mp present).elim (balanced.alone line) fun last =>
      List.mem_singleton.mp last ▸ nofun
  case nested =>
    rw [Lexeme.nest?_append, balanced.nested [] rfl]
    rfl
  case spoken =>
    rw [Lexeme.spokenLines_append, balanced.spoken]
    exact List.append_nil _

end Layout

end ComponentPasses.Source
