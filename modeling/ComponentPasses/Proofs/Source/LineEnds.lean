import ComponentPasses.Proofs.Source.Tokens
import ComponentPasses.Proofs.Text.Cut
import Mathlib.Algebra.GroupWithZero.Nat

/-!
# Line ends in generated source

A layout is written line by line, so a text has one line end for each line, and beyond these only
the ones that stand inside the lines (`Holds.brings_text`).  Where no line has one inside, cutting
the text at its line ends gives the lines back (`Holds.split_text`).

Which texts bring line ends along?  A type reference and a literal never do.  An identifier does
where it ends in one, since the check of a name passes over one line end at the end
(`brings_writtenName`).

**Visible characters.**  Besides line ends, names, types and the literals of names hold characters
from the blank to the tilde only, so no other character can be taken for the end of a line.
`Brings` says both of a text, and `Holds` of the lines of a layout.
-/

namespace ComponentPasses.Source

/-! ## 1. Counting -/

/-- The number of line ends in a text. -/
def lineEnds (s : String) : Nat :=
  s.toList.count '\n'

theorem lineEnds_eq_zero_iff {s : String} : lineEnds s = 0 ↔ '\n' ∉ s.toList :=
  List.count_eq_zero

@[simp] theorem lineEnds_append (s t : String) : lineEnds (s ++ t) = lineEnds s + lineEnds t := by
  rw [lineEnds, String.toList_append, List.count_append, lineEnds, lineEnds]

/-! ## 2. Visible characters -/

/-- A character from the blank to the tilde. -/
def isVisible (c : Char) : Bool :=
  ' ' ≤ c && c ≤ '~'

/-- A fact about a character of ASCII, from the fact about each of them. -/
theorem forall_ascii {p : Char → Prop} (each : ∀ n < 128, p (Char.ofNat n)) {c : Char}
    (ascii : c.toNat < 128) : p c := by
  simpa using each c.toNat ascii

theorem isVisible_of_isWordChar {c : Char} (h : isWordChar c = true) :
    isVisible c = true ∧ isVisible c.toLower = true :=
  forall_ascii (p := fun c => isWordChar c = true → isVisible c = true ∧ isVisible c.toLower = true)
    (by decide +kernel) (toNat_lt_of_isWordChar h) h

theorem isVisible_of_isTypeChar {c : Char} (h : isTypeChar c = true) : isVisible c = true := by
  have signs : ∀ c ∈ [' ', '.', ',', ':', '?', '@', '<', '>', '[', ']'], isVisible c = true :=
    List.all_eq_true.mp (by decide)
  simp only [isTypeChar, Bool.or_eq_true] at h
  rcases h with name | sign
  · exact (isVisible_of_isWordChar (by simp [isWordChar, name])).1
  · exact signs c (List.contains_iff_mem.mp sign)

/-- A text with that many line ends whose other characters are visible. -/
structure Brings (s : String) (count : Nat) : Prop where
  lineEnds : lineEnds s = count
  visible : ∀ c ∈ s.toList, c = '\n' ∨ isVisible c = true

namespace Brings

/-- A text of visible characters has no line ends. -/
theorem of_visible {s : String} (h : ∀ c ∈ s.toList, isVisible c = true) : Brings s 0 where
  lineEnds := lineEnds_eq_zero_iff.mpr fun mem => absurd (h _ mem) (by decide)
  visible c hc := .inr (h c hc)

/-- A text that is written out has no line ends if its characters are visible. -/
theorem of_chars {s : List Char} (h : s.all isVisible = true) : Brings (String.ofList s) 0 :=
  of_visible (by rw [String.toList_ofList]; exact List.all_eq_true.mp h)

theorem append {s t : String} {m n : Nat} (first : Brings s m) (second : Brings t n) :
    Brings (s ++ t) (m + n) where
  lineEnds := by rw [lineEnds_append, first.lineEnds, second.lineEnds]
  visible c hc := by
    rw [String.toList_append] at hc
    exact (List.mem_append.mp hc).elim (first.visible c) (second.visible c)

/-- Texts on a line bring along what each of them does. -/
theorem intercalate {separator : String} (between : Brings separator 0) {α : Type} {items : List α}
    {textOf : α → String} {countOf : α → Nat}
    (each : ∀ item ∈ items, Brings (textOf item) (countOf item)) :
    Brings (separator.intercalate (items.map textOf)) (items.map countOf).sum := by
  induction items with
  | nil => exact of_visible nofun
  | cons item rest ih =>
    obtain ⟨first, others⟩ := List.forall_mem_cons.mp each
    cases rest with
    | nil => simpa using first
    | cons next later =>
      rw [List.map_cons, List.map_cons, String.intercalate_cons_cons, List.map_cons, List.sum_cons]
      exact Nat.add_zero (countOf item) ▸ (first.append between).append (ih others)

end Brings

/-! ## 3. Layouts -/

namespace Layout

mutual

/-- The texts that a layout writes, one for each line, without the blanks in front. -/
def texts : Layout → List String
  | .line text => [text]
  | .block header body => header.toList ++ ["\x7b"] ++ (textsOfAll body ++ ["\x7d"])
  | .indented body => textsOfAll body

/-- The texts that layouts write one after the other. -/
def textsOfAll : List Layout → List String
  | [] => []
  | layout :: rest => texts layout ++ textsOfAll rest

end

theorem textsOfAll_append (front back : List Layout) :
    textsOfAll (front ++ back) = textsOfAll front ++ textsOfAll back := by
  induction front with
  | nil => rfl
  | cons layout rest ih => simp only [List.cons_append, textsOfAll, ih, List.append_assoc]

section Indentation

variable {β : Type} {view : String → β}

mutual

theorem map_linesAt (blind : ∀ level text, view (Writer.indentLine level text) = view text)
    (level : Nat) (layout : Layout) :
    (linesAt level layout).map view = (texts layout).map view := by
  cases layout with
  | line text => simp [linesAt, texts, blind]
  | block header body =>
    have inside := map_linesOfAll blind (level + 1) body
    cases header <;> simp [linesAt, texts, blind, inside]
  | indented body => exact map_linesOfAll blind (level + 1) body

/-- What does not see the blanks in front of a line sees the texts of the layouts. -/
theorem map_linesOfAll (blind : ∀ level text, view (Writer.indentLine level text) = view text)
    (level : Nat) (layouts : List Layout) :
    (linesOfAll level layouts).map view = (textsOfAll layouts).map view := by
  cases layouts with
  | nil => rfl
  | cons layout rest =>
    rw [linesOfAll, textsOfAll, List.map_append, List.map_append, map_linesAt blind,
      map_linesOfAll blind]

end

/-- What the blanks in front do not change holds of all lines if it holds of all texts. -/
theorem forall_mem_linesOfAll {p : String → Prop}
    (blind : ∀ level text, p (Writer.indentLine level text) = p text) {level : Nat}
    {layouts : List Layout} (each : ∀ text ∈ textsOfAll layouts, p text) :
    ∀ line ∈ linesOfAll level layouts, p line := by
  have all : ∀ holds ∈ (linesOfAll level layouts).map p, holds := by
    rw [map_linesOfAll blind]
    intro holds mem
    obtain ⟨text, ht, rfl⟩ := List.mem_map.mp mem
    exact each text ht
  exact fun line hl => all (p line) (List.mem_map_of_mem hl)

end Indentation

theorem lineEnds_indentLine (level : Nat) (text : String) :
    lineEnds (Writer.indentLine level text) = lineEnds text := by
  unfold Writer.indentLine
  split
  · rename_i empty
    rw [empty]
  · rw [lineEnds_append, Writer.indent, lineEnds, String.toList_ofList, List.count_replicate]
    simp

/-- A property that blanks have holds of a line exactly if it holds of the line's text. -/
theorem forall_mem_indentLine {p : Char → Prop} (blank : p ' ') (level : Nat) (text : String) :
    (∀ c ∈ (Writer.indentLine level text).toList, p c) = ∀ c ∈ text.toList, p c := by
  unfold Writer.indentLine
  split
  · rename_i empty
    rw [empty]
  · simp only [String.toList_append, Writer.indent, String.toList_ofList, List.mem_append,
      List.mem_replicate, or_imp, forall_and]
    simp [blank]

/-- Every line is ended, so there is a line end for each line besides those inside of lines. -/
theorem count_ended (lines : List String) :
    (ended lines).count '\n' = lines.length + (lines.map lineEnds).sum := by
  induction lines with
  | nil => rfl
  | cons line rest ih =>
    have here : (ended [line]).count '\n' = lineEnds line + 1 := by simp [ended, lineEnds]
    rw [← List.singleton_append, ended_append, List.count_append, here, ih]
    simp only [List.singleton_append, List.length_cons, List.map_cons, List.sum_cons]
    omega

/-- Layouts of that many lines, with line ends inside of lines and otherwise visible characters. -/
structure Holds (layouts : List Layout) (lines inside : Nat) : Prop where
  lines : (textsOfAll layouts).length = lines
  inside : ((textsOfAll layouts).map lineEnds).sum = inside
  visible : ∀ text ∈ textsOfAll layouts, ∀ c ∈ text.toList, c = '\n' ∨ isVisible c = true

namespace Holds

variable {layouts layouts' : List Layout} {lines inside lines' inside' : Nat}

theorem congr (h : Holds layouts lines inside) (sameLines : lines = lines')
    (sameInside : inside = inside') : Holds layouts lines' inside' :=
  sameLines ▸ sameInside ▸ h

theorem append (first : Holds layouts lines inside) (second : Holds layouts' lines' inside') :
    Holds (layouts ++ layouts') (lines + lines') (inside + inside') where
  lines := by rw [textsOfAll_append, List.length_append, first.lines, second.lines]
  inside := by
    rw [textsOfAll_append, List.map_append, List.sum_append, first.inside, second.inside]
  visible text ht := by
    rw [textsOfAll_append] at ht
    exact (List.mem_append.mp ht).elim (first.visible text) (second.visible text)

theorem line {text : String} {count : Nat} (h : Brings text count) :
    Holds [.line text] 1 count where
  lines := rfl
  inside := by simpa [textsOfAll, texts] using h.lineEnds
  visible := by simpa [textsOfAll, texts] using h.visible

/-- Only the texts matter, not how they are arranged. -/
theorem of_same (h : Holds layouts lines inside)
    (same : textsOfAll layouts' = textsOfAll layouts) : Holds layouts' lines inside :=
  ⟨same ▸ h.lines, same ▸ h.inside, same ▸ h.visible⟩

theorem indented (body : Holds layouts lines inside) : Holds [.indented layouts] lines inside :=
  body.of_same (by simp [textsOfAll, texts])

/-- A block writes its header and two braces. -/
theorem block {header : String} {count : Nat} (headed : Brings header count)
    (body : Holds layouts lines inside) :
    Holds [.block (some header) layouts] (lines + 3) (count + inside) := by
  have opening : Brings "\x7b" 0 := .of_chars rfl
  have closing : Brings "\x7d" 0 := .of_chars rfl
  have all := (line headed).append ((line opening).append (body.append (line closing)))
  refine (all.congr (by omega) (by omega)).of_same ?_
  simp [textsOfAll, texts, textsOfAll_append]

theorem nil : Holds [] 0 0 := ⟨rfl, rfl, nofun⟩

theorem blank : Holds [.blank] 1 0 := line (.of_chars rfl)

/-- Layouts of the same number of lines, one after the other. -/
theorem flatMap {α : Type} {items : List α} {layoutsOf : α → List Layout} {countOf : α → Nat}
    (each : ∀ item ∈ items, Holds (layoutsOf item) lines (countOf item)) :
    Holds (items.flatMap layoutsOf) (lines * items.length) (items.map countOf).sum := by
  induction items with
  | nil => exact nil
  | cons item rest ih =>
    obtain ⟨first, others⟩ := List.forall_mem_cons.mp each
    have all := first.append (ih others)
    rw [List.length_cons, Nat.mul_succ, Nat.add_comm (lines * rest.length)]
    exact all

end Holds

section Text

variable {layouts : List Layout} {lines inside : Nat}

/-- The text of layouts has a line end for each line, besides those inside of lines. -/
theorem Holds.brings_text (written : linesOfAll 0 layouts ≠ []) (h : Holds layouts lines inside) :
    Brings (text layouts) (lines + inside) where
  lineEnds := by
    have count := congrArg List.length (map_linesOfAll lineEnds_indentLine 0 layouts)
    rw [List.length_map, List.length_map] at count
    rw [Source.lineEnds, toList_text written, count_ended, count,
      map_linesOfAll lineEnds_indentLine, h.lines, h.inside]
  visible c hc := by
    rw [toList_text written, ended] at hc
    obtain ⟨line, hl, hc⟩ := List.mem_flatMap.mp hc
    rcases List.mem_append.mp hc with hc | hc
    · exact forall_mem_linesOfAll (forall_mem_indentLine (.inr rfl)) h.visible line hl c hc
    · exact .inl (List.mem_singleton.mp hc)

/-- Cutting lines at their ends gives the lines back, and the empty text after the last end. -/
theorem pieces_ended {lines : List String} (plain : ∀ line ∈ lines, '\n' ∉ line.toList) :
    Text.pieces '\n' (ended lines) = lines.map String.toList ++ [[]] := by
  induction lines with
  | nil => rfl
  | cons line rest ih =>
    obtain ⟨first, others⟩ := List.forall_mem_cons.mp plain
    rw [ended, List.flatMap_cons, List.append_assoc, List.singleton_append,
      Text.pieces_append first, ← ended, ih others]
    rfl

/-- Where no line has a line end inside, the lines of the text are those that were written. -/
theorem Holds.split_text (written : linesOfAll 0 layouts ≠ []) (h : Holds layouts lines 0) :
    Text.split '\n' (text layouts) = linesOfAll 0 layouts ++ [""] := by
  have none : ∀ text ∈ textsOfAll layouts, lineEnds text = 0 :=
    List.forall_mem_map.mp (List.sum_eq_zero_iff_forall_eq_nat.mp h.inside)
  have plain : ∀ line ∈ linesOfAll 0 layouts, lineEnds line = 0 :=
    forall_mem_linesOfAll (fun level text => by rw [lineEnds_indentLine]) none
  rw [Text.split, toList_text written,
    pieces_ended fun line hl => lineEnds_eq_zero_iff.mp (plain line hl)]
  simp [Function.comp_def]

end Text

end Layout

/-! ## 4. Identifiers -/

/-- Whether a name ends in a line end. -/
def endsLine (name : String) : Bool :=
  name.toList.getLast? == some '\n'

section Identifiers

variable {name : String}

/-- An identifier holds one line end at most, as its last character. -/
theorem lineEnds_of_isIdentifier (h : isIdentifier name.toList = true) :
    lineEnds name = (endsLine name).toNat := by
  have word := (forall_isWordChar_of_isWord h).2
  have inside : (dropLineEnd name.toList).count '\n' = 0 :=
    List.count_eq_zero.mpr fun mem => absurd (word _ mem) (by decide)
  unfold endsLine lineEnds
  rcases dropLineEnd_eq name.toList with plain | ended
  · have last : name.toList.getLast? ≠ some '\n' := fun ends => by
      rw [plain] at ends
      exact absurd (word _ (List.mem_of_getLast? ends)) (by decide)
    rw [beq_false_of_ne last, plain, inside]
    rfl
  · rw [ended, List.count_append, inside, List.getLast?_concat]
    rfl

/-- An identifier is written with the line end that it may have. -/
theorem brings_writtenName (h : isIdentifier name.toList = true) :
    Brings (writtenName name) (endsLine name).toNat := by
  have bare : Brings name (endsLine name).toNat :=
    ⟨lineEnds_of_isIdentifier h, fun c hc =>
      (mem_of_isIdentifier h hc).imp_right fun word => (isVisible_of_isWordChar word).1⟩
  unfold writtenName
  split
  · have sign : Brings "@" 0 := .of_chars rfl
    simpa using sign.append bare
  · exact bare

/-- Numbers of none and one add up to a count. -/
theorem sum_map_toNat {α : Type} (p : α → Bool) (items : List α) :
    (items.map fun item => (p item).toNat).sum = items.countP p := by
  induction items with
  | nil => rfl
  | cons item rest ih =>
    rw [List.map_cons, List.sum_cons, ih, List.countP_cons]
    cases p item <;> simp [Nat.add_comm]

/-- Identifiers on a line bring along the line ends that they end in. -/
theorem brings_joinedNames {separator : String} (between : Brings separator 0)
    {names : List String} (each : ∀ name ∈ names, isIdentifier name.toList = true) :
    Brings (separator.intercalate (names.map writtenName)) (names.countP endsLine) := by
  rw [← sum_map_toNat]
  exact between.intercalate fun name known => brings_writtenName (each name known)

theorem writtenName_ne_empty (h : isIdentifier name.toList = true) : writtenName name ≠ "" := by
  intro empty
  have word := tokensOf?_writtenName h
  rw [empty] at word
  cases word

/-- A namespace that can be written is written as something. -/
theorem writtenNamespace_ne_empty
    (each : ∀ part ∈ Text.split '.' name, isIdentifier part.toList = true) :
    writtenNamespace name ≠ "" := by
  obtain ⟨piece, others, cut⟩ := List.exists_cons_of_ne_nil (Text.pieces_ne_nil '.' name.toList)
  have parts : Text.split '.' name = String.ofList piece :: others.map String.ofList := by
    rw [Text.split, cut, List.map_cons]
  rw [parts] at each
  have first := writtenName_ne_empty (List.forall_mem_cons.mp each).1
  rw [writtenNamespace, parts, List.map_cons]
  cases others with
  | nil => simpa using first
  | cons next later =>
    rw [List.map_cons, List.map_cons, String.intercalate_cons_cons]
    intro empty
    exact first (String.append_eq_empty_iff.mp (String.append_eq_empty_iff.mp empty).1).1

/-! ## 5. Types and literals -/

theorem brings_trim {display : String} (h : isTypeText display) : Brings (Text.trim display) 0 :=
  .of_visible fun c hc => isVisible_of_isTypeChar (List.all_eq_true.mp h.2 c hc)

theorem isVisible_literalChar {c : Char} (h : c = '\n' ∨ isVisible c = true) :
    ∀ d ∈ literalChar c, isVisible d = true := by
  have escaped : ∀ d, isVisible d = true → ∀ e ∈ ['\\', d], isVisible e = true :=
    fun d visible => List.forall_mem_cons.mpr ⟨rfl, List.forall_mem_singleton.mpr visible⟩
  unfold literalChar
  split
  · rename_i special
    exact escaped c (by rcases special with rfl | rfl <;> rfl)
  · split
    · exact escaped 'n' rfl
    · rename_i other
      split
      · exact escaped 'r' rfl
      · exact List.forall_mem_singleton.mpr (h.resolve_left other)

/-- A line end stands in a literal as an escape. -/
theorem brings_stringLiteral {s : String} (h : ∀ c ∈ s.toList, c = '\n' ∨ isVisible c = true) :
    Brings (stringLiteral s) 0 := by
  refine .of_visible ?_
  rw [stringLiteral, String.toList_ofList, List.cons_append]
  refine List.forall_mem_cons.mpr ⟨rfl, fun c hc => ?_⟩
  rcases List.mem_append.mp hc with inside | quote
  · obtain ⟨d, hd, hc⟩ := List.mem_flatMap.mp inside
    exact isVisible_literalChar (h d hd) c hc
  · rw [List.mem_singleton.mp quote]
    rfl

/-- Neither the literal of an identifier nor the one of its small letters has a line end. -/
theorem brings_literals (h : isIdentifier name.toList = true) :
    Brings (stringLiteral name) 0 ∧ Brings (stringLiteral (Text.lowercase name)) 0 := by
  refine ⟨brings_stringLiteral fun c hc => (mem_of_isIdentifier h hc).imp_right fun word =>
    (isVisible_of_isWordChar word).1, brings_stringLiteral ?_⟩
  rw [toList_lowercase_of_ascii (toNat_lt_of_isIdentifier h)]
  refine List.forall_mem_map.mpr fun c hc => ?_
  rcases mem_of_isIdentifier h hc with rfl | word
  · exact .inl rfl
  · exact .inr (isVisible_of_isWordChar word).2

end Identifiers

end ComponentPasses.Source
