import ComponentPasses.Proofs.Source.Literals
import ComponentPasses.Proofs.Text.Cut

/-!
# What can be read off a text

A way of writing things is **legible** if a text that begins with a written thing tells what is
written there, and where it ends: whatever comes after, the things agree in a `key`, and so do the
rests of the texts (`Legible`).  Legible parts make a legible whole (`Legible.append`), so of a long
text only its parts have to be looked at.

Three things make a part legible.  A mark that does not occur in the part ends it (`Legible.upTo`).
A literal ends at its closing quote, since a quote inside is escaped (`legible_stringLiteral`).  And
a run of items ends where something begins that no item begins with (`Legible.run`).

For layouts all this holds at each level, and the header of a block is ended by the brace
(`Layout.Legible.block`).
-/

namespace ComponentPasses.Source

/-! ## 1. Legible parts -/

/-- What is written for things that pass can be told, up to a key, from what comes after it. -/
def Legible {α β : Type} (passes : α → Prop) (write : α → List Char) (key : α → β) : Prop :=
  ∀ a b, passes a → passes b → ∀ s t, write a ++ s = write b ++ t → key a = key b ∧ s = t

namespace Legible

variable {α β γ : Type} {passes : α → Prop} {write write' : α → List Char} {key : α → β}
  {key' : α → γ}

/-- What the key tells is told. -/
theorem of_key (legible : Legible passes write key)
    (told : ∀ a b, passes a → passes b → key a = key b → key' a = key' b) :
    Legible passes write key' := by
  intro a b passed passed' s t same
  obtain ⟨keys, rest⟩ := legible a b passed passed' s t same
  exact ⟨told a b passed passed' keys, rest⟩

theorem append (first : Legible passes write key) (second : Legible passes write' key') :
    Legible passes (fun a => write a ++ write' a) fun a => (key a, key' a) := by
  intro a b passed passed' s t same
  rw [List.append_assoc, List.append_assoc] at same
  obtain ⟨keys, rest⟩ := first a b passed passed' _ _ same
  obtain ⟨keys', rest'⟩ := second a b passed passed' _ _ rest
  exact ⟨Prod.ext keys keys', rest'⟩

theorem const_append (front : List Char) (legible : Legible passes write key) :
    Legible passes (fun a => front ++ write a) key := by
  intro a b passed passed' s t same
  rw [List.append_assoc, List.append_assoc] at same
  exact legible a b passed passed' s t (List.append_cancel_left same)

theorem append_const (legible : Legible passes write key) (back : List Char) :
    Legible passes (fun a => write a ++ back) key := by
  intro a b passed passed' s t same
  rw [List.append_assoc, List.append_assoc] at same
  obtain ⟨keys, rest⟩ := legible a b passed passed' _ _ same
  exact ⟨keys, List.append_cancel_left rest⟩

/-- A mark that does not occur in a text ends it. -/
theorem upTo {mark : Char} (free : ∀ a, passes a → mark ∉ write a) :
    Legible passes (fun a => write a ++ [mark]) write := by
  intro a b passed passed' s t same
  have cut := congrArg (Text.cutAtFirst mark) same
  rw [List.append_assoc, List.append_assoc, List.singleton_append, List.singleton_append,
    Text.cutAtFirst_append (free a passed), Text.cutAtFirst_append (free b passed')] at cut
  exact Prod.mk.inj (Option.some.inj cut)

/-- A run of items ends where something begins that no item begins with. -/
theorem run (legible : Legible passes write key) {front : List Char} {c d : Char} (apart : c ≠ d)
    (begins : ∀ a, ∃ rest, write a = front ++ c :: rest) :
    ∀ as bs : List α, (∀ a ∈ as, passes a) → (∀ b ∈ bs, passes b) → ∀ s t : List Char,
      as.flatMap write ++ (front ++ d :: s) = bs.flatMap write ++ (front ++ d :: t) →
        as.map key = bs.map key ∧ s = t := by
  have ends : ∀ (a : α) (others : List α) (s t : List Char),
      front ++ d :: s ≠ (a :: others).flatMap write ++ t := by
    intro a others s t same
    obtain ⟨rest, begun⟩ := begins a
    rw [List.flatMap_cons, begun, List.append_assoc, List.append_assoc] at same
    exact apart (List.cons.inj (List.append_cancel_left same)).1.symm
  intro as
  induction as with
  | nil =>
    intro bs _ _ s t same
    cases bs with
    | nil => exact ⟨rfl, (List.cons.inj (List.append_cancel_left same)).2⟩
    | cons b others => exact absurd same (ends b others s _)
  | cons a rest ih =>
    intro bs passed passed' s t same
    cases bs with
    | nil => exact absurd same.symm (ends a rest t _)
    | cons b others =>
      obtain ⟨first, later⟩ := List.forall_mem_cons.mp passed
      obtain ⟨first', later'⟩ := List.forall_mem_cons.mp passed'
      rw [List.flatMap_cons, List.flatMap_cons, List.append_assoc, List.append_assoc] at same
      obtain ⟨here, same⟩ := legible a b first first' _ _ same
      obtain ⟨there, rest⟩ := ih others later later' s t same
      exact ⟨by rw [List.map_cons, List.map_cons, here, there], rest⟩

end Legible

/-! ## 2. Literals -/

/-- A literal tells the text that it stands for, and where it ends. -/
theorem legible_stringLiteral :
    Legible (fun _ => True) (fun s => (stringLiteral s).toList) id := by
  intro s t _ _ u v same
  have cut := congrArg (fun text => cutAtBareQuote? text.tail) same
  simp only [toList_stringLiteral, List.cons_append, List.tail_cons, List.append_assoc,
    List.nil_append, cutAtBareQuote?_literalChars, Option.some.injEq, Prod.mk.injEq] at cut
  obtain ⟨inside, rest⟩ := cut
  have decoded := congrArg unescapeAll? inside
  rw [unescapeAll?_literalChars, unescapeAll?_literalChars] at decoded
  exact ⟨String.toList_inj.mp (Option.some.inj decoded), rest⟩

/-! ## 3. Layouts -/

theorem indentLine_of_ne {text : String} (some : text ≠ "") (level : Nat) :
    (Writer.indentLine level text).toList = (Writer.indent level).toList ++ text.toList := by
  rw [Writer.indentLine, if_neg some, String.toList_append]

namespace Layout

/-- A layout begins as its first line does. -/
theorem begins_line {text : String} {c : Char} {rest : List Char} (begun : text.toList = c :: rest)
    (level : Nat) (others : List Layout) : ∃ more,
      ended (linesOfAll level (.line text :: others)) =
        (Writer.indent level).toList ++ c :: more := by
  have some : text ≠ "" := fun empty => by rw [empty] at begun; cases begun
  rw [linesOfAll, linesAt, ended_append]
  simp [ended, indentLine_of_ne some, begun]

/-- A block begins as its header does. -/
theorem begins_block {header : String} {c : Char} {rest : List Char}
    (begun : header.toList = c :: rest) (level : Nat) (body others : List Layout) : ∃ more,
      ended (linesOfAll level (.block (some header) body :: others)) =
        (Writer.indent level).toList ++ c :: more := by
  have some : header ≠ "" := fun empty => by rw [empty] at begun; cases begun
  rw [linesOfAll, linesAt, ended_append]
  simp [ended, indentLine_of_ne some, begun]

theorem ended_flatMap {α : Type} (level : Nat) (items : List α) (layoutsOf : α → List Layout) :
    ended (linesOfAll level (items.flatMap layoutsOf)) =
      items.flatMap fun item => ended (linesOfAll level (layoutsOf item)) := by
  induction items with
  | nil => rfl
  | cons item rest ih =>
    rw [List.flatMap_cons, linesOfAll_append, ended_append, ih, List.flatMap_cons]

/-- What comes after the blanks of a header, up to the brace that opens the block. -/
def heading (level : Nat) (header : String) : List Char :=
  header.toList ++ '\n' :: (Writer.indent level).toList

theorem not_mem_heading (level : Nat) {header : String} (free : '\x7b' ∉ header.toList) :
    '\x7b' ∉ heading level header := by
  intro mem
  rw [heading, Writer.indent, String.toList_ofList] at mem
  rcases List.mem_append.mp mem with mem | mem
  · exact free mem
  · rcases List.mem_cons.mp mem with lineEnd | blank
    · exact absurd lineEnd (by decide)
    · exact absurd (List.eq_of_mem_replicate blank) (by decide)

theorem heading_injective (level : Nat) : (heading level).Injective :=
  fun _ _ same => String.toList_inj.mp (List.append_cancel_right same)

/-- The characters of a block, cut where its header ends. -/
theorem ended_block (level : Nat) {header : String} (some : header ≠ "") (body : List Layout) :
    ended (linesOfAll level [.block (.some header) body]) =
      (Writer.indent level).toList ++ ((heading level header ++ ['\x7b']) ++
        (['\n'] ++ (ended (linesOfAll (level + 1) body) ++
          ended [Writer.indentLine level "\x7d"]))) := by
  have brace : (Writer.indentLine level "\x7b").toList =
      (Writer.indent level).toList ++ "\x7b".toList := indentLine_of_ne (by decide) level
  simp [linesOfAll, linesAt, ended, heading, indentLine_of_ne some, brace]

/-- Layouts that are legible at each level. -/
def Legible {α β : Type} (passes : α → Prop) (layouts : α → List Layout) (key : α → β) : Prop :=
  ∀ level, Source.Legible passes (fun a => ended (linesOfAll level (layouts a))) key

namespace Legible

variable {α β γ : Type} {passes : α → Prop} {layouts : α → List Layout} {key : α → β}

theorem of_key {key' : α → γ} (legible : Legible passes layouts key)
    (told : ∀ a b, passes a → passes b → key a = key b → key' a = key' b) :
    Legible passes layouts key' :=
  fun level => (legible level).of_key told

theorem const_append (front : List Layout) (legible : Legible passes layouts key) :
    Legible passes (fun a => front ++ layouts a) key := by
  intro level
  simp only [linesOfAll_append, ended_append]
  exact (legible level).const_append _

theorem append_const (legible : Legible passes layouts key) (back : List Layout) :
    Legible passes (fun a => layouts a ++ back) key := by
  intro level
  simp only [linesOfAll_append, ended_append]
  exact (legible level).append_const _

/-- The opening brace ends the header of a block, and the braces are where they are expected. -/
theorem block (body : Legible passes layouts key) {header : α → String}
    (some : ∀ a, passes a → header a ≠ "")
    (free : ∀ a, passes a → '\x7b' ∉ (header a).toList) :
    Legible passes (fun a => [.block (.some (header a)) (layouts a)])
      fun a => (header a, key a) := by
  intro level
  have headed : Source.Legible passes (fun a => heading level (header a) ++ ['\x7b']) header :=
    (Source.Legible.upTo fun a passed => not_mem_heading level (free a passed)).of_key
      fun _ _ _ _ same => heading_injective level same
  have whole := ((headed.append (((body (level + 1)).append_const
    (ended [Writer.indentLine level "\x7d"])).const_append ['\n'])).const_append
      (Writer.indent level).toList)
  intro a b passed passed' s t same
  simp only [ended_block _ (some a passed), ended_block _ (some b passed')] at same
  exact whole a b passed passed' s t same

/-- A block with a fixed header tells what its body does. -/
theorem fixedBlock (body : Legible passes layouts key) {header : String} (some : header ≠ "")
    (free : '\x7b' ∉ header.toList) :
    Legible passes (fun a => [.block (.some header) (layouts a)]) key := by
  have headed : Legible passes (fun a => [.block (.some header) (layouts a)])
      fun a => (header, key a) := body.block (fun _ _ => some) fun _ _ => free
  exact headed.of_key fun _ _ _ _ same => (Prod.mk.inj same).2

/-- The text of legible layouts tells the key. -/
theorem text_inj (legible : Legible passes layouts key) {a b : α} (passed : passes a)
    (passed' : passes b) (written : linesOfAll 0 (layouts a) ≠ [])
    (written' : linesOfAll 0 (layouts b) ≠ []) (same : text (layouts a) = text (layouts b)) :
    key a = key b := by
  have chars := congrArg String.toList same
  rw [toList_text written, toList_text written'] at chars
  refine (legible 0 a b passed passed' [] [] ?_).1
  rw [List.append_nil, List.append_nil]
  exact chars

end Legible

end Layout

end ComponentPasses.Source
