import ComponentPasses.Proofs.Source.Tokens

/-!
# Generated source as phrases

The second step of reading cuts tokens into **phrases**: a head that a semicolon ends, a head that a
colon ends, or a head in front of a block of phrases.  Semicolons, colons and braces cut only
outside round brackets.

Phrases that have proper heads are read back from their tokens (`outline?_tokensOfAll`), so a text
whose layouts spell out such phrases is read as them (`phrasesOf?_text`).
-/

namespace ComponentPasses.Source

/-! ## 1. Phrases -/

/-- A piece of source as semicolons, colons and braces cut it. -/
inductive Phrase
  | statement (head : List Token)
  | label (head : List Token)
  | block (head : List Token) (body : List Phrase)

/-- The number of open round brackets after a token of a head, or none if a head ends before it. -/
def depthAfter? (depth : Nat) : Token → Option Nat
  | .sign '(' => some (depth + 1)
  | .sign ')' => if depth = 0 then none else some (depth - 1)
  | .sign ':' => if depth = 0 then none else some depth
  | .sign ';' | .sign '\x7b' | .sign '\x7d' => none
  | _ => some depth

/-- The number of open round brackets after tokens that belong to one head. -/
def depthAfterAll? (depth : Nat) : List Token → Option Nat
  | [] => some depth
  | token :: rest => (depthAfter? depth token).bind (depthAfterAll? · rest)

theorem depthAfterAll?_append {depth middle last : Nat} {front back : List Token}
    (first : depthAfterAll? depth front = some middle)
    (second : depthAfterAll? middle back = some last) :
    depthAfterAll? depth (front ++ back) = some last := by
  induction front generalizing depth with
  | nil =>
    cases first
    exact second
  | cons token rest ih =>
    obtain ⟨next, after, later⟩ := Option.bind_eq_some_iff.mp first
    exact Option.bind_eq_some_iff.mpr ⟨next, after, ih later⟩

/-- Tokens that open and close nothing leave the depth as it is. -/
theorem depthAfterAll?_of_forall {depth : Nat} {tokens : List Token}
    (each : ∀ token ∈ tokens, depthAfter? depth token = some depth) :
    depthAfterAll? depth tokens = some depth := by
  induction tokens with
  | nil => rfl
  | cons token rest ih =>
    obtain ⟨first, others⟩ := List.forall_mem_cons.mp each
    rw [depthAfterAll?, first]
    exact ih others

/-- Tokens that can stand in front of what ends a phrase. -/
def IsHead (tokens : List Token) : Prop :=
  depthAfterAll? 0 tokens = some 0

namespace Phrase

mutual

/-- The tokens of a phrase. -/
def tokens : Phrase → List Token
  | .statement head => head ++ [.sign ';']
  | .label head => head ++ [.sign ':']
  | .block head body => head ++ .sign '\x7b' :: (tokensOfAll body ++ [.sign '\x7d'])

/-- The tokens of phrases, one after the other. -/
def tokensOfAll : List Phrase → List Token
  | [] => []
  | phrase :: rest => tokens phrase ++ tokensOfAll rest

end

mutual

/-- Whether the heads of a phrase can be told from what ends them. -/
def Proper : Phrase → Prop
  | .statement head | .label head => IsHead head
  | .block head body => IsHead head ∧ AllProper body

/-- Whether all phrases are proper. -/
def AllProper : List Phrase → Prop
  | [] => True
  | phrase :: rest => Proper phrase ∧ AllProper rest

end

theorem tokensOfAll_singleton (phrase : Phrase) : tokensOfAll [phrase] = tokens phrase := by
  rw [tokensOfAll, tokensOfAll, List.append_nil]

theorem tokensOfAll_append (front back : List Phrase) :
    tokensOfAll (front ++ back) = tokensOfAll front ++ tokensOfAll back := by
  induction front with
  | nil => rfl
  | cons phrase rest ih => simp only [List.cons_append, tokensOfAll, ih, List.append_assoc]

theorem tokensOfAll_flatMap {α : Type} (items : List α) (phrasesOf : α → List Phrase) :
    tokensOfAll (items.flatMap phrasesOf) =
      items.flatMap fun item => tokensOfAll (phrasesOf item) := by
  induction items with
  | nil => rfl
  | cons item rest ih => rw [List.flatMap_cons, tokensOfAll_append, ih, List.flatMap_cons]

theorem allProper_append {front back : List Phrase} (first : AllProper front)
    (second : AllProper back) : AllProper (front ++ back) := by
  induction front with
  | nil => exact second
  | cons phrase rest ih => exact ⟨first.1, ih first.2⟩

theorem allProper_flatMap {α : Type} {items : List α} {phrasesOf : α → List Phrase}
    (each : ∀ item ∈ items, AllProper (phrasesOf item)) : AllProper (items.flatMap phrasesOf) := by
  induction items with
  | nil => trivial
  | cons item rest ih =>
    obtain ⟨first, others⟩ := List.forall_mem_cons.mp each
    exact allProper_append first (ih others)

end Phrase

/-! ## 2. The outline of tokens -/

/-- What has been read: the head begun and the round brackets open in it, the phrases before it in
its block, and for each block around, innermost first, its head and the phrases before it. -/
structure Outliner where
  depth : Nat := 0
  head : List Token := []
  done : List Phrase := []
  outer : List (List Token × List Phrase) := []

namespace Outliner

/-- Ends the head that is begun. -/
def cut (outliner : Outliner) (token : Token) : Option Outliner :=
  match token, outliner.outer with
  | .sign ';', outer => some ⟨0, [], outliner.done ++ [.statement outliner.head], outer⟩
  | .sign ':', outer => some ⟨0, [], outliner.done ++ [.label outliner.head], outer⟩
  | .sign '\x7b', outer => some ⟨0, [], [], (outliner.head, outliner.done) :: outer⟩
  | .sign '\x7d', (head, before) :: outer =>
    if outliner.head = [] then some ⟨0, [], before ++ [.block head outliner.done], outer⟩ else none
  | _, _ => none

/-- Reads one token: it belongs to the head, or it ends the head where no round bracket is open. -/
def step (outliner : Outliner) (token : Token) : Option Outliner :=
  match depthAfter? outliner.depth token with
  | some depth => some { outliner with depth := depth, head := outliner.head ++ [token] }
  | none => if outliner.depth = 0 then outliner.cut token else none

/-- Reads tokens one after the other. -/
def run (outliner : Outliner) : List Token → Option Outliner
  | [] => some outliner
  | token :: rest => (outliner.step token).bind (run · rest)

theorem run_append (outliner : Outliner) (front back : List Token) :
    outliner.run (front ++ back) = (outliner.run front).bind (run · back) := by
  induction front generalizing outliner with
  | nil => rfl
  | cons token rest ih =>
    simp only [List.cons_append, run]
    cases outliner.step token with
    | none => rfl
    | some next => exact ih next

/-- The tokens of a head are put at its end. -/
theorem run_of_depthAfterAll? {outliner : Outliner} {tokens : List Token} {depth : Nat}
    (h : depthAfterAll? outliner.depth tokens = some depth) :
    outliner.run tokens =
      some { outliner with depth := depth, head := outliner.head ++ tokens } := by
  induction tokens generalizing outliner with
  | nil =>
    cases h
    simp [run]
  | cons token rest ih =>
    obtain ⟨next, after, h⟩ := Option.bind_eq_some_iff.mp h
    have later : run { outliner with depth := next, head := outliner.head ++ [token] } rest = _ :=
      ih h
    rw [run, step, after]
    simpa using later

end Outliner

/-- The phrases of tokens that leave nothing begun or open. -/
def outline? (tokens : List Token) : Option (List Phrase) :=
  (Outliner.run {} tokens).bind fun outliner =>
    if outliner.depth = 0 ∧ outliner.head = [] ∧ outliner.outer.isEmpty then some outliner.done
    else none

/-- A head and the token after it. -/
theorem Outliner.run_head {head : List Token} (isHead : IsHead head) (done : List Phrase)
    (outer : List (List Token × List Phrase)) (token : Token) (rest : List Token)
    (ends : depthAfter? 0 token = none) :
    Outliner.run ⟨0, [], done, outer⟩ (head ++ token :: rest) =
      (Outliner.cut ⟨0, head, done, outer⟩ token).bind (run · rest) := by
  have read : run ⟨0, [], done, outer⟩ head = some ⟨0, [] ++ head, done, outer⟩ :=
    run_of_depthAfterAll? isHead
  rw [run_append, read, Option.bind_some, run, step, ends]
  rfl

mutual

/-- A proper phrase is read from its tokens. -/
theorem run_tokens (phrase : Phrase) (proper : phrase.Proper) (done : List Phrase)
    (outer : List (List Token × List Phrase)) :
    Outliner.run ⟨0, [], done, outer⟩ phrase.tokens = some ⟨0, [], done ++ [phrase], outer⟩ := by
  cases phrase with
  | statement head => exact Outliner.run_head proper done outer _ _ rfl
  | label head => exact Outliner.run_head proper done outer _ _ rfl
  | block head body =>
    have inside := run_tokensOfAll body proper.2 [] ((head, done) :: outer)
    rw [Phrase.tokens, Outliner.run_head proper.1 done outer _ _ rfl]
    change Outliner.run ⟨0, [], [], (head, done) :: outer⟩ _ = _
    rw [Outliner.run_append, inside]
    rfl

/-- Proper phrases are read from their tokens, in order. -/
theorem run_tokensOfAll (phrases : List Phrase) (proper : Phrase.AllProper phrases)
    (done : List Phrase) (outer : List (List Token × List Phrase)) :
    Outliner.run ⟨0, [], done, outer⟩ (Phrase.tokensOfAll phrases) =
      some ⟨0, [], done ++ phrases, outer⟩ := by
  cases phrases with
  | nil => rw [List.append_nil]; rfl
  | cons phrase rest =>
    rw [Phrase.tokensOfAll, Outliner.run_append, run_tokens phrase proper.1, Option.bind_some,
      run_tokensOfAll rest proper.2, List.append_assoc]
    rfl

end

/-- Proper phrases are read back from their tokens. -/
theorem outline?_tokensOfAll {phrases : List Phrase} (proper : Phrase.AllProper phrases) :
    outline? (Phrase.tokensOfAll phrases) = some phrases := by
  rw [outline?, run_tokensOfAll phrases proper [] []]
  rfl

/-! ## 3. The phrases of a text -/

/-- The phrases that a text is read as. -/
def phrasesOf? (s : String) : Option (List Phrase) :=
  (tokensOf? s.toList).bind outline?

/-- The text of layouts is read as the phrases that they spell out. -/
theorem phrasesOf?_text {layouts : List Layout} {phrases : List Phrase}
    (written : Layout.linesOfAll 0 layouts ≠ [])
    (spells : Spells layouts (Phrase.tokensOfAll phrases)) (proper : Phrase.AllProper phrases) :
    phrasesOf? (Layout.text layouts) = some phrases := by
  rw [phrasesOf?, tokensOf?_text written spells, Option.bind_some, outline?_tokensOfAll proper]

end ComponentPasses.Source
