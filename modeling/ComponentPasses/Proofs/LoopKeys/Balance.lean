import ComponentPasses.Proofs.LoopKeys.Fold
import Mathlib.Data.List.Induction

/-!
# What the key machine reports

The machine has a level and a flag.  Read off the calls alone, the level is one less than the
**balance**, the opening calls less the closing ones (`level_after`), and the flag tells whether a
key came at balance 1 and no element was opened from balance 0 since (`keyed_after`).

**Any sequence.**  So a closing call is a report exactly if the balance before it is 1 and no key
came at balance 1 since the latest call that took the balance from 0 to 1 (`reportsAt_iff`).  The
sequence may be out of balance: the level goes down without end, and a flag that is set stays until
the next element is opened at the top level.

**Nested elements.**  Where elements are well nested, this comes to counting the outermost elements
that have no key directly inside them (`run_outside`).  What stands further inside does not matter:
an element inside another leaves the machine as it was (`run_rolesOf_deep`).
-/

namespace ComponentPasses.LoopKeys

/-! ## 1. The balance -/

/-- The opening calls less the closing calls. -/
def balance (roles : List Role) : Int :=
  roles.count .opening - roles.count .closing

/-- A call with the role stands at the place, and the calls before it have the balance. -/
def MetAt (roles : List Role) (place : Nat) (role : Role) (before : Int) : Prop :=
  roles[place]? = some role ∧ balance (roles.take place) = before

section Balance

variable {roles : List Role} {place : Nat} {role : Role} {before : Int}

theorem balance_concat (roles : List Role) (last : Role) :
    balance (roles ++ [last]) =
      balance roles + if last = .opening then 1 else if last = .closing then -1 else 0 := by
  unfold balance
  cases last <;> simp [List.count_append] <;> omega

/-- With one more call, the calls that are met are those from before and the last one. -/
theorem metAt_concat_iff {last : Role} :
    MetAt (roles ++ [last]) place role before ↔
      MetAt roles place role before ∨
        place = roles.length ∧ last = role ∧ balance roles = before := by
  unfold MetAt
  rcases Nat.lt_trichotomy place roles.length with inside | rfl | beyond
  · rw [List.getElem?_append_left inside, List.take_append_of_le_length (Nat.le_of_lt inside)]
    simp [Nat.ne_of_lt inside]
  · simp
  · rw [List.getElem?_eq_none (by rw [List.length_append]; exact beyond),
      List.getElem?_eq_none (Nat.le_of_lt beyond)]
    simp [Nat.ne_of_gt beyond]

/-- In front of a place the same calls are met as in the whole sequence. -/
theorem metAt_take_iff {n : Nat} :
    MetAt (roles.take n) place role before ↔ place < n ∧ MetAt roles place role before := by
  unfold MetAt
  rw [List.getElem?_take, List.take_take]
  by_cases inside : place < n
  · rw [if_pos inside, Nat.min_eq_left (Nat.le_of_lt inside)]
    simp [inside]
  · simp [inside]

theorem MetAt.lt_length (met : MetAt roles place role before) : place < roles.length :=
  (List.getElem?_eq_some_iff.mp met.1).1

end Balance

/-! ## 2. The machine after a sequence of calls -/

/-- The machine that starts outside any element, after the calls. -/
def after (roles : List Role) : Machine :=
  ((⟨-1, false⟩ : Machine).run roles).1

/-- Whether the call at the place makes a report. -/
def reportsAt (roles : List Role) (place : Nat) : Bool :=
  roles[place]?.any (after (roles.take place)).reports

/-- The latest of the calls that take the balance from 0 to 1. -/
def LatestRaise (roles : List Role) (raise : Nat) : Prop :=
  MetAt roles raise .opening 0 ∧ ∀ later, raise < later → ¬ MetAt roles later .opening 0

theorem after_concat (roles : List Role) (last : Role) :
    after (roles ++ [last]) = (after roles).step last := by
  rw [after, Machine.run_append]
  rfl

theorem level_after (roles : List Role) : (after roles).level = balance roles - 1 := by
  induction roles using List.reverseRecOn with
  | nil => rfl
  | append_singleton roles last ih =>
    rw [after_concat, balance_concat]
    cases last <;> simp [Machine.step, ih]
    omega

/-- The flag tells whether a key came at balance 1 that no raise from balance 0 came after. -/
theorem keyed_after (roles : List Role) :
    (after roles).keyed = true ↔
      ∃ key, MetAt roles key .keying 1 ∧ ∀ later, key < later → ¬ MetAt roles later .opening 0 := by
  induction roles using List.reverseRecOn with
  | nil => simp [after, Machine.run, MetAt]
  | append_singleton roles last ih =>
    have level := level_after roles
    rw [after_concat]
    by_cases raised : last = .opening ∧ balance roles = 0
    · obtain ⟨rfl, flat⟩ := raised
      have unset : ((after roles).step .opening).keyed = false := by
        simp [Machine.step, level, flat]
      rw [unset]
      refine iff_of_false Bool.false_ne_true ?_
      rintro ⟨key, met, noLater⟩
      have early : key < roles.length := by
        rcases metAt_concat_iff.mp met with met | ⟨-, other, -⟩
        · exact met.lt_length
        · cases other
      exact noLater _ early (metAt_concat_iff.mpr (.inr ⟨rfl, rfl, flat⟩))
    have noRaise :
        ∀ later, MetAt (roles ++ [last]) later .opening 0 ↔ MetAt roles later .opening 0 :=
      fun later => metAt_concat_iff.trans (or_iff_left fun now => raised now.2)
    by_cases keys : last = .keying ∧ balance roles = 1
    · obtain ⟨rfl, top⟩ := keys
      have set : ((after roles).step .keying).keyed = true := by simp [Machine.step, level, top]
      rw [set]
      refine iff_of_true rfl ⟨roles.length, metAt_concat_iff.mpr (.inr ⟨rfl, rfl, top⟩), ?_⟩
      intro later beyond met
      exact Nat.lt_asymm beyond ((noRaise later).mp met).lt_length
    -- any other call leaves the flag, and nothing new is met
    have kept : ((after roles).step last).keyed = (after roles).keyed := by
      cases last with
      | opening =>
        have : (after roles).level + 1 ≠ 0 := fun flat => raised ⟨rfl, by omega⟩
        simp [Machine.step, this]
      | keying =>
        have : (after roles).level ≠ 0 := fun top => keys ⟨rfl, by omega⟩
        simp [Machine.step, this]
      | closing | helper | other => rfl
    rw [kept, ih]
    simp only [noRaise]
    refine exists_congr fun key => and_congr_left fun _ => ?_
    exact (metAt_concat_iff.trans (or_iff_left fun now => keys now.2)).symm

/-- A balance above 0 was reached by a raise from 0. -/
theorem exists_latestRaise {roles : List Role} (above : 0 < balance roles) :
    ∃ raise, LatestRaise roles raise := by
  induction roles using List.reverseRecOn with
  | nil => exact absurd above (by decide)
  | append_singleton roles last ih =>
    by_cases raised : last = .opening ∧ balance roles = 0
    · obtain ⟨rfl, flat⟩ := raised
      refine ⟨roles.length, metAt_concat_iff.mpr (.inr ⟨rfl, rfl, flat⟩), ?_⟩
      intro later beyond met
      have := met.lt_length
      rw [List.length_append, List.length_singleton] at this
      omega
    · have above : 0 < balance roles := by
        rw [balance_concat] at above
        split at above
        · rename_i opens
          have : balance roles ≠ 0 := fun flat => raised ⟨opens, flat⟩
          omega
        · split at above <;> omega
      obtain ⟨raise, met, latest⟩ := ih above
      refine ⟨raise, metAt_concat_iff.mpr (.inl met), ?_⟩
      intro later beyond met'
      rcases metAt_concat_iff.mp met' with met' | ⟨-, opens, flat⟩
      · exact latest later beyond met'
      · exact raised ⟨opens, flat⟩

/-- The flag is unset at balance 1 exactly if no key came at balance 1 since the latest raise. -/
theorem not_keyed_after_iff {roles : List Role} (top : balance roles = 1) :
    (after roles).keyed = false ↔
      ∃ raise, LatestRaise roles raise ∧ ∀ key, raise < key → ¬ MetAt roles key .keying 1 := by
  rw [← Bool.not_eq_true, keyed_after]
  constructor
  · intro unkeyed
    obtain ⟨raise, latest⟩ : ∃ raise, LatestRaise roles raise := exists_latestRaise (by omega)
    refine ⟨raise, latest, fun key since met => unkeyed ⟨key, met, ?_⟩⟩
    exact fun later beyond => latest.2 later (Nat.lt_trans since beyond)
  · rintro ⟨raise, ⟨opened, -⟩, unkeyed⟩ ⟨key, met, noLater⟩
    rcases Nat.lt_trichotomy raise key with since | rfl | earlier
    · exact unkeyed key since met
    · cases opened.1.symm.trans met.1
    · exact noLater raise earlier opened

/-- A closing call is a report exactly if the balance before it is 1 and no key came at balance 1
since the latest raise from 0. -/
theorem reportsAt_iff (roles : List Role) (place : Nat) :
    reportsAt roles place = true ↔
      MetAt roles place .closing 1 ∧
        ∃ raise, LatestRaise (roles.take place) raise ∧
          ∀ key, raise < key → ¬ MetAt (roles.take place) key .keying 1 := by
  have level := level_after (roles.take place)
  have unset : reportsAt roles place = true ↔
      MetAt roles place .closing 1 ∧ (after (roles.take place)).keyed = false := by
    unfold reportsAt MetAt
    cases roles[place]? with
    | none => simp
    | some role =>
      have : (after (roles.take place)).level = 0 ↔ balance (roles.take place) = 1 := by omega
      simp [Machine.reports, this, and_assoc]
  rw [unset]
  exact and_congr_right fun met => not_keyed_after_iff met.2

/-- A run makes as many reports as there are calls that make one. -/
theorem reports_eq_countP (roles : List Role) :
    ((⟨-1, false⟩ : Machine).run roles).2 =
      (List.range roles.length).countP (reportsAt roles) := by
  induction roles using List.reverseRecOn with
  | nil => rfl
  | append_singleton roles last ih =>
    have earlier : ∀ place ∈ List.range roles.length,
        reportsAt (roles ++ [last]) place = true ↔ reportsAt roles place = true := by
      intro place inside
      have inside := List.mem_range.mp inside
      rw [reportsAt, List.getElem?_append_left inside,
        List.take_append_of_le_length (Nat.le_of_lt inside)]
      rfl
    have now : reportsAt (roles ++ [last]) roles.length = (after roles).reports last := by
      simp [reportsAt]
    rw [Machine.run_append, ih, List.length_append, List.length_singleton, List.range_succ,
      List.countP_append, List.countP_congr earlier, List.countP_singleton, now]
    rfl

/-! ## 3. Well-nested elements -/

/-- What may stand in a well-nested body: a key, a call that does not matter, or an element with
what stands inside it. -/
inductive Part
  | key
  | idle
  | element (inside : List Part)

mutual

/-- The calls of a part. -/
def Part.roles : Part → List Role
  | .key => [.keying]
  | .idle => [.other]
  | .element inside => .opening :: (Part.rolesOf inside ++ [.closing])

/-- The calls of parts, one part after the other. -/
def Part.rolesOf : List Part → List Role
  | [] => []
  | part :: rest => part.roles ++ Part.rolesOf rest

end

/-- Whether the part is a key. -/
def Part.isKey : Part → Bool
  | .key => true
  | _ => false

/-- Whether the part is an element that has no key directly inside it. -/
def Part.isUnkeyed : Part → Bool
  | .element inside => !inside.any isKey
  | _ => false

/-- An element inside another leaves the machine as it was if what stands inside it does. -/
theorem run_nested {machine : Machine} {inside : List Part} (within : 0 ≤ machine.level)
    (unchanged : (machine.step .opening).run (Part.rolesOf inside) = (machine.step .opening, 0)) :
    machine.run (Part.element inside).roles = (machine, 0) := by
  have below : machine.level + 1 ≠ 0 := by omega
  rw [Part.roles, Machine.run_cons, Machine.run_append, unchanged]
  simp [Machine.run, Machine.step, Machine.reports, below]

mutual

/-- Below the top level a part leaves the machine as it was. -/
theorem run_roles_deep {machine : Machine} (deep : 0 < machine.level) :
    ∀ part : Part, machine.run part.roles = (machine, 0)
  | .key => by
    have : machine.level ≠ 0 := by omega
    simp [Part.roles, Machine.run, Machine.step, Machine.reports, this]
  | .idle => rfl
  | .element inside => by
    have deeper : 0 < (machine.step .opening).level := Int.lt_add_one_of_le (Int.le_of_lt deep)
    exact run_nested (Int.le_of_lt deep) (run_rolesOf_deep deeper inside)

theorem run_rolesOf_deep {machine : Machine} (deep : 0 < machine.level) :
    ∀ parts : List Part, machine.run (Part.rolesOf parts) = (machine, 0)
  | [] => rfl
  | part :: rest => by
    rw [Part.rolesOf, Machine.run_append, run_roles_deep deep part]
    exact congrArg (fun result => (result.1, 0 + result.2)) (run_rolesOf_deep deep rest)

end

/-- At the top level a key sets the flag, and nothing else changes the machine. -/
theorem run_inside (keyed : Bool) (parts : List Part) :
    (⟨0, keyed⟩ : Machine).run (Part.rolesOf parts) = (⟨0, keyed || parts.any Part.isKey⟩, 0) := by
  induction parts generalizing keyed with
  | nil => simp [Part.rolesOf, Machine.run]
  | cons part rest ih =>
    rw [Part.rolesOf, Machine.run_append]
    cases part with
    | key =>
      have set : (⟨0, keyed⟩ : Machine).run Part.key.roles = (⟨0, true⟩, 0) := by
        simp [Part.roles, Machine.run, Machine.step, Machine.reports]
      simp [set, ih, Part.isKey]
    | idle =>
      have kept : (⟨0, keyed⟩ : Machine).run Part.idle.roles = (⟨0, keyed⟩, 0) := rfl
      simp [kept, ih, Part.isKey]
    | element inside =>
      have kept : (⟨0, keyed⟩ : Machine).run (Part.element inside).roles = (⟨0, keyed⟩, 0) :=
        run_nested (Int.le_refl 0) (run_rolesOf_deep Int.zero_lt_one inside)
      simp [kept, ih, Part.isKey]

/-- An outermost element is opened with the flag unset and closed with a report if the flag is still
unset. -/
theorem run_outermost (keyed : Bool) (inside : List Part) :
    (⟨-1, keyed⟩ : Machine).run (Part.element inside).roles =
      (⟨-1, inside.any Part.isKey⟩, if inside.any Part.isKey then 0 else 1) := by
  have opened : (⟨-1, keyed⟩ : Machine).step .opening = ⟨0, false⟩ := rfl
  rw [Part.roles, Machine.run_cons, Machine.run_append, opened, run_inside]
  cases inside.any Part.isKey <;> rfl

/-- Outside any element the machine reports the outermost elements that have no key directly inside
them. -/
theorem run_outside (keyed : Bool) (parts : List Part) :
    ((⟨-1, keyed⟩ : Machine).run (Part.rolesOf parts)).2 = parts.countP Part.isUnkeyed := by
  induction parts generalizing keyed with
  | nil => rfl
  | cons part rest ih =>
    rw [Part.rolesOf, Machine.run_append, List.countP_cons]
    cases part with
    | key =>
      have kept : (⟨-1, keyed⟩ : Machine).run Part.key.roles = (⟨-1, keyed⟩, 0) := by
        simp [Part.roles, Machine.run, Machine.step, Machine.reports]
      simp [kept, ih, Part.isUnkeyed]
    | idle =>
      have kept : (⟨-1, keyed⟩ : Machine).run Part.idle.roles = (⟨-1, keyed⟩, 0) := rfl
      simp [kept, ih, Part.isUnkeyed]
    | element inside =>
      rw [run_outermost, ih, Part.isUnkeyed]
      cases inside.any Part.isKey
      · exact Nat.add_comm _ _
      · exact Nat.zero_add _

/-! ## 4. What a report means -/

/-- **What the machine reports.**  Started outside any element, over any calls it makes a report at
a place exactly if a closing call stands there at balance 1, and no key came at balance 1 between it
and the latest call before it that took the balance from 0 to 1; the reports of a run are those.
Over well-nested elements they are as many as the outermost elements that have no key directly
inside them. -/
theorem reports_by_history :
    (∀ roles : List Role,
      ((⟨-1, false⟩ : Machine).run roles).2 =
          (List.range roles.length).countP (reportsAt roles) ∧
        ∀ close, reportsAt roles close = true ↔
          roles[close]? = some .closing ∧ balance (roles.take close) = 1 ∧
            ∃ raise < close, roles[raise]? = some .opening ∧ balance (roles.take raise) = 0 ∧
              ∀ between, raise < between → between < close →
                ¬ (roles[between]? = some .opening ∧ balance (roles.take between) = 0) ∧
                ¬ (roles[between]? = some .keying ∧ balance (roles.take between) = 1)) ∧
    ∀ forest : List Part,
      ((⟨-1, false⟩ : Machine).run (Part.rolesOf forest)).2 = forest.countP Part.isUnkeyed := by
  refine ⟨fun roles => ⟨reports_eq_countP roles, fun close => ?_⟩, run_outside false⟩
  rw [reportsAt_iff]
  simp only [LatestRaise, metAt_take_iff]
  constructor
  · rintro ⟨⟨closes, top⟩, raise, ⟨⟨early, opens, flat⟩, latest⟩, unkeyed⟩
    exact ⟨closes, top, raise, early, opens, flat, fun between since inside =>
      ⟨fun met => latest between since ⟨inside, met⟩,
        fun met => unkeyed between since ⟨inside, met⟩⟩⟩
  · rintro ⟨closes, top, raise, early, opens, flat, none⟩
    exact ⟨⟨closes, top⟩, raise, ⟨⟨early, opens, flat⟩,
      fun later since met => (none later since met.1).1 met.2⟩,
      fun key since met => (none key since met.1).2 met.2⟩

/-- A key inside a child does not count for the element around it, and one in front of it does. -/
example : ((⟨-1, false⟩ : Machine).run (Part.rolesOf
    [.element [.element [.key]], .element [.key, .element []]])).2 = 1 := by
  decide

end ComponentPasses.LoopKeys
