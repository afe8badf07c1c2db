import ComponentPasses.Proofs.Dispatch.Routing

/-!
# Labels and the members they lead to

The name of a parameter goes into the source in two ways: escaped, as the target that an arm
assigns, and as the text of the arm's labels.  A target may have an `@` in front that is no part of
the member's name, because the name is a keyword or because it is declared so.  A label is made of
the name as it is declared.

So labels and members are in step for **plain names** and for **keywords**: the exact label is the
name of the member, and the lowered label is that name in lower case.  They are not for a **verbatim
name**, one that is declared with an `@`: its labels keep the `@`, which no member's name begins
with (`build_labels`).  A name comes in without the `@`, and the section of such a parameter is then
entered in neither tier.  It is entered for the name of its member exactly if the parameter is
declared by that name and nothing else.
-/

namespace ComponentPasses.Dispatch

open Source

/-! ## 1. Names with an `@` in front -/

/-- Whether a name is declared with an `@` in front. -/
def IsVerbatim (name : String) : Prop :=
  name.toList.head? = some '@'

instance (name : String) : Decidable (IsVerbatim name) :=
  inferInstanceAs (Decidable (name.toList.head? = some '@'))

/-- A name without an `@` in front. -/
def bareName (name : String) : String :=
  String.ofList (dropAt name.toList)

variable {name part : String}

theorem toList_bareName (name : String) : (bareName name).toList = dropAt name.toList :=
  String.toList_ofList

theorem append_bareName (verbatim : IsVerbatim name) : "@" ++ bareName name = name := by
  obtain ⟨rest, spelled⟩ := List.head?_eq_some_iff.mp verbatim
  refine String.toList_inj.mp ?_
  rw [String.toList_append, toList_bareName, spelled]
  rfl

theorem bareName_append (name : String) : bareName ("@" ++ name) = name := by
  refine String.toList_inj.mp ?_
  rw [toList_bareName, String.toList_append]
  rfl

theorem bareName_eq (plain : ¬IsVerbatim name) : bareName name = name := by
  refine String.toList_inj.mp ?_
  rw [toList_bareName]
  unfold dropAt
  split
  · rename_i rest spelled
    exact absurd (by rw [IsVerbatim, spelled]; rfl) plain
  · rfl

theorem bareName_eq_iff : bareName name = name ↔ ¬IsVerbatim name := by
  refine ⟨fun same verbatim => ?_, bareName_eq⟩
  have longer := congrArg String.length (append_bareName verbatim)
  rw [same, String.length_append] at longer
  exact absurd longer (by simp)

theorem sublist_bareName (name : String) : (bareName name).toList.Sublist name.toList := by
  rw [toList_bareName]
  cases name.toList with
  | nil => exact List.Sublist.refl _
  | cons c rest =>
    unfold dropAt
    split
    · rename_i same
      exact (List.cons.inj same).2 ▸ List.sublist_cons_self _ _
    · exact List.Sublist.refl _

theorem sublist_dropLineEnd (s : List Char) : (dropLineEnd s).Sublist s := by
  unfold dropLineEnd
  split
  · exact List.dropLast_sublist s
  · exact List.Sublist.refl s

/-- The name of the member is what is left when the line end and then the `@` is dropped. -/
theorem memberOf_eq : memberOf name = bareName (String.ofList (dropLineEnd name.toList)) := by
  rw [memberOf, bareName, String.toList_ofList]

theorem sublist_memberOf (name : String) : (memberOf name).toList.Sublist name.toList := by
  rw [memberOf_eq]
  refine (sublist_bareName _).trans ?_
  rw [String.toList_ofList]
  exact sublist_dropLineEnd _

/-- A name is the name of its member exactly if it has no `@` in front and no line end. -/
theorem memberOf_eq_iff :
    memberOf name = name ↔ ¬IsVerbatim name ∧ name.toList.getLast? ≠ some '\n' := by
  rw [memberOf_eq]
  by_cases ends : name.toList.getLast? = some '\n'
  · refine iff_of_false (fun same => ?_) fun h => h.2 ends
    -- what is left when the line end is dropped is shorter
    have kept := congrArg (·.toList.length) same
    have bare := (sublist_bareName (String.ofList (dropLineEnd name.toList))).length_le
    obtain ⟨front, spelled⟩ := List.getLast?_eq_some_iff.mp ends
    rw [String.toList_ofList, dropLineEnd, if_pos ends, spelled, List.dropLast_concat] at bare
    rw [dropLineEnd, if_pos ends, spelled, List.dropLast_concat, List.length_append] at kept
    exact absurd (kept ▸ bare) (by simp)
  · rw [dropLineEnd, if_neg ends, String.ofList_toList, bareName_eq_iff]
    exact (and_iff_left ends).symm

/-- In ASCII, a part of a text has the same lower case only if it is all of it. -/
theorem lowercase_eq_iff (ascii : ∀ c ∈ name.toList, c.toNat < 128)
    (sub : part.toList.Sublist name.toList) :
    Text.lowercase part = Text.lowercase name ↔ part = name := by
  refine ⟨fun same => ?_, congrArg _⟩
  have lengths := congrArg (·.toList.length) same
  rw [toList_lowercase_of_ascii ascii,
    toList_lowercase_of_ascii fun c hc => ascii c (sub.subset hc), List.length_map,
    List.length_map] at lengths
  exact String.toList_inj.mp (sub.eq_of_length lengths)

/-- The `@` of a verbatim name stays in lower case. -/
theorem lowercase_of_isVerbatim (ascii : ∀ c ∈ name.toList, c.toNat < 128)
    (verbatim : IsVerbatim name) :
    Text.lowercase name = "@" ++ Text.lowercase (bareName name) := by
  have spelled := congrArg String.toList (append_bareName verbatim)
  refine String.toList_inj.mp ?_
  rw [toList_lowercase_of_ascii ascii, String.toList_append,
    toList_lowercase_of_ascii fun c hc => ascii c ((sublist_bareName _).subset hc), ← spelled,
    String.toList_append, List.map_append]
  rfl

/-! ## 2. Arms -/

/-- The text that an arm's label stands for in the source. -/
def Arm.text? (arm : Arm) : Option String :=
  match tokensOf? arm.label.toList with
  | some [.text content] => some content
  | _ => none

/-- The name of the member that an arm assigns: its target without an `@` in front. -/
def Arm.member (arm : Arm) : String :=
  bareName arm.target

theorem text?_armFor (label : String) (parameter : Parameter) :
    (armFor label parameter).text? = some label := by
  rw [Arm.text?, armFor, tokensOf?_stringLiteral]

/-- Escaping a name leaves it but for an `@` in front. -/
theorem member_armFor (label : String) (parameter : Parameter) :
    (armFor label parameter).member = bareName parameter.name := by
  have plain : ∀ name ∈ keywords, ¬IsVerbatim name := by
    decide +kernel
  rw [Arm.member, armFor, writtenName]
  split
  · rename_i reserved
    rw [bareName_append, bareName_eq (plain _ (List.contains_iff_mem.mp reserved))]
  · rfl

/-! ## 3. Dispatchers -/

variable {info : ClassInfo} {parameters : List Parameter}

/-- Without conflicts, the section of a parameter is entered for the name of its member exactly if
that is how the parameter is declared. -/
theorem entered_iff {lower : String → String} {i : Nat} {parameter : Parameter}
    (ascii : LowersAscii lower) (each : ∀ parameter ∈ parameters, Writable parameter)
    (distinct : (parameters.map (·.loweredName)).Nodup)
    (placed : parameters[i]? = some parameter) :
    .entered i ∈
        (runProgram lower (dispatcherProgram parameters) (memberOf parameter.name)).effects ↔
      memberOf parameter.name = parameter.name := by
  have inside : i < parameters.length := (List.getElem?_eq_some_iff.mp placed).1
  have letters := toNat_lt_of_isIdentifier (each _ (List.mem_of_getElem? placed)).1
  constructor
  · intro entered
    by_cases known : memberOf parameter.name ∈ parameters.map (·.name)
    · -- the first switch enters the section of the parameter that has the name
      obtain ⟨other, present, named⟩ := List.mem_map.mp known
      obtain ⟨j, placed'⟩ := List.mem_iff_getElem?.mp present
      rw [← named, runProgram_of_name (nodup_name distinct) placed'] at entered
      obtain rfl : i = j := by simpa [assignment] using entered
      rw [← named, Option.some.inj (placed'.symm.trans placed)]
    · by_cases lowered : lower (memberOf parameter.name) ∈ parameters.map (·.loweredName)
      · -- the second switch enters the section of the parameter that has the lowered name
        obtain ⟨other, present, same⟩ := List.mem_map.mp lowered
        obtain ⟨j, placed'⟩ := List.mem_iff_getElem?.mp present
        rw [runProgram_of_loweredName known distinct placed' same.symm] at entered
        obtain rfl : i = j := by simpa [assignment, Nat.ne_of_lt inside] using entered
        obtain rfl : other = parameter := Option.some.inj (placed'.symm.trans placed)
        rw [ascii _ fun c hc => letters c ((sublist_memberOf _).subset hc)] at same
        exact (lowercase_eq_iff letters (sublist_memberOf _)).mp same.symm
      · -- both switches go on at their defaults
        rw [runProgram_of_unknown known lowered] at entered
        exact absurd entered (by simp [Nat.ne_of_lt inside])
  · intro same
    rw [same, runProgram_of_name (nodup_name distinct) placed]
    exact List.mem_cons_self

/-- **Labels and members.**  A plan has one arm in each tier for each parameter, in order, and both
assign one member.  The exact label is the name of the member, and the lowered label that name in
lower case, exactly if the parameter's name is not verbatim; the labels of a verbatim name have an
`@` before that.  Accordingly, in the dispatcher that is emitted, the section of a parameter is
entered for the name of its member exactly if the parameter is declared by it, with no `@` in front
and no line end, as long as no two parameters are in conflict. -/
theorem build_labels {plan : Plan} (built : Plan.build info parameters = .ok plan) :
    plan.exactArms.length = parameters.length ∧ plan.loweredArms.length = parameters.length ∧
      (∀ (i : Nat) (parameter : Parameter), parameters[i]? = some parameter →
        ∃ exact lowered : Arm,
          plan.exactArms[i]? = some exact ∧ plan.loweredArms[i]? = some lowered ∧
          lowered.target = exact.target ∧
          (exact.text? = some exact.member ↔ ¬IsVerbatim parameter.name) ∧
          (lowered.text? = some (Text.lowercase exact.member) ↔ ¬IsVerbatim parameter.name) ∧
          (IsVerbatim parameter.name →
            exact.text? = some ("@" ++ exact.member) ∧
              lowered.text? = some ("@" ++ Text.lowercase exact.member))) ∧
      ∃ program, programOf? (implementationText plan) = some program ∧
        ∀ lower, LowersAscii lower → ConflictGroup.ofParameters parameters = [] →
          ∀ (i : Nat) (parameter : Parameter), parameters[i]? = some parameter →
            (.entered i ∈ (runProgram lower program (memberOf parameter.name)).effects ↔
              ¬IsVerbatim parameter.name ∧ parameter.name.toList.getLast? ≠ some '\n') := by
  obtain ⟨writable, each, rfl⟩ := build_eq_ok_iff.mp built
  refine ⟨List.length_map _, List.length_map _, ?labels, dispatcherProgram parameters,
    programOf?_implementationText writable each, ?sections⟩
  case labels =>
    intro i parameter placed
    have letters := toNat_lt_of_isIdentifier (each _ (List.mem_of_getElem? placed)).1
    refine ⟨armFor parameter.name parameter, armFor parameter.loweredName parameter,
      by simp [planOf, placed], by simp [planOf, placed], rfl, ?_, ?_, fun verbatim => ?_⟩
    · rw [text?_armFor, member_armFor, Option.some.injEq, eq_comm, bareName_eq_iff]
    · rw [text?_armFor, member_armFor, Option.some.injEq, eq_comm, ← bareName_eq_iff]
      exact lowercase_eq_iff letters (sublist_bareName _)
    · rw [text?_armFor, text?_armFor, member_armFor, append_bareName verbatim,
        ← lowercase_of_isVerbatim letters verbatim]
      exact ⟨rfl, rfl⟩
  case sections =>
    intro lower ascii free i parameter placed
    rw [entered_iff ascii each ((ofParameters_eq_nil_iff parameters).mp free) placed,
      memberOf_eq_iff]

namespace Example

/-- A plain name, a keyword and a verbatim name. -/
def named : List Parameter :=
  [parameter "Title" "string", parameter "class" "int?", parameter "@event" "string"]

theorem writable_named : ∀ parameter ∈ named, Writable parameter := by
  refine List.forall_mem_cons.mpr ⟨⟨by decide, by decide, by decide⟩,
    List.forall_mem_cons.mpr ⟨⟨by decide, by decide, by decide⟩,
      List.forall_mem_singleton.mpr ⟨by decide, by decide, by decide⟩⟩⟩

end Example

/-- The exact label of the keyword is the name of its member; that of the verbatim name is not. -/
theorem build_labels_named :
    ∃ plan keyword event, Plan.build Example.page Example.named = .ok plan ∧
      plan.exactArms[1]? = some keyword ∧ keyword.text? = some keyword.member ∧
      plan.exactArms[2]? = some event ∧ event.text? = some ("@" ++ event.member) := by
  have built := build_eq_ok_iff.mpr ⟨Example.writable_page, Example.writable_named, rfl⟩
  obtain ⟨-, -, labels, -⟩ := build_labels built
  obtain ⟨keyword, -, second, -, -, same, -, -⟩ := labels 1 (Example.parameter "class" "int?") rfl
  obtain ⟨event, _, third, -, -, -, -, apart⟩ := labels 2 (Example.parameter "@event" "string") rfl
  exact ⟨_, keyword, event, built, second, same.mpr (by decide), third, (apart (by decide)).1⟩

namespace Example

/-- A class without a namespace and type parameters. -/
def global : ClassInfo := ⟨"Page", "", .classKind, [], ["Page"]⟩

theorem writable_global : global.Writable :=
  ⟨.inl rfl, by decide, List.forall_mem_nil _⟩

end Example

/-- A parameter that is declared as `@class` assigns the member `class`, and neither label is the
name of that member; the name `class` is refused. -/
theorem build_labels_keep_at :
    ∃ plan exact lowered program,
      Plan.build Example.global [Example.parameter "@class" "int"] = .ok plan ∧
      plan.exactArms = [exact] ∧ plan.loweredArms = [lowered] ∧ exact.member = "class" ∧
      exact.text? = some "@class" ∧ lowered.text? = some "@class" ∧
      programOf? (implementationText plan) = some program ∧
      runProgram Text.lowercase program "class" =
        ⟨[.entered 1, .entered 1, .raised "ArgumentException"], .raised⟩ := by
  have each : ∀ p ∈ [Example.parameter "@class" "int"], Writable p :=
    List.forall_mem_singleton.mpr ⟨by decide, by decide, by decide⟩
  have lowered : Text.lowercase "@class" = "@class" := by decide +kernel
  have itself : Text.lowercase "class" = "class" := by decide +kernel
  have labels : [Example.parameter "@class" "int"].map (·.loweredName) = ["@class"] :=
    congrArg (fun label => [label]) lowered
  refine ⟨_, _, _, _, build_eq_ok_iff.mpr ⟨Example.writable_global, each, rfl⟩, rfl, rfl, ?_,
    text?_armFor _ _, (text?_armFor _ _).trans (congrArg some lowered),
    programOf?_implementationText Example.writable_global each, ?_⟩
  · rw [member_armFor]
    decide +kernel
  · refine runProgram_of_unknown (by decide) ?_
    rw [labels, itself]
    decide

end ComponentPasses.Dispatch
