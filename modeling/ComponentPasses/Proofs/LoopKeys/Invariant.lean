import ComponentPasses.Proofs.LoopKeys.Execution

/-!
# What holds throughout a run

What a step of the loop analysis can do is said here once.  A stretch comes from one before it in
three ways (`Stretch.Leads`): as the rest of it, as the body of a loop in it, or as the body of a
helper called in it.  A loop is entered only where none at its position was entered before, and each
remark has its cause (`Caused`).  A state in which all this has held so far is `Sound`.

A property of stretches that is kept in the three ways is carried along: what is left in any state
that a run reaches has it, and so has every stretch in which a loop was met or a call refused
(`Sound.of_reaches`).
-/

namespace ComponentPasses.LoopKeys

open Snapshot (Location LoopKind Statement Expression)

open StateTransition (Reaches)

variable {context : Context}

/-! ## 1. Stretches and causes -/

/-- What looking through a stretch leads to: the rest after its first statement, the body of a loop
that stands first, or the body of a helper that is called first and followed. -/
inductive Stretch.Leads (context : Context) : Stretch → Stretch → Prop
  | rest {path : List String} {position : Nat} {statement : Statement} {rest : List Statement} :
      Leads context ⟨path, position, statement :: rest⟩ ⟨path, position + statement.count, rest⟩
  | loop {path : List String} {position : Nat} {kind : LoopKind} {keyword : Location}
      {body rest : List Statement} :
      Leads context ⟨path, position, .loop kind keyword (.block body) :: rest⟩
        ⟨path, position + 2, body⟩
  | helper {path : List String} {position start : Nat} {receiver : Option String}
      {name identity : String} {arguments : List Expression} {symbol : Option String}
      {location : Location} {body rest : List Statement} :
      context.helperCall path symbol = .entered identity start body →
        Leads context
          ⟨path, position,
            .expression (.invocation receiver name arguments symbol location) :: rest⟩
          ⟨identity :: path, start, body⟩

/-- A property of stretches that passes to all they lead to. -/
def Kept (context : Context) (P : Stretch → Prop) : Prop :=
  ∀ stretch next, P stretch → stretch.Leads context next → P next

/-- Why a remark is made: a loop is entered, a call in a stretch with the property is not followed,
or a loop that was entered is reported. -/
inductive Caused (context : Context) (P : Stretch → Prop) (entered : List Site) : Remark → Prop
  | entering {site : Site} (kind : LoopKind) :
      site ∈ entered → Caused context P entered (loopRemark kind site.keyword)
  | refusing {stretch : Stretch} {symbol : Option String} {refusal : Refusal} (name : String) :
      P stretch → context.helperCall stretch.path symbol = .refused refusal →
        Caused context P entered (helperRemark name refusal)
  | reporting {site : Site} :
      site ∈ entered → Caused context P entered (.reported (.keylessLoop site.keyword))

/-- What holds between any two steps: all that is left has the property, each open walk is that of a
loop entered, loops were met in stretches with the property, each at most once, and each remark has
its cause. -/
structure Sound (context : Context) (P : Stretch → Prop) (state : State) : Prop where
  outer : ∀ stretch ∈ state.outer, P stretch
  left : ∀ walk ∈ state.walks, ∀ stretch ∈ walk.left, P stretch
  own : ∀ walk ∈ state.walks, walk.site ∈ state.entered
  met : ∀ site ∈ state.entered, ∃ kind rest,
    P ⟨site.path, site.position, .loop kind site.keyword (.block site.body) :: rest⟩
  once : (state.entered.map Site.position).Nodup
  caused : ∀ remark ∈ state.remarks, Caused context P state.entered remark

namespace Caused

variable {P : Stretch → Prop}

theorem mono {entered entered' : List Site} {remark : Remark}
    (caused : Caused context P entered remark) (more : entered ⊆ entered') :
    Caused context P entered' remark := by
  cases caused with
  | entering kind h => exact .entering kind (more h)
  | refusing name h refused => exact .refusing name h refused
  | reporting h => exact .reporting (more h)

end Caused

/-! ## 2. Steps keep a state sound -/

namespace Sound

variable {P : Stretch → Prop} {state : State}

theorem remark (sound : Sound context P state) {remark : Remark}
    (caused : Caused context P state.entered remark) :
    Sound context P (state.remark remark) :=
  { sound with
    caused := fun other made => by
      rcases List.mem_append.mp made with made | made
      · exact sound.caused other made
      · exact List.mem_singleton.mp made ▸ caused }

theorem inWalk (sound : Sound context P state) {walk : OpenWalk}
    (left : ∀ stretch ∈ walk.left, P stretch) (own : walk.site ∈ state.entered) :
    Sound context P (state.inWalk walk) :=
  { sound with
    left := List.forall_mem_cons.mpr ⟨left, sound.left⟩
    own := List.forall_mem_cons.mpr ⟨own, sound.own⟩ }

/-- Meeting a loop enters it where none at its position was entered. -/
theorem meet (sound : Sound context P state) (kept : Kept context P) {kind : LoopKind}
    {site : Site} {rest : List Statement}
    (here : P ⟨site.path, site.position, .loop kind site.keyword (.block site.body) :: rest⟩) :
    Sound context P (state.meet kind site) := by
  by_cases known : site.position ∈ state.entered.map Site.position
  · rwa [State.meet_of_known kind known]
  · rw [State.meet_of_fresh kind known]
    have more : state.entered ⊆ state.entered ++ [site] := List.subset_append_left _ _
    have now : site ∈ state.entered ++ [site] := List.mem_append_right _ (List.mem_singleton_self _)
    refine ⟨sound.outer, ?left, ?own, ?met, ?once, ?caused⟩
    case left =>
      refine List.forall_mem_cons.mpr ⟨?_, sound.left⟩
      exact List.forall_mem_singleton.mpr (kept _ _ here .loop)
    case own =>
      exact List.forall_mem_cons.mpr ⟨now, fun walk h => more (sound.own walk h)⟩
    case met =>
      refine List.forall_mem_append.mpr ⟨sound.met, ?_⟩
      exact List.forall_mem_singleton.mpr ⟨kind, rest, here⟩
    case once =>
      rw [List.map_append, List.map_singleton]
      exact (List.nodup_append_comm.mp (List.nodup_cons.mpr ⟨known, sound.once⟩))
    case caused =>
      refine List.forall_mem_append.mpr ⟨fun remark h => (sound.caused remark h).mono more, ?_⟩
      exact List.forall_mem_singleton.mpr (.entering kind now)

/-- What a statement comes to in a walk keeps the state sound. -/
theorem act (sound : Sound context P state) (kept : Kept context P) {walk : OpenWalk}
    (own : walk.site ∈ state.entered) {path : List String} {position : Nat}
    {statement : Statement} {rest : List Statement}
    (here : P ⟨path, position, statement :: rest⟩) (left : ∀ stretch ∈ walk.left, P stretch) :
    Sound context P (state.act walk (actionOf context path position statement)) := by
  have inside : ∀ machine, Sound context P (state.inWalk { walk with machine := machine }) :=
    fun machine => sound.inWalk left own
  unfold actionOf
  split
  · exact (inside walk.machine).meet kept here
  · split
    · split
      · rename_i follows
        refine sound.inWalk (List.forall_mem_cons.mpr ⟨?_, left⟩) own
        exact kept _ _ here (.helper follows)
      · rename_i refused
        exact (inside walk.machine).remark (.refusing _ here refused)
    · unfold State.act
      dsimp only
      split
      · exact (inside _).remark (.reporting own)
      · exact inside _
  · exact inside walk.machine

theorem stepWalk (sound : Sound context P state) (kept : Kept context P) {walk : OpenWalk}
    (all : ∀ stretch ∈ walk.left, P stretch) (own : walk.site ∈ state.entered) :
    Sound context P (stepWalk context state walk) := by
  unfold LoopKeys.stepWalk
  split
  · exact sound
  · rename_i left
    rw [left] at all
    exact sound.inWalk (List.forall_mem_cons.mp all).2 own
  · rename_i left
    rw [left] at all
    obtain ⟨here, later⟩ := List.forall_mem_cons.mp all
    refine sound.act kept ?_ here ?_
    · exact own
    · exact List.forall_mem_cons.mpr ⟨kept _ _ here .rest, later⟩

/-- A step keeps a state sound. -/
theorem step (sound : Sound context P state) (kept : Kept context P) {next : State}
    (moved : step context state = some next) : Sound context P next := by
  obtain ⟨outer, walks, entered, remarks⟩ := state
  match walks with
  | [] =>
    match outer with
    | [] => cases moved
    | ⟨path, position, []⟩ :: outer =>
      cases moved
      exact { sound with outer := (List.forall_mem_cons.mp sound.outer).2 }
    | ⟨path, position, statement :: rest⟩ :: outer =>
      cases moved
      obtain ⟨here, others⟩ := List.forall_mem_cons.mp sound.outer
      have advanced : Sound context P
          ⟨⟨path, position + statement.count, rest⟩ :: outer, [], entered, remarks⟩ :=
        { sound with outer := List.forall_mem_cons.mpr ⟨kept _ _ here .rest, others⟩ }
      unfold State.look
      split
      · exact advanced.meet kept here
      · exact advanced
  | ⟨site, machine, left⟩ :: walks =>
    obtain ⟨all, others⟩ := List.forall_mem_cons.mp sound.left
    obtain ⟨own, owns⟩ := List.forall_mem_cons.mp sound.own
    have around : Sound context P ⟨outer, walks, entered, remarks⟩ :=
      { sound with left := others, own := owns }
    cases moved
    exact around.stepWalk kept all own

/-- Every state that a run reaches is sound for a property that the stretches of its routines have
and that is kept. -/
theorem of_reaches (kept : Kept context P) {routines : List RenderRoutine}
    (starts : ∀ routine ∈ routines, P ⟨[], routine.position, routine.statements⟩)
    (reaches : Reaches (LoopKeys.step context) (.start routines) state) :
    Sound context P state := by
  induction reaches with
  | refl =>
    refine ⟨?_, ?_, ?_, ?_, List.nodup_nil, ?_⟩
    · exact List.forall_mem_map.mpr starts
    all_goals exact fun _ none => absurd none List.not_mem_nil
  | tail _ moved ih => exact ih.step kept moved

end Sound

end ComponentPasses.LoopKeys
