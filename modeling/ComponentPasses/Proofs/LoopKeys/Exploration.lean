import Mathlib.Data.List.Dedup

/-!
# Exploring things once by key

A depth-first exploration meets things one after the other.  Each thing has a key, and each thing
leads to further things, which are met as soon as it is entered; a thing whose key was entered
before is passed over.  `Explores` says so as a relation, with the **trail** of the things entered.

Two things of one key need not lead to the same further things, and then what is entered depends on
which of them is met first.  Where things of one key always lead to the same keys, the order does
not matter: an exploration enters exactly the keys that can be reached (`mem_keys_iff`), each once
(`nodup_keys`), so explorations from the same roots in different orders enter the same keys
(`keys_perm`).
-/

namespace ComponentPasses

variable {α β : Type} {key : α → Nat} {inner : α → List α}

/-! ## 1. Reachability and explorations -/

/-- The things that the roots lead to, the roots included. -/
inductive Reached (inner : α → List α) (roots : List α) : α → Prop
  | root {a : α} : a ∈ roots → Reached inner roots a
  | inner {a b : α} : Reached inner roots a → b ∈ inner a → Reached inner roots b

/-- `Explores key inner entered met entered' trail`: meeting the things in order, with the keys
`entered` entered before, enters the things of the trail and leaves the keys `entered'`. -/
inductive Explores (key : α → Nat) (inner : α → List α) :
    List Nat → List α → List Nat → List α → Prop
  | done (entered : List Nat) : Explores key inner entered [] entered []
  | pass {entered entered' : List Nat} {a : α} {rest trail : List α} :
      key a ∈ entered → Explores key inner entered rest entered' trail →
        Explores key inner entered (a :: rest) entered' trail
  | enter {entered between entered' : List Nat} {a : α} {rest below trail : List α} :
      key a ∉ entered → Explores key inner (key a :: entered) (inner a) between below →
        Explores key inner between rest entered' trail →
          Explores key inner entered (a :: rest) entered' (a :: below ++ trail)

namespace Reached

variable {roots roots' : List α} {a : α}

/-- What is reached is in every set that holds the roots and what its members lead to. -/
theorem mem_of_closed {things : List α} (reached : Reached inner roots a)
    (holdsRoots : ∀ b ∈ roots, b ∈ things)
    (closed : ∀ b ∈ things, ∀ c ∈ inner b, c ∈ things) : a ∈ things := by
  induction reached with
  | root h => exact holdsRoots _ h
  | inner _ h ih => exact closed _ ih _ h

theorem mono (reached : Reached inner roots a) (h : roots ⊆ roots') :
    Reached inner roots' a := by
  induction reached with
  | root hr => exact .root (h hr)
  | inner _ hi ih => exact .inner ih hi

/-- What is reached from things that are reached is reached. -/
theorem trans (reached : Reached inner roots' a) (h : ∀ b ∈ roots', Reached inner roots b) :
    Reached inner roots a := by
  induction reached with
  | root hr => exact h _ hr
  | inner _ hi ih => exact .inner ih hi

end Reached

/-- If things of one key that can be reached give the same, then the key says what they give. -/
theorem exists_given {roots : List α} {give : α → β} (nothing : β)
    (same : ∀ a b, Reached inner roots a → Reached inner roots b → key a = key b →
      give a = give b) :
    ∃ given : Nat → β, ∀ a, Reached inner roots a → give a = given (key a) := by
  classical
  refine ⟨fun k =>
    if known : ∃ a, Reached inner roots a ∧ key a = k then give known.choose else nothing, ?_⟩
  intro a ha
  have known : ∃ b, Reached inner roots b ∧ key b = key a := ⟨a, ha, rfl⟩
  simp only [dif_pos known]
  exact same a _ ha known.choose_spec.1 known.choose_spec.2.symm

namespace Explores

variable {entered entered' : List Nat} {met met' trail trail' : List α}

/-- Explorations one after the other are one exploration. -/
theorem append {between : List Nat} (first : Explores key inner entered met between trail)
    (second : Explores key inner between met' entered' trail') :
    Explores key inner entered (met ++ met') entered' (trail ++ trail') := by
  induction first with
  | done => exact second
  | pass seen _ ih => exact .pass seen (ih second)
  | enter fresh below _ _ ih =>
    rw [List.append_assoc]
    exact .enter fresh below (ih second)

/-! ## 2. What an exploration enters -/

/-- The keys of the trail are put before those entered earlier, the last first. -/
theorem entered_eq (h : Explores key inner entered met entered' trail) :
    entered' = (trail.map key).reverse ++ entered := by
  induction h with
  | done => rfl
  | pass _ _ ih => exact ih
  | enter _ _ _ ihBelow ihRest => simp [ihRest, ihBelow]

/-- No key is entered twice. -/
theorem nodup_entered (h : Explores key inner entered met entered' trail)
    (once : entered.Nodup) : entered'.Nodup := by
  induction h with
  | done => exact once
  | pass _ _ ih => exact ih once
  | enter fresh _ _ ihBelow ihRest => exact ihRest (ihBelow (List.nodup_cons.mpr ⟨fresh, once⟩))

theorem nodup_keys (h : Explores key inner [] met entered' trail) : (trail.map key).Nodup := by
  have := h.nodup_entered List.nodup_nil
  rwa [h.entered_eq, List.append_nil, List.nodup_reverse] at this

theorem subset_entered (h : Explores key inner entered met entered' trail) :
    entered ⊆ entered' := by
  rw [h.entered_eq]
  exact List.subset_append_right _ _

/-- Everything met is entered sooner or later, if only by its key. -/
theorem key_mem_of_mem_met (h : Explores key inner entered met entered' trail) :
    ∀ a ∈ met, key a ∈ entered' := by
  induction h with
  | done => simp
  | pass seen rest ih =>
    intro b hb
    rcases List.mem_cons.mp hb with rfl | hb
    · exact rest.subset_entered seen
    · exact ih b hb
  | enter fresh below rest _ ihRest =>
    intro b hb
    rcases List.mem_cons.mp hb with rfl | hb
    · exact rest.subset_entered (below.subset_entered List.mem_cons_self)
    · exact ihRest b hb

/-- What a thing of the trail leads to is entered too. -/
theorem key_mem_of_mem_inner (h : Explores key inner entered met entered' trail) :
    ∀ a ∈ trail, ∀ b ∈ inner a, key b ∈ entered' := by
  induction h with
  | done => simp
  | pass _ _ ih => exact ih
  | enter fresh below rest ihBelow ihRest =>
    intro a ha b hb
    rcases List.mem_append.mp ha with ha | ha
    · refine rest.subset_entered ?_
      rcases List.mem_cons.mp ha with rfl | ha
      · exact below.key_mem_of_mem_met b hb
      · exact ihBelow a ha b hb
    · exact ihRest a ha b hb

/-- Only what can be reached is entered. -/
theorem reached_of_mem_trail (h : Explores key inner entered met entered' trail) :
    ∀ a ∈ trail, Reached inner met a := by
  induction h with
  | done => simp
  | pass _ _ ih => exact fun a ha => (ih a ha).mono (List.subset_cons_self _ _)
  | @enter _ _ _ root _ _ _ _ _ _ ihBelow ihRest =>
    intro a ha
    rcases List.mem_append.mp ha with ha | ha
    · rcases List.mem_cons.mp ha with rfl | ha
      · exact .root List.mem_cons_self
      · exact (ihBelow a ha).trans fun b hb => .inner (.root List.mem_cons_self) hb
    · exact (ihRest a ha).mono (List.subset_cons_self _ _)

/-! ## 3. Where the order does not matter -/

/-- Things of one key that can be reached lead to things of the same keys. -/
def Alike (key : α → Nat) (inner : α → List α) (roots : List α) : Prop :=
  ∀ a b, Reached inner roots a → Reached inner roots b → key a = key b →
    ∀ c ∈ inner a, ∃ d ∈ inner b, key d = key c

/-- Then exactly the keys of what can be reached are entered. -/
theorem mem_keys_iff (h : Explores key inner [] met entered' trail)
    (alike : Alike key inner met) (k : Nat) :
    k ∈ trail.map key ↔ ∃ a, Reached inner met a ∧ key a = k := by
  have keys : ∀ n, n ∈ entered' ↔ n ∈ trail.map key := by
    intro n
    rw [h.entered_eq, List.append_nil, List.mem_reverse]
  constructor
  · intro hk
    obtain ⟨a, ha, rfl⟩ := List.mem_map.mp hk
    exact ⟨a, h.reached_of_mem_trail a ha, rfl⟩
  · rintro ⟨a, reached, rfl⟩
    rw [← keys]
    induction reached with
    | root hr => exact h.key_mem_of_mem_met _ hr
    | @inner a b reached hb ih =>
      -- the thing that was entered under the key of `a` leads to the key of `b` as well
      obtain ⟨c, hc, same⟩ := List.mem_map.mp ((keys _).mp ih)
      obtain ⟨d, hd, hdb⟩ := alike a c reached (h.reached_of_mem_trail c hc) same.symm b hb
      rw [← hdb]
      exact h.key_mem_of_mem_inner c hc d hd

/-- Then explorations from the same roots, met in any order, enter the same keys. -/
theorem keys_perm {entered₂ : List Nat} {met₂ trail₂ : List α}
    (h : Explores key inner [] met entered' trail)
    (h₂ : Explores key inner [] met₂ entered₂ trail₂)
    (alike : Alike key inner met) (sameRoots : ∀ a, a ∈ met ↔ a ∈ met₂) :
    (trail.map key).Perm (trail₂.map key) := by
  have reached : ∀ a, Reached inner met₂ a ↔ Reached inner met a := fun a =>
    ⟨fun r => r.mono fun b hb => (sameRoots b).mpr hb, fun r => r.mono fun b hb =>
      (sameRoots b).mp hb⟩
  have alike₂ : Alike key inner met₂ := fun a b ha hb =>
    alike a b ((reached a).mp ha) ((reached b).mp hb)
  refine (List.perm_ext_iff_of_nodup h.nodup_keys h₂.nodup_keys).mpr fun k => ?_
  rw [h.mem_keys_iff alike, h₂.mem_keys_iff alike₂]
  simp only [reached]

/-- What is gathered along the trail is what the keys give, if things give what their keys do. -/
theorem flatMap_trail_eq (h : Explores key inner entered met entered' trail) {give : α → List β}
    {given : Nat → List β} (same : ∀ a, Reached inner met a → give a = given (key a)) :
    trail.flatMap give = (trail.map key).flatMap given := by
  rw [List.flatMap_map]
  exact List.flatMap_congr fun a ha => same a (h.reached_of_mem_trail a ha)

end Explores

end ComponentPasses
