import TinderDinner.Protocol.Provenance

/-!
# The codes of the groups

No operation deletes a document: `collectGarbageId` has no caller. A code that was drawn once
stays in use, and `checkForMachInIds` goes on drawing while all ten thousand are.
-/

namespace TinderDinner

namespace Session

/-- A code that is drawn is one of ten thousand. -/
theorem range_of_checkForMachInIds {groupIds : List Int} {codes : List (Fin 10000)}
    {groupId : Int} (free : checkForMachInIds groupIds codes = some groupId) :
    1 ≤ groupId ∧ groupId ≤ 10000 := by
  have member := List.mem_of_find?_eq_some free
  rw [List.mem_map] at member
  obtain ⟨number, among, rfl⟩ := member
  obtain ⟨draw, _, rfl⟩ : ∃ draw ∈ codes, number = ((draw : Nat) : Int) := by simpa using among
  have bound := draw.isLt
  omega

/-- Nothing that is drawn is free where all codes are used. -/
theorem checkForMachInIds_of_full {groupIds : List Int}
    (full : ∀ code, 1 ≤ code → code ≤ 10000 → code ∈ groupIds) (codes : List (Fin 10000)) :
    checkForMachInIds groupIds codes = none := by
  cases drawn : checkForMachInIds groupIds codes with
  | none => rfl
  | some groupId =>
      obtain ⟨least, most⟩ := range_of_checkForMachInIds drawn
      have unused := List.find?_some drawn
      simp only [decide_eq_true_eq] at unused
      exact absurd (full groupId least most) unused

end Session

namespace Groups

/-- A write takes no document away. -/
theorem mem_write_of_mem {groups : Groups} {code : Int} (stored : code ∈ groups)
    (write : Int × DocumentWrite) : code ∈ groups.write write := by
  unfold Groups.write
  split
  · exact AList.mem_insert _ |>.mpr (.inr stored)
  · exact stored

/-- No list of writes takes a document away. -/
theorem mem_writes_of_mem {groups : Groups} {code : Int} (stored : code ∈ groups)
    (writes : List (Int × DocumentWrite)) : code ∈ writes.foldl Groups.write groups := by
  induction writes generalizing groups with
  | nil => exact stored
  | cons write later inductionHypothesis =>
      exact inductionHypothesis (mem_write_of_mem stored write)

/-- All codes have a document. -/
def Full (groups : Groups) : Prop := ∀ code, 1 ≤ code → code ≤ 10000 → code ∈ groups

end Groups

namespace DelayedNetwork

open Session

variable {Device : Type} [DecidableEq Device] {existing : Groups}

/-- A step takes no document away. -/
theorem mem_step {network next : DelayedNetwork Device} {action : Action Device}
    (taken : network.step action = some next) {code : Int} (stored : code ∈ network.groups) :
    code ∈ next.groups := by
  cases step_view taken with
  | goes | traps => exact stored
  | applied => exact Groups.mem_write_of_mem stored _
  | acknowledged => exact stored

/-- A code stays in use over every continuation. -/
theorem mem_steps {actions : List (Action Device)}
    {pair next : DelayedNetwork Device × List (Source Device)}
    (steps : (sourceSystem existing).Steps pair actions next) {code : Int}
    (stored : code ∈ pair.1.groups) : code ∈ next.1.groups := by
  induction steps with
  | refl => exact stored
  | step _ transition inductionHypothesis => exact mem_step transition.1 inductionHypothesis

/-- The groups that were created have a code of the range. -/
def InRange (said : List (Source Device)) : Prop :=
  ∀ device code number, .created device code number ∈ said → 1 ≤ code ∧ code ≤ 10000

omit [DecidableEq Device] in
/-- The codes that a step creates are drawn from the range. -/
theorem inRange_sources {said : List (Source Device)} (inRange : InRange said) (device : Device)
    (session : Session) (action : Session.Action) :
    InRange (said ++ sources device session action) := by
  intro creator code number member
  rcases List.mem_append.mp member with before | new
  · exact inRange creator code number before
  · unfold sources at new
    split at new
    · obtain ⟨groupId, drawn, same⟩ := List.mem_map.mp new
      cases same
      exact range_of_checkForMachInIds (Option.mem_toList.mp drawn)
    · obtain ⟨groupId, _, same⟩ := List.mem_map.mp new
      cases same
    · split at new
      · cases List.mem_singleton.mp new
      · cases new
    · cases new

/-- The codes that are created in a run are drawn from the range. -/
theorem inRange_runs {actions : List (Action Device)}
    {pair : DelayedNetwork Device × List (Source Device)}
    (runs : (sourceSystem existing).Runs actions pair) : InRange pair.2 := by
  refine runs.invariant (fun pair => InRange pair.2) ?_ ?_
  · rintro ⟨_, _⟩ ⟨rfl, rfl⟩ device code number member
    cases member
  · rintro ⟨network, said⟩ action ⟨next, more⟩ inRange ⟨taken, updated⟩
    obtain rfl : more = record network action next said := updated
    unfold record
    split
    · exact inRange_sources inRange _ _ _
    · exact inRange

/-- A code in use was in use before, or is one of the ten thousand. -/
theorem code_runs {actions : List (Action Device)}
    {pair : DelayedNetwork Device × List (Source Device)}
    (runs : (sourceSystem existing).Runs actions pair) {code : Int}
    (stored : code ∈ pair.1.groups) : code ∈ existing ∨ (1 ≤ code ∧ code ≤ 10000) := by
  obtain ⟨group, found⟩ := Option.isSome_iff_exists.mp (AList.lookup_isSome.mpr stored)
  have sourced := (grounded_runs runs).versions pair.1.groups List.mem_cons_self code group found
  obtain ⟨old, before, _⟩ | ⟨device, created⟩ := sourced.cards
  · left
    rw [← AList.lookup_isSome, before]
    rfl
  · exact .inr (inRange_runs runs device code _ created)

/-- A document that is there at the start is there in every state. -/
theorem mem_runs {actions : List (Action Device)}
    {pair : DelayedNetwork Device × List (Source Device)}
    (runs : (sourceSystem existing).Runs actions pair) {code : Int} (stored : code ∈ existing) :
    code ∈ pair.1.groups := by
  refine runs.invariant (fun pair => code ∈ pair.1.groups) ?_ ?_
  · rintro ⟨_, _⟩ ⟨rfl, rfl⟩
    exact stored
  · intro before action after inside transition
    exact mem_step transition.1 inside

/-- An answer that is up to date does not let a device create a group where all codes are in
use, whatever it draws. -/
theorem answered_of_full {network : DelayedNetwork Device} (full : network.groups.Full)
    (device : Device) (counters : Int × Int) (codes : List (Fin 10000)) (number : Int)
    (draws : Nat → Nat) :
    network.step (.answered device .usedIds 0 counters codes number draws) = none := by
  have all : ∀ code, 1 ≤ code → code ≤ 10000 →
      code ∈ ((network.pending device).foldl Groups.write network.groups).keys := by
    intro code least most
    exact AList.mem_keys.mp (Groups.mem_writes_of_mem (full code least most) _)
  cases moved : network.step (.answered device .usedIds 0 counters codes number draws) with
  | none => rfl
  | some next =>
      simp only [step, taken, view, versions, List.getElem?_cons_zero, Option.map_some,
        Option.bind_some, Option.ite_none_left_eq_some, Option.map_eq_some_iff] at moved
      obtain ⟨_, result, performed, rfl⟩ := moved
      cases result with
      | error trap =>
          obtain ⟨⟨⟩, _⟩ | ⟨⟨⟩, _⟩ := Session.perform_eq_error performed
      | ok session =>
          cases Session.step_view (Session.step_eq_some.mpr performed) with
          | usedIdsFailed _ empty =>
              obtain absent | nothing := empty
              · cases absent
              · have some := all 1 (by decide) (by decide)
                rw [Option.some.inj nothing] at some
                cases some
          | usedIdsReply _ _ free =>
              rw [checkForMachInIds_of_full all] at free
              cases free

/-- No code is ever given back. Once all ten thousand are in use, the codes in use stay the
same for ever, and no device that reads them as they are gets one: the drawing does not
end. -/
theorem codes_exhausted {actions later : List (Action Device)}
    {pair next : DelayedNetwork Device × List (Source Device)}
    (runs : (sourceSystem existing).Runs actions pair)
    (steps : (sourceSystem existing).Steps pair later next) (full : pair.1.groups.Full) :
    (∀ code, code ∈ next.1.groups ↔ code ∈ pair.1.groups) ∧
      ∀ device counters codes number draws,
        next.1.step (.answered device .usedIds 0 counters codes number draws) = none := by
  constructor
  · intro code
    constructor
    · intro stored
      obtain before | ⟨least, most⟩ := code_runs (runs.append steps) stored
      · exact mem_runs runs before
      · exact full code least most
    · exact mem_steps steps
  · exact answered_of_full fun code least most => mem_steps steps (full code least most)

/-- The groups with the first codes. -/
def firstCodes (count : Nat) : Groups :=
  (List.range count).foldl (fun groups (code : Nat) =>
    groups.write ((code : Int) + 1, FirebaseManager.createGroup 5)) ∅

/-- Creating a group for each code puts all of them there. -/
theorem mem_createEach (codes : List Nat) (groups : Groups) {code : Nat}
    (among : code ∈ codes ∨ (code : Int) + 1 ∈ groups) :
    (code : Int) + 1 ∈ codes.foldl (fun groups (code : Nat) =>
      groups.write ((code : Int) + 1, FirebaseManager.createGroup 5)) groups := by
  induction codes generalizing groups with
  | nil =>
      obtain none | stored := among
      · cases none
      · exact stored
  | cons first rest inductionHypothesis =>
      apply inductionHypothesis
      obtain listed | stored := among
      · rcases List.mem_cons.mp listed with rfl | later
        · exact .inr (AList.mem_insert _ |>.mpr (.inl rfl))
        · exact .inl later
      · exact .inr (Groups.mem_write_of_mem stored _)

/-- The first ten thousand codes are the whole range. -/
theorem full_firstCodes {count : Nat} (enough : 10000 ≤ count) : (firstCodes count).Full := by
  intro code least most
  have same : ((code - 1).toNat : Int) + 1 = code := by omega
  have early : (code - 1).toNat < count := by omega
  rw [← same]
  exact mem_createEach (List.range count) ∅ (.inl (List.mem_range.mpr early))

/-- A device presses Create where there are ten thousand groups. -/
theorem codes_exhausted_firstCodes :
    ∃ existing : Groups, existing.Full ∧
      ∃ next : DelayedNetwork Network.Party × List (Source Network.Party),
        (sourceSystem existing).Runs
          [.acts .host .switchPressed, .acts .host .connectCreatePressed] next ∧
        next.1.step (.answered .host .usedIds 0 (0, 0) [⟨17, by decide⟩] 5 id) = none := by
  obtain ⟨existing, full⟩ : ∃ existing : Groups, existing.Full :=
    ⟨firstCodes 10000, full_firstCodes (Nat.le_refl _)⟩
  have start : (sourceSystem existing).Runs []
      ((launched existing, []) : DelayedNetwork Network.Party × List (Source Network.Party)) :=
    .initial ⟨rfl, rfl⟩
  have presses : (sourceSystem existing).Steps (launched existing, [])
      [.acts Network.Party.host .switchPressed, .acts .host .connectCreatePressed] _ :=
    LabelledSystem.track_steps_of_replay rfl
  refine ⟨existing, full, _, start.append presses, ?_⟩
  exact (codes_exhausted start presses full).2 .host (0, 0) _ 5 id

end DelayedNetwork

end TinderDinner
