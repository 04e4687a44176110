import TinderDinner.Collections.WriteBehind
import TinderDinner.Model.DatabaseManager

/-!
# The preload over many launches

What survives a launch are the saved dinners and the flag `First Launch`. The preload
saves after each dinner and stores the flag at the end, and a launch that does not find
the flag begins with the first dinner again.
-/

namespace TinderDinner.PreloadManager

/-- What one installation keeps from launch to launch. -/
structure Installation where
  rows : List Dinner
  /-- `First Launch` in the user defaults, which is set when the preload is over. -/
  firstLaunch : Bool

/-- How the saves of one launch end, and after how many of them it is killed, if it is
killed before the flag is stored. Of a launch that is not, `savedLater` tells whether
`saveContext` succeeds when the app enters the background. -/
structure Launch where
  saves : Nat → Bool
  killedAfter : Option Nat
  savedLater : Bool

/-- The managed objects made of `dinnerList`. -/
def newDinners (rows : List Dinner) : List Dinner :=
  dinnerList.mapIdx fun index dinner => ⟨rows.length + index, dinner.2, some dinner.1⟩

/-- How many dinners are inserted and saved, or not saved. A dinner that is inserted when
the launch is killed is lost. -/
def Launch.attempts (launch : Launch) : Nat :=
  match launch.killedAfter with
  | some executed => min executed dinnerList.length
  | none => dinnerList.length

/-- The managed object context after `preLoadDinners`, as far as it gets. -/
def preLoadDinnersEach (rows : List Dinner) (launch : Launch) : WriteBehind Dinner :=
  WriteBehind.insertEach ⟨rows, []⟩ launch.saves ((newDinners rows).take launch.attempts)

/-- `checkIfPreloaded`: preloads unless the flag is set, and sets it unless the app is killed
before the end. -/
def checkIfPreloaded (installation : Installation) (launch : Launch) : Installation :=
  if installation.firstLaunch then installation
  else
    { rows := (preLoadDinnersEach installation.rows launch).saved
      firstLaunch := launch.killedAfter.isNone }

/-- A whole launch: what is pending after the preload may be saved later. -/
def afterLaunch (installation : Installation) (launch : Launch) : Installation :=
  if !installation.firstLaunch && launch.killedAfter.isNone && launch.savedLater then
    { rows := ((preLoadDinnersEach installation.rows launch).save true).saved
      firstLaunch := true }
  else checkIfPreloaded installation launch

/-- The installation after the given launches of a fresh one. -/
def afterLaunches (launches : List Launch) : Installation :=
  launches.foldl afterLaunch ⟨[], false⟩

/-- After the first launches no id is twice in the store, and where a preload is over,
every dinner is there. -/
structure PreloadedOnce (launches : List Launch) : Prop where
  distinct : ∀ before after, launches = before ++ after →
    ((afterLaunches before).rows.map (·.uniqueID)).Nodup
  complete : ∀ before launch after, launches = before ++ launch :: after →
    launch.killedAfter = none → ∀ dinner ∈ dinnerList,
      ∃ row ∈ (checkIfPreloaded (afterLaunches before) launch).rows,
        row.allergens = some dinner.1 ∧ row.uniqueID = dinner.2

/-- The launches that do not find the flag. -/
def preloading : List Launch → List Launch
  | [] => []
  | launch :: launches =>
      if launch.killedAfter.isNone then [launch] else launch :: preloading launches

/-- Some save of the launch succeeds. -/
def Launch.savesSome (launch : Launch) : Bool :=
  (List.range launch.attempts).any launch.saves ||
    (launch.killedAfter.isNone && launch.savedLater)

/-- The last save of the preload is made, and succeeds. -/
def Launch.savesAll (launch : Launch) : Bool :=
  launch.attempts = dinnerList.length && launch.saves (dinnerList.length - 1)

/-! ### One launch -/

/-- How many dinners of `dinnerList` are saved when the preload is over or killed. -/
def Launch.kept (launch : Launch) : Nat := WriteBehind.lastSaved launch.saves launch.attempts

/-- How many are saved at the end of the launch. -/
def Launch.persisted (launch : Launch) : Nat :=
  if launch.killedAfter.isNone && launch.savedLater then dinnerList.length else launch.kept

/-- A launch attempts at most one save for each dinner of the list. -/
theorem Launch.attempts_le (launch : Launch) : launch.attempts ≤ dinnerList.length := by
  unfold attempts
  split
  · exact Nat.min_le_right _ _
  · exact Nat.le_refl _

/-- Something reaches the store exactly when some attempted save succeeds. -/
theorem Launch.persisted_pos_iff (launch : Launch) :
    0 < launch.persisted ↔ launch.savesSome = true := by
  unfold persisted savesSome kept
  rw [Bool.or_eq_true, ← WriteBehind.lastSaved_pos_iff]
  cases launch.killedAfter.isNone && launch.savedLater <;> simp [dinnerList]

/-- The whole list is kept exactly when the last save of it succeeds. -/
theorem Launch.kept_eq_length_iff (launch : Launch) :
    launch.kept = dinnerList.length ↔ launch.savesAll = true := by
  have bound := WriteBehind.lastSaved_le launch.saves launch.attempts
  have few := launch.attempts_le
  unfold kept savesAll
  by_cases all : launch.attempts = dinnerList.length
  · rw [all, Bool.and_eq_true, decide_eq_true_iff]
    have last : WriteBehind.lastSaved launch.saves (4 + 1) = 4 + 1 ↔ launch.saves 4 = true :=
      WriteBehind.lastSaved_eq_succ_iff
    exact last.trans (iff_and_self.mpr fun _ => rfl)
  · rw [decide_eq_false all, Bool.false_and]
    constructor
    · intro everything
      omega
    · intro impossible
      cases impossible

/-- The attributes of a dinner. -/
def attributes (dinner : Dinner) : Option String × Int := (dinner.allergens, dinner.uniqueID)

/-- The attributes of the dinners of `dinnerList`. -/
def preloaded : List (Option String × Int) := dinnerList.map fun dinner => (some dinner.1, dinner.2)

/-- The attributes of the dinners made do not depend on what is in the store. -/
theorem newDinners_attributes (rows : List Dinner) :
    (newDinners rows).map attributes = preloaded := rfl

/-- A launch adds the dinners up to its last successful save, since each save writes all that is
pending. -/
theorem preLoadDinnersEach_saved (rows : List Dinner) (launch : Launch) :
    (preLoadDinnersEach rows launch).saved =
      rows ++ (newDinners rows).take launch.kept := by
  have few : launch.attempts ≤ (newDinners rows).length := launch.attempts_le
  have bound := WriteBehind.lastSaved_le launch.saves launch.attempts
  rw [preLoadDinnersEach, WriteBehind.insertEach_saved, List.length_take, Nat.min_eq_left few,
    List.take_take, Nat.min_eq_left bound, Launch.kept]

/-- With every save this is the preload that was not interrupted. -/
theorem checkIfPreloaded_uninterrupted (context : ManagedObjectContext) (savedLater : Bool) :
    checkIfPreloaded ⟨context.rows, false⟩ ⟨fun _ => true, none, savedLater⟩ =
      ⟨(preLoadDinners context).rows, true⟩ := by
  have saved := preLoadDinnersEach_saved context.rows ⟨fun _ => true, none, savedLater⟩
  simp only [checkIfPreloaded, Bool.false_eq_true, if_false, saved]
  rfl

/-- A launch that does not find the flag saves a beginning of the dinners. -/
theorem checkIfPreloaded_attributes {installation : Installation}
    (unflagged : installation.firstLaunch = false) (launch : Launch) :
    (checkIfPreloaded installation launch).rows.map attributes =
      installation.rows.map attributes ++ preloaded.take launch.kept := by
  simp only [checkIfPreloaded, unflagged, Bool.false_eq_true, if_false,
    preLoadDinnersEach_saved, List.map_append, List.map_take, newDinners_attributes]

/-- A launch without the flag adds a first part of the list. -/
theorem afterLaunch_attributes {installation : Installation}
    (unflagged : installation.firstLaunch = false) (launch : Launch) :
    (afterLaunch installation launch).rows.map attributes =
      installation.rows.map attributes ++ preloaded.take launch.persisted := by
  unfold afterLaunch Launch.persisted
  rw [unflagged, Bool.not_false, Bool.true_and]
  split
  next later =>
    -- nothing that was inserted is lost, and the launch gets to every dinner
    have attempts : launch.attempts = dinnerList.length := by
      rw [Bool.and_eq_true, Option.isNone_iff_eq_none] at later
      rw [Launch.attempts, later.1]
    have contents := WriteBehind.insertEach_contents ⟨installation.rows, []⟩ launch.saves
      ((newDinners installation.rows).take launch.attempts)
    rw [attempts, List.append_nil] at contents
    have whole : (newDinners installation.rows).take dinnerList.length =
        newDinners installation.rows := List.take_of_length_le (Nat.le_refl _)
    rw [whole] at contents
    simp only [preLoadDinnersEach, WriteBehind.save, if_true, attempts, whole, contents,
      List.map_append, newDinners_attributes]
    rfl
  next => exact checkIfPreloaded_attributes unflagged launch

/-- A launch leaves the flag exactly when its preload is over, or was before. -/
theorem afterLaunch_firstLaunch (installation : Installation) (launch : Launch) :
    (afterLaunch installation launch).firstLaunch =
      (installation.firstLaunch || launch.killedAfter.isNone) := by
  unfold afterLaunch checkIfPreloaded
  cases flagged : installation.firstLaunch <;> cases ended : launch.killedAfter.isNone <;>
    cases launch.savedLater <;> simp [flagged]

/-- Once the flag is set a launch adds nothing. -/
theorem afterLaunch_of_flagged {installation : Installation}
    (flagged : installation.firstLaunch = true) (launch : Launch) :
    afterLaunch installation launch = installation := by
  simp [afterLaunch, checkIfPreloaded, flagged]

/-! ### Every launch -/

/-- Further launches only add to those that preload. -/
theorem preloading_sublist (before after : List Launch) :
    (preloading before).Sublist (preloading (before ++ after)) := by
  induction before with
  | nil => exact List.nil_sublist _
  | cons launch before inductionHypothesis =>
      rw [List.cons_append, preloading, preloading]
      split
      · exact .refl _
      · exact inductionHypothesis.cons_cons _

/-- While no preload is over, every launch preloads. -/
theorem preloading_append_of_unfinished {before : List Launch}
    (unfinished : ∀ launch ∈ before, launch.killedAfter.isNone = false) (after : List Launch) :
    preloading (before ++ after) = before ++ preloading after := by
  induction before with
  | nil => rfl
  | cons launch before inductionHypothesis =>
      rw [List.forall_mem_cons] at unfinished
      rw [List.cons_append, preloading, unfinished.1, inductionHypothesis unfinished.2]
      rfl

/-- After a preload that is over no launch preloads. -/
theorem preloading_append_of_finished {before : List Launch}
    (finished : ∃ launch ∈ before, launch.killedAfter.isNone = true) (after : List Launch) :
    preloading (before ++ after) = preloading before := by
  induction before with
  | nil =>
      obtain ⟨_, none, _⟩ := finished
      cases none
  | cons launch before inductionHypothesis =>
      rw [List.cons_append, preloading, preloading]
      cases ended : launch.killedAfter.isNone with
      | true => rfl
      | false =>
          obtain ⟨other, member, isNone⟩ := finished
          have later : other ∈ before := by
            rcases List.mem_cons.mp member with rfl | later
            · rw [ended] at isNone
              cases isNone
            · exact later
          rw [inductionHypothesis ⟨other, later, isNone⟩]

/-- Once the flag is set no launch adds anything. -/
theorem foldl_of_flagged {installation : Installation}
    (flagged : installation.firstLaunch = true) (launches : List Launch) :
    launches.foldl afterLaunch installation = installation := by
  induction launches with
  | nil => rfl
  | cons launch launches inductionHypothesis =>
      rw [List.foldl_cons, afterLaunch_of_flagged flagged, inductionHypothesis]

/-- The store holds what each preloading launch added, in order. -/
theorem foldl_attributes {installation : Installation}
    (unflagged : installation.firstLaunch = false) (launches : List Launch) :
    (launches.foldl afterLaunch installation).rows.map attributes =
      installation.rows.map attributes ++
        ((preloading launches).map Launch.persisted).flatMap preloaded.take := by
  induction launches generalizing installation with
  | nil => simp [preloading]
  | cons launch launches inductionHypothesis =>
      have attributes := afterLaunch_attributes unflagged launch
      have flag := afterLaunch_firstLaunch installation launch
      rw [unflagged, Bool.false_or] at flag
      rw [List.foldl_cons, preloading]
      cases ended : launch.killedAfter.isNone with
      | true =>
          rw [foldl_of_flagged (flag.trans ended), attributes]
          simp
      | false =>
          rw [inductionHypothesis (flag.trans ended), attributes]
          simp

/-- What is in the store: a beginning of the dinners for each launch that preloaded. -/
theorem afterLaunches_attributes (launches : List Launch) :
    (afterLaunches launches).rows.map attributes =
      ((preloading launches).map Launch.persisted).flatMap preloaded.take :=
  foldl_attributes rfl launches

/-- The flag is set exactly when some launch ran to the end of the preload. -/
theorem afterLaunches_firstLaunch (launches : List Launch) :
    (afterLaunches launches).firstLaunch = launches.any (·.killedAfter.isNone) := by
  induction launches using List.reverseRecOn with
  | nil => rfl
  | append_singleton launches launch inductionHypothesis =>
      rw [List.any_append, ← inductionHypothesis, afterLaunches, List.foldl_append]
      simp [afterLaunch_firstLaunch, afterLaunches]

/-- The ids in the store are those of the parts that were added. -/
theorem afterLaunches_uniqueIDs (launches : List Launch) :
    (afterLaunches launches).rows.map (·.uniqueID) =
      ((preloading launches).map Launch.persisted).flatMap (dinnerList.map (·.2)).take := by
  have attributes := congrArg (List.map Prod.snd) (afterLaunches_attributes launches)
  rw [List.map_map, List.map_flatMap] at attributes
  rw [show (fun dinner : Dinner => dinner.uniqueID) = Prod.snd ∘ PreloadManager.attributes from rfl,
    attributes]
  simp only [List.map_take]
  rfl

/-- No id is twice in the store exactly when at most one launch saved anything. -/
theorem uniqueIDs_nodup_iff (launches : List Launch) :
    ((afterLaunches launches).rows.map (·.uniqueID)).Nodup ↔
      (preloading launches).countP Launch.savesSome ≤ 1 := by
  rw [afterLaunches_uniqueIDs, WriteBehind.nodup_flatMap_take_iff (by decide) (by decide),
    List.countP_map]
  have same : ∀ launch ∈ preloading launches,
      ((fun number : Nat => decide (0 < number)) ∘ Launch.persisted) launch = true ↔
        launch.savesSome = true := by
    intro launch _
    rw [Function.comp_apply, decide_eq_true_iff, launch.persisted_pos_iff]
  rw [List.countP_congr same]

/-- Every dinner of `dinnerList` is in the store. -/
theorem preloaded_subset_iff {rows : List Dinner} :
    (∀ dinner ∈ dinnerList, ∃ row ∈ rows,
      row.allergens = some dinner.1 ∧ row.uniqueID = dinner.2) ↔
      preloaded ⊆ rows.map attributes := by
  constructor
  · intro complete pair member
    obtain ⟨dinner, listed, rfl⟩ := List.mem_map.mp member
    obtain ⟨row, stored, allergens, uniqueID⟩ := complete dinner listed
    exact List.mem_map.mpr ⟨row, stored, Prod.ext allergens uniqueID⟩
  · intro contained dinner listed
    obtain ⟨row, stored, same⟩ := List.mem_map.mp (contained (List.mem_map_of_mem listed))
    exact ⟨row, stored, congrArg Prod.fst same, congrArg Prod.snd same⟩

/-- A launch keeps the whole list exactly when it saves all of it. -/
theorem Launch.length_le_kept_iff (launch : Launch) :
    preloaded.length ≤ launch.kept ↔ launch.savesAll = true := by
  have bound := Nat.le_trans (WriteBehind.lastSaved_le launch.saves launch.attempts)
    launch.attempts_le
  have length : preloaded.length = dinnerList.length := List.length_map _
  rw [← launch.kept_eq_length_iff, length]
  unfold kept
  omega

/-- Where the first preload is over, every dinner is there when one of the launches so far
has made the last save. -/
theorem complete_iff_of_unfinished {before : List Launch}
    (unfinished : ∀ launch ∈ before, launch.killedAfter.isNone = false) (launch : Launch) :
    (∀ dinner ∈ dinnerList, ∃ row ∈ (checkIfPreloaded (afterLaunches before) launch).rows,
      row.allergens = some dinner.1 ∧ row.uniqueID = dinner.2) ↔
      ∃ other ∈ before ++ [launch], other.savesAll = true := by
  have flag : (afterLaunches before).firstLaunch = false := by
    rw [afterLaunches_firstLaunch, List.any_eq_false]
    intro other member
    simp [unfinished other member]
  have all : preloading before = before := by
    have appended := preloading_append_of_unfinished unfinished []
    rwa [List.append_nil, preloading, List.append_nil] at appended
  have killed : before.map Launch.persisted = before.map Launch.kept := by
    apply List.map_congr_left
    intro other member
    simp [Launch.persisted, unfinished other member]
  have attributes := checkIfPreloaded_attributes flag launch
  rw [afterLaunches_attributes, all, killed] at attributes
  have together : (before.map Launch.kept).flatMap preloaded.take ++ preloaded.take launch.kept =
      ((before ++ [launch]).map Launch.kept).flatMap preloaded.take := by simp
  rw [preloaded_subset_iff, attributes, together,
    WriteBehind.subset_flatMap_take_iff (by decide) (by decide)]
  simp only [List.mem_map, exists_exists_and_eq_and, Launch.length_le_kept_iff]

/-- A launch that has made the last save leaves every dinner. -/
theorem Launch.length_le_persisted {launch : Launch} (all : launch.savesAll = true) :
    preloaded.length ≤ launch.persisted := by
  unfold persisted
  split
  · exact Nat.le_of_eq (List.length_map _)
  · exact launch.length_le_kept_iff.mpr all

/-- The launches of an installation leave every dinner once exactly when at most one of
those that preload saves anything, and, if a preload is over, one of them has made the
last save. -/
theorem preloadedOnce_iff (launches : List Launch) :
    PreloadedOnce launches ↔
      (preloading launches).countP Launch.savesSome ≤ 1 ∧
        ((∃ launch ∈ launches, launch.killedAfter.isNone = true) →
          ∃ launch ∈ preloading launches, launch.savesAll = true) := by
  constructor
  · intro once
    constructor
    · exact (uniqueIDs_nodup_iff launches).mp
        (once.distinct launches [] (List.append_nil launches).symm)
    · intro finished
      -- the first launch whose preload is over
      obtain ⟨launch, first⟩ := Option.isSome_iff_exists.mp (List.find?_isSome.mpr finished)
      obtain ⟨ended, before, after, rfl, unfinished⟩ := List.find?_eq_some_iff_append.mp first
      simp only [Bool.not_eq_true'] at unfinished
      rw [preloading_append_of_unfinished unfinished, preloading, if_pos ended]
      exact (complete_iff_of_unfinished unfinished launch).mp
        (once.complete before launch after rfl (Option.isNone_iff_eq_none.mp ended))
  · rintro ⟨few, enough⟩
    constructor
    · rintro before after rfl
      rw [uniqueIDs_nodup_iff]
      exact Nat.le_trans (preloading_sublist before after).countP_le few
    · rintro before launch after rfl ended
      obtain ⟨saver, member, all⟩ := enough ⟨launch, by simp, by rw [ended]; rfl⟩
      by_cases finished : ∃ other ∈ before, other.killedAfter.isNone = true
      · rw [preloading_append_of_finished finished] at member
        have flagged : (afterLaunches before).firstLaunch = true := by
          rw [afterLaunches_firstLaunch, List.any_eq_true]
          exact finished
        rw [checkIfPreloaded, if_pos flagged, preloaded_subset_iff, afterLaunches_attributes,
          WriteBehind.subset_flatMap_take_iff (by decide) (by decide)]
        exact ⟨_, List.mem_map_of_mem member, Launch.length_le_persisted all⟩
      · have unfinished : ∀ other ∈ before, other.killedAfter.isNone = false := by
          intro other listed
          rw [Bool.eq_false_iff]
          exact fun isNone => finished ⟨other, listed, isNone⟩
        rw [preloading_append_of_unfinished unfinished, preloading, ended] at member
        exact (complete_iff_of_unfinished unfinished launch).mpr ⟨saver, member, all⟩

/-- The first launch is killed after its first save, and the second one saves everything. -/
theorem not_preloadedOnce_killed : ¬ ∀ launches : List Launch, PreloadedOnce launches := by
  intro always
  have once := always [⟨fun _ => true, some 1, false⟩, ⟨fun _ => true, none, false⟩]
  have distinct := once.distinct _ [] (List.append_nil _).symm
  exact absurd distinct (by decide)

end TinderDinner.PreloadManager
