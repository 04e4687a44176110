import TinderDinner.Swift.StandardLibrary

/-!
# The shared instance

The settings can change until there is a client, which the first collection that is asked
for creates. Equal settings are no change.
-/

namespace FirestoreCore

open Swift

/-- `FirestoreSettings`. The queue is the main queue throughout. -/
structure Settings where
  host : String
  sslEnabled : Bool
  persistenceEnabled : Bool
  cacheSizeBytes : Int
  deriving DecidableEq

/-- The settings of an instance that was given none. -/
def Settings.default : Settings where
  host := "firestore.googleapis.com"
  sslEnabled := true
  persistenceEnabled := true
  cacheSizeBytes := 100 * 1024 * 1024

/-- `Firestore.firestore()`, with the settings its client was created with. -/
structure Instance where
  settings : Settings
  client : Option Settings

namespace Instance

/-- Nothing has asked Firestore for anything yet. -/
def launched : Instance where
  settings := .default
  client := none

/-- The message of `HARD_FAIL` in `set_settings`. -/
def alreadyStarted : Trap :=
  .fatalError <| "Firestore instance has already been started and its settings can no longer " ++
    "be changed. You can only set settings before calling any other methods on a Firestore " ++
    "instance."

/-- The same settings can always be set, and others only before the client has started. -/
def setSettings (firestore : Instance) (settings : Settings) : Except Trap Instance :=
  if settings = firestore.settings then return firestore
  else
    match firestore.client with
    | some _ => throw alreadyStarted
    | none => return { firestore with settings }

/-- `collection(_:)` ensures that the client is configured. -/
def collection (firestore : Instance) : Instance :=
  { firestore with client := some (firestore.client.getD firestore.settings) }

/-- The settings are those of the instance, or they can still become so. -/
def Accepts (firestore : Instance) (settings : Settings) : Prop :=
  settings = firestore.settings ∨ firestore.client = none

instance (firestore : Instance) (settings : Settings) : Decidable (firestore.Accepts settings) :=
  inferInstanceAs (Decidable (_ ∨ _))

/-- Settings that are accepted are those of the instance from then on. -/
theorem setSettings_of_accepts {firestore : Instance} {settings : Settings}
    (accepts : firestore.Accepts settings) :
    firestore.setSettings settings = .ok { firestore with settings } := by
  unfold setSettings
  split
  next same =>
    subst same
    rfl
  next other =>
    rw [accepts.resolve_left other]
    rfl

/-- Other settings come too late for an instance that was started. -/
theorem setSettings_of_not_accepts {firestore : Instance} {settings : Settings}
    (refuses : ¬ firestore.Accepts settings) :
    firestore.setSettings settings = .error alreadyStarted := by
  obtain ⟨other, started⟩ := not_or.mp refuses
  obtain ⟨client, running⟩ := Option.ne_none_iff_exists'.mp started
  rw [setSettings, if_neg other, running]
  rfl

/-- The settings trap exactly where they are not accepted. -/
theorem setSettings_eq_error_iff {firestore : Instance} {settings : Settings} {trap : Trap} :
    firestore.setSettings settings = .error trap ↔
      ¬ firestore.Accepts settings ∧ trap = alreadyStarted := by
  by_cases accepts : firestore.Accepts settings
  · simp [setSettings_of_accepts accepts, accepts]
  · simp [setSettings_of_not_accepts accepts, accepts, eq_comm]

/-- Settings that do not trap were accepted. -/
theorem setSettings_eq_ok_iff {firestore next : Instance} {settings : Settings} :
    firestore.setSettings settings = .ok next ↔
      firestore.Accepts settings ∧ next = { firestore with settings } := by
  by_cases accepts : firestore.Accepts settings
  · simp [setSettings_of_accepts accepts, accepts, eq_comm]
  · simp [setSettings_of_not_accepts accepts, accepts]

/-- Only the first collection starts the client. -/
@[simp] theorem collection_collection (firestore : Instance) :
    firestore.collection.collection = firestore.collection := rfl

/-- A started instance is not changed by a collection. -/
theorem collection_started (settings client : Settings) :
    collection ⟨settings, some client⟩ = ⟨settings, some client⟩ := rfl

end Instance

end FirestoreCore
