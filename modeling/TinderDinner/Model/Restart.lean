import TinderDinner.Firestore.LocalSerializer
import TinderDinner.Model.GroupView

/-!
# The group after a restart

A device whose client keeps a file may be killed while its writes are unanswered. The next
launch finds in the file what the device had from the server and the writes it has made, an
upload under an id that begins with a digit among them, and goes on as if nothing had
happened.
-/

namespace TinderDinner

open Swift FirestoreCore Serializer

/-- What happens to a device's client when the app may end at any moment. -/
inductive FileEvent where
  /-- The device writes, or the server sends a document. -/
  | client (event : ClientEvent)
  /-- The app ends, and is launched again. -/
  | restarted

/-- The event the client itself takes, where it is one. -/
def FileEvent.client? : FileEvent → Option ClientEvent
  | .client event => some event
  | .restarted => none

/-- A step of the client: a relaunch writes its state to the file and reads it back. -/
def fileStep (database : DatabaseId) (key : DocumentKey)
    (client : Replica MaybeDocument MutationBatch) :
    FileEvent → Except Trap (Replica MaybeDocument MutationBatch)
  | .client event => clientStep client event
  | .restarted => reopen database key (persist database key client)

/-- No user id in an upload has a null character. -/
def DocumentWrite.Unstopped : DocumentWrite → Prop
  | .updateAcceptedDinnerList userId _ => '\x00' ∉ userId.toList
  | .setData _ | .incrementParticipants | .incrementNumberOfUsersReady => True

/-- An event that leaves only what the serializer can write. -/
def FileEvent.Storable : FileEvent → Prop
  | .client (.wrote write) => write.Unstopped
  | .client (.synced document _) => ∀ value ∈ document, Serializer.Storable value
  | .restarted => True

/-! ### What the app writes -/

/-- Every field of the group has a name of at least one character. -/
theorem CodingKeys.stringValue_ne_empty (key : CodingKeys) : key.stringValue ≠ "" := by
  cases key <;> decide

/-- The serializer writes the path of each field so that it reads it back. -/
theorem CodingKeys.readable_path (key : CodingKeys) : key.path.Readable := by
  unfold FieldPath.Readable
  cases key <;> decide

/-- A list of numbers holds no object, so no key of it occurs twice. -/
theorem distinct_encodeNumbers (numbers : List Int) : Distinct (encodeNumbers numbers) := by
  change DistinctElements (numbers.map .integer)
  induction numbers with
  | nil => trivial
  | cons number numbers inductionHypothesis => exact ⟨trivial, inductionHypothesis⟩

/-- No field of an encoded group holds an object with a key twice. -/
theorem CodingKeys.distinct_encode (group : GroupStructure) (key : CodingKeys) :
    Distinct (key.encode group) := by
  cases key with
  | dinnerIdsForCardView => exact distinct_encodeNumbers _
  | collectionOfAcceptedDinnerList =>
      refine ⟨?_, distinctFields_iff.mpr ?_⟩
      · rw [List.NodupKeys, keys_map_encodeUser]
        exact group.collectionOfAcceptedDinnerList.nodupKeys
      · intro entry member
        obtain ⟨user, _, rfl⟩ := List.mem_map.mp member
        exact distinct_encodeNumbers user.2
  | participants | swipingSessionRunning | numberOfCards | numberOfUsersReady => trivial

/-- An encoded group has the six fields, in the order of the coding keys. -/
theorem keys_encode (group : GroupStructure) :
    group.encode.keys = CodingKeys.allCases.map CodingKeys.stringValue := rfl

/-- What `createGroup` writes can be stored in the file. -/
theorem storable_encode (group : GroupStructure) : Serializer.Storable group.encode where
  distinct := by
    rw [List.NodupKeys, keys_encode]
    exact List.Nodup.map CodingKeys.stringValue_injective (by decide)
  values := by
    rw [distinctFields_iff]
    intro entry member
    obtain ⟨key, _, rfl⟩ := List.mem_map.mp member
    exact key.distinct_encode group
  named := by
    rw [keys_encode]
    intro name member
    obtain ⟨key, _, rfl⟩ := List.mem_map.mp member
    exact key.stringValue_ne_empty

/-- A path that is taken from a text has its names from there. -/
theorem readable_of_fromDotSeparatedString {text : String} {path : FieldPath}
    (parsed : FieldPath.fromDotSeparatedString text = .ok path) (unstopped : '\x00' ∉ text.toList) :
    path.Readable := by
  unfold FieldPath.fromDotSeparatedString at parsed
  split at parsed
  · cases parsed
  split at parsed
  · cases parsed
  next first rest tokens =>
    split at parsed
    · cases parsed
    next nonempty =>
      obtain rfl := Except.ok.inj parsed
      intro name member
      change name ∈ (first :: rest).map String.ofList at member
      rw [← tokens] at member
      obtain ⟨token, listed, rfl⟩ := List.mem_map.mp member
      rw [String.toList_ofList]
      refine ⟨fun empty => nonempty ?_, fun null => ?_⟩
      · rw [← tokens, List.any_eq_true]
        exact ⟨token, listed, by simpa using empty⟩
      · exact unstopped (Separated.mem_of_mem_splitOn listed null)

/-- The batch of a join or of a ready mark can be stored in the file. -/
theorem storableBatch_increment (existing : MaybeDocument) (key : CodingKeys) :
    StorableBatch (writeLocally existing (incrementMutations key)) where
  baseMutations := by
    let base : FieldValue := .integer (computeBaseValue (existing.bind (·.get key.path)))
    have number : Distinct base := trivial
    change ∀ mutation ∈
      [Mutation.patch (ObjectValue.set [] key.path base) [key.path] (.exists true)],
      StorableMutation mutation
    rw [List.forall_mem_singleton]
    refine ⟨storable_nil.set number key.stringValue_ne_empty, List.nodup_singleton _, ?_⟩
    rw [List.forall_mem_singleton]
    exact key.readable_path
  mutations := by
    change ∀ mutation ∈ [Mutation.patch [] [] (.exists true), .transform [⟨key.path, 1⟩]],
      StorableMutation mutation
    rw [List.forall_mem_cons, List.forall_mem_singleton]
    refine ⟨⟨storable_nil, List.nodup_nil, by simp⟩, ?_⟩
    rw [StorableMutation, List.forall_mem_singleton]
    exact key.readable_path

/-- A batch without increments has no base. -/
theorem storableBatch_singleton {existing : MaybeDocument} {mutation : Mutation}
    (plain : mutation.extractBaseValue existing = none) (storable : StorableMutation mutation) :
    StorableBatch (writeLocally existing [mutation]) where
  baseMutations := by simp [writeLocally, plain]
  mutations := by simpa [writeLocally] using storable

/-- The batch of every write of the app that its client accepts can be stored. -/
theorem storableBatch_writeLocally {write : DocumentWrite} (unstopped : write.Unstopped)
    {mutations : List Mutation} (sent : write.mutations = .ok mutations)
    (existing : MaybeDocument) : StorableBatch (writeLocally existing mutations) := by
  cases write with
  | setData newData =>
      simp only [DocumentWrite.mutations, FirestoreCore.setData, bind_eq_ok, pure_eq_ok] at sent
      obtain ⟨_, _, rfl⟩ := sent
      exact storableBatch_singleton rfl (storable_encode newData)
  | incrementParticipants =>
      obtain rfl := Except.ok.inj (incrementParticipants_mutations.symm.trans sent)
      exact storableBatch_increment existing .participants
  | incrementNumberOfUsersReady =>
      obtain rfl := Except.ok.inj (incrementNumberOfUsersReady_mutations.symm.trans sent)
      exact storableBatch_increment existing .numberOfUsersReady
  | updateAcceptedDinnerList userId dinnerIds =>
      simp only [DocumentWrite.mutations, updateData, parsedUpdateData, List.foldlM_cons,
        List.foldlM_nil, bind_eq_ok, pure_eq_ok] at sent
      obtain ⟨_, ⟨_, ⟨path, parsed, _, _, rfl⟩, rfl⟩, rfl⟩ := sent
      have readable := readable_of_fromDotSeparatedString parsed <| by
        rw [String.toList_append, List.mem_append, not_or]
        exact ⟨by decide, unstopped⟩
      have named : path.first ≠ "" := (readable _ List.mem_cons_self).1
      refine storableBatch_singleton rfl ⟨?_, List.nodup_singleton _, ?_⟩
      · exact storable_nil.set (distinct_encodeNumbers dinnerIds) named
      · exact List.forall_mem_singleton.mpr readable

/-! ### Every run -/

/-- One step of the client keeps its state storable, whatever it writes or receives. -/
theorem storable_clientStep {client next : Replica MaybeDocument MutationBatch}
    {event : ClientEvent} (storable : StorableClient client)
    (proper : FileEvent.Storable (.client event)) (taken : clientStep client event = .ok next) :
    StorableClient next := by
  cases event with
  | wrote write =>
      simp only [clientStep, bind_eq_ok, pure_eq_ok] at taken
      obtain ⟨mutations, sent, rfl⟩ := taken
      refine ⟨storable.cached, fun batch member => ?_⟩
      rcases List.mem_append.mp member with before | last
      · exact storable.pending batch before
      · obtain rfl := List.mem_singleton.mp last
        exact storableBatch_writeLocally proper sent _
  | synced document answered =>
      obtain rfl := Except.ok.inj taken
      exact ⟨proper, fun batch member => storable.pending batch (List.mem_of_mem_drop member)⟩

section Runs

variable {database : DatabaseId} {key : DocumentKey}

/-- Over a whole run the relaunches change nothing: the client ends where it would have ended
without them. -/
theorem foldlM_fileStep (addresses : Addresses database key)
    {client : Replica MaybeDocument MutationBatch} (storable : StorableClient client)
    {events : List FileEvent} (proper : ∀ event ∈ events, event.Storable) :
    events.foldlM (fileStep database key) client =
      (events.filterMap FileEvent.client?).foldlM clientStep client := by
  induction events generalizing client with
  | nil => rfl
  | cons event events inductionHypothesis =>
      rw [List.forall_mem_cons] at proper
      rw [List.foldlM_cons]
      cases event with
      | restarted =>
          rw [fileStep, storable.reopen addresses]
          exact inductionHypothesis storable proper.2
      | client event =>
          change (clientStep client event >>= _) = (clientStep client event >>= _)
          cases taken : clientStep client event with
          | error trap => rfl
          | ok next =>
              exact inductionHypothesis (storable_clientStep storable proper.1 taken) proper.2

/-- Restarts are not seen: the device goes on with the document and the writes that it had. -/
theorem restarts_invisible (addresses : Addresses database key) {events : List FileEvent}
    (proper : ∀ event ∈ events, event.Storable) :
    events.foldlM (fileStep database key) freshClient =
      (events.filterMap FileEvent.client?).foldlM clientStep freshClient := by
  refine foldlM_fileStep addresses ⟨?_, ?_⟩ proper
  · rintro document ⟨⟩
  · intro batch member
    cases member

end Runs

/-- The joined guest votes under an id that begins with a digit, and is killed before and
after it is ready. -/
def killedWhileVoting : List FileEvent :=
  [.client (.synced (some (FirebaseManager.newGroup 5).encode) 0),
    .client (.wrote .incrementParticipants), .restarted,
    .client (.wrote (.updateAcceptedDinnerList "3bX0yYkLmz" [7])), .restarted,
    .client (.wrote .incrementNumberOfUsersReady), .restarted]

/-- A guest killed between its writes still has the three of them pending. -/
theorem restarts_invisible_killedWhileVoting :
    (killedWhileVoting.foldlM
        (fileStep ⟨"tinderdinner", "(default)"⟩ ["Groups", "42"]) freshClient).map
      (·.pending.length) = .ok 3 := by
  have addresses : Addresses ⟨"tinderdinner", "(default)"⟩ ["Groups", "42"] := by
    refine ⟨?_, ?_, ?_, rfl⟩ <;>
      · unfold ResourcePath.Segment
        decide
  have group : ∀ value ∈ some (FirebaseManager.newGroup 5).encode, Serializer.Storable value := by
    rintro value ⟨⟩
    exact storable_encode _
  have unstopped : '\x00' ∉ "3bX0yYkLmz".toList := by decide
  have proper : ∀ event ∈ killedWhileVoting, event.Storable := by
    simp only [killedWhileVoting, List.forall_mem_cons]
    exact ⟨group, trivial, trivial, unstopped, trivial, trivial, trivial, by simp⟩
  rw [restarts_invisible addresses proper]
  rfl

end TinderDinner
