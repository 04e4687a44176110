import TinderDinner.Model.GroupWrites
import TinderDinner.Semantics.Replica

/-!
# The group as a device sees it

A snapshot shows the document of the server with the unanswered writes of the device on
top. The increments among them do not count on from what the server has now, but from what
the device saw when it made them: until its own increment is answered, a device does not see
those of the others.
-/

namespace TinderDinner

open Swift FirestoreCore

/-- A write with the counter it was made on, if it is an increment. -/
structure NotedWrite where
  write : DocumentWrite
  base : Int

/-- The number that an increment counts on from. -/
def DocumentWrite.counter (write : DocumentWrite) (group : GroupStructure) : Int :=
  match write with
  | .incrementParticipants => group.participants
  | .incrementNumberOfUsersReady => group.numberOfUsersReady
  | .setData _ | .updateAcceptedDinnerList _ _ => 0

/-- A document that is not there counts zero. -/
def NotedWrite.note (document : Option GroupStructure) (write : DocumentWrite) : NotedWrite where
  write := write
  base := (document.map write.counter).getD 0

/-- What a pending write shows on the document: an increment counts on from the value its base
had. -/
def NotedWrite.apply (noted : NotedWrite) (document : Option GroupStructure) :
    Option GroupStructure :=
  match noted.write with
  | .incrementParticipants =>
      document.map fun group => { group with participants := noted.base + 1 }
  | .incrementNumberOfUsersReady =>
      document.map fun group => { group with numberOfUsersReady := noted.base + 1 }
  | write => write.apply document

/-- What a device shows of a group. -/
def groupRules : Replica.Rules (Option GroupStructure) NotedWrite DocumentWrite where
  note := NotedWrite.note
  apply := NotedWrite.apply

/-- What the Firestore client of the device shows. -/
def firestoreRules : Replica.Rules MaybeDocument MutationBatch (List Mutation) where
  note := writeLocally
  apply := MutationBatch.applyToLocalDocument

/-- A batch does to the documents what a noted write does to the groups. -/
def Batches (batch : MutationBatch) (noted : NotedWrite) : Prop :=
  ∀ raw document, Holds raw document →
    Holds (batch.applyToLocalDocument raw) (noted.apply document)

/-- The mutations of a write that fits the document that is shown. -/
def Wrote (document : Option GroupStructure) (mutations : List Mutation) (write : DocumentWrite) :
    Prop :=
  write.mutations = .ok mutations ∧ write.Fits document

/-! ### One write -/

/-- The client pins the counter to what it was, and then increments it. -/
theorem applyToLocalDocument_increment (key : CodingKeys) (existing raw : MaybeDocument) :
    (writeLocally existing (incrementMutations key)).applyToLocalDocument raw =
      raw.map fun document => incremented key
        (document.set key.path (.integer (computeBaseValue (existing.bind (·.get key.path))))) := by
  cases raw with
  | none => rfl
  | some document =>
      let base : FieldValue := .integer (computeBaseValue (existing.bind (·.get key.path)))
      have noted : (ObjectValue.set [] key.path base).get key.path = some base := by
        simp [ObjectValue.get, ObjectValue.set, ObjectValue.setNames, CodingKeys.path]
      have pinned : Mutation.patchObject (ObjectValue.set [] key.path base) [key.path] document =
          document.set key.path base := by
        simp only [Mutation.patchObject, List.foldl_cons, List.foldl_nil, noted]
      let baseDoc := Mutation.patchObject (ObjectValue.set [] key.path base) [key.path] document
      change some (baseDoc.set key.path (.integer (safeIncrement (computeBaseValue
        (Mutation.previousValue baseDoc (some baseDoc) key.path)) 1))) = _
      rw [previousValue_self, show baseDoc = document.set key.path base from pinned]
      rfl

/-- A pending upload shows on whichever document the client has, and on none it shows nothing.
-/
theorem applyToLocalDocument_upload {userId : String} (dinnerIds : List Int)
    (existing raw : MaybeDocument) :
    (writeLocally existing [.patch (ObjectValue.set [] (userPath userId) (encodeNumbers dinnerIds))
        [userPath userId] (.exists true)]).applyToLocalDocument raw =
      raw.map (·.set (userPath userId) (encodeNumbers dinnerIds)) :=
  commit_upload userId dinnerIds raw

/-- The base value the client stores with an increment is the one the group's write notes. -/
theorem computeBaseValue_note {raw : MaybeDocument} {document : Option GroupStructure}
    (holds : Holds raw document) (write : DocumentWrite) (key : CodingKeys)
    (counts : ∀ group : GroupStructure, key.encode group = .integer (write.counter group)) :
    computeBaseValue (raw.bind (·.get key.path)) = (NotedWrite.note document write).base := by
  cases holds with
  | none => rfl
  | some carries => exact carries.computeBaseValue_get (counts _)

/-- The counter of a document is pinned to a number and then incremented. -/
theorem Carries.pinned {document : ObjectValue} {group : GroupStructure}
    (carries : Carries document group) {key : CodingKeys} {number : Int}
    (seen changed : GroupStructure) (pins : key.encode seen = .integer number)
    (countsOn : key.encode changed = .integer (number + 1))
    (seenOthers : ∀ other, other ≠ key → other.encode seen = other.encode group)
    (others : ∀ other, other ≠ key → other.encode changed = other.encode group)
    (low : longMin ≤ number) (high : number < longMax) :
    Carries (TinderDinner.incremented key (document.set key.path (.integer number))) changed := by
  have noted : Carries (document.set key.path (.integer number)) seen := by
    rw [← pins]
    exact carries.kinsert seen key seenOthers
  exact noted.incremented pins countsOn
    (fun other different => (others other different).trans (seenOthers other different).symm)
    low high

/-- A counter that is not there counts from zero. -/
theorem base_fits {document : Option GroupStructure} (write : DocumentWrite)
    (fits : ∀ group ∈ document, longMin ≤ write.counter group ∧ write.counter group < longMax) :
    longMin ≤ (NotedWrite.note document write).base ∧
      (NotedWrite.note document write).base < longMax := by
  cases document with
  | none => exact ⟨show longMin ≤ 0 by decide, show 0 < longMax by decide⟩
  | some group => exact fits group rfl

/-- What the client notes with the mutations is what the write counts on from. -/
theorem batches_writeLocally {raw : MaybeDocument} {document : Option GroupStructure}
    {mutations : List Mutation} {write : DocumentWrite} (holds : Holds raw document)
    (wrote : Wrote document mutations write) :
    Batches (writeLocally raw mutations) (NotedWrite.note document write) := by
  obtain ⟨sent, fits⟩ := wrote
  intro cached shown holdsNow
  cases write with
  | setData newData =>
      obtain rfl := Except.ok.inj ((setData_mutations fits).symm.trans sent)
      exact .some (carries_encode newData)
  | incrementParticipants =>
      obtain rfl := Except.ok.inj (incrementParticipants_mutations.symm.trans sent)
      obtain ⟨low, high⟩ := base_fits .incrementParticipants fits
      rw [applyToLocalDocument_increment,
        computeBaseValue_note holds .incrementParticipants .participants fun _ => rfl]
      cases holdsNow with
      | none => exact .none
      | @some _ group carries =>
          let base := (NotedWrite.note document .incrementParticipants).base
          refine .some (carries.pinned { group with participants := base } _ rfl rfl
            (fun other different => ?_) (fun other different => ?_) low high)
          · cases other <;> first | rfl | exact absurd rfl different
          · cases other <;> first | rfl | exact absurd rfl different
  | incrementNumberOfUsersReady =>
      obtain rfl := Except.ok.inj (incrementNumberOfUsersReady_mutations.symm.trans sent)
      obtain ⟨low, high⟩ := base_fits .incrementNumberOfUsersReady fits
      rw [applyToLocalDocument_increment,
        computeBaseValue_note holds .incrementNumberOfUsersReady .numberOfUsersReady fun _ => rfl]
      cases holdsNow with
      | none => exact .none
      | @some _ group carries =>
          let base := (NotedWrite.note document .incrementNumberOfUsersReady).base
          refine .some (carries.pinned { group with numberOfUsersReady := base } _ rfl rfl
            (fun other different => ?_) (fun other different => ?_) low high)
          · cases other <;> first | rfl | exact absurd rfl different
          · cases other <;> first | rfl | exact absurd rfl different
  | updateAcceptedDinnerList userId dinnerIds =>
      obtain rfl := Except.ok.inj ((PlainId.mutations fits dinnerIds).symm.trans sent)
      rw [applyToLocalDocument_upload]
      cases holdsNow with
      | none => exact .none
      | some carries => exact .some (carries.upload userId dinnerIds)

/-- The client's batches over raw documents refine the group's noted writes. -/
theorem refines :
    Replica.Refines firestoreRules groupRules Holds Batches Wrote where
  note := batches_writeLocally
  apply batches holds := batches _ _ holds

/-! ### The client over time -/

/-- The device writes, or the server sends a document. -/
abbrev ClientEvent := Replica.Event MaybeDocument DocumentWrite

/-- The client takes a write of the app or a document of the server. -/
def clientStep (client : Replica MaybeDocument MutationBatch) :
    ClientEvent → Except Trap (Replica MaybeDocument MutationBatch)
  | .wrote write => do
      let mutations ← write.mutations
      return client.step firestoreRules (.wrote mutations)
  | .synced document answered => return client.step firestoreRules (.synced document answered)

/-- What the device makes of a document. -/
def understood (maybeDoc : MaybeDocument) : Option GroupStructure :=
  getFirebaseObject (.ofSnapshot maybeDoc)

/-- The step of the client on the group as the app understands it. -/
def deviceStep (device : Replica (Option GroupStructure) NotedWrite) :
    ClientEvent → Replica (Option GroupStructure) NotedWrite
  | .wrote write => device.step groupRules (.wrote write)
  | .synced document answered => device.step groupRules (.synced (understood document) answered)

/-- The write fits what the device sees, or the document of the server can be read. -/
def Admissible (device : Replica (Option GroupStructure) NotedWrite) : ClientEvent → Prop
  | .wrote write => write.Fits (device.view groupRules)
  | .synced document _ => Holds document (understood document)

/-- Each event is admissible when it comes. -/
def AllAdmissible : Replica (Option GroupStructure) NotedWrite → List ClientEvent → Prop
  | _, [] => True
  | device, event :: events =>
      Admissible device event ∧ AllAdmissible (deviceStep device event) events

/-- One admissible event keeps the client and the group's view related. -/
theorem clientStep_related {client : Replica MaybeDocument MutationBatch}
    {device : Replica (Option GroupStructure) NotedWrite} {event : ClientEvent}
    (related : Replica.Related Holds Batches client device)
    (admissible : Admissible device event) :
    ∃ next, clientStep client event = .ok next ∧
      Replica.Related Holds Batches next (deviceStep device event) := by
  cases event with
  | synced document answered =>
      exact ⟨_, rfl, related.synced firestoreRules groupRules admissible answered⟩
  | wrote write =>
      obtain ⟨mutations, sent, _⟩ := commit_mutations (related.view refines) admissible
      refine ⟨client.step firestoreRules (.wrote mutations), ?_, ?_⟩
      · simp only [clientStep, sent]
        rfl
      · exact related.wrote refines ⟨sent, admissible⟩

/-- A run of admissible events keeps them related, and the client never traps in it. -/
theorem clientSteps_related {client : Replica MaybeDocument MutationBatch}
    {device : Replica (Option GroupStructure) NotedWrite} {events : List ClientEvent}
    (related : Replica.Related Holds Batches client device)
    (admissible : AllAdmissible device events) :
    ∃ last, events.foldlM clientStep client = .ok last ∧
      Replica.Related Holds Batches last (events.foldl deviceStep device) := by
  induction events generalizing client device with
  | nil => exact ⟨client, rfl, related⟩
  | cons event events inductionHypothesis =>
      obtain ⟨next, taken, nextRelated⟩ := clientStep_related related admissible.1
      obtain ⟨last, remaining, lastRelated⟩ := inductionHypothesis nextRelated admissible.2
      refine ⟨last, ?_, lastRelated⟩
      simp only [List.foldlM_cons, taken]
      exact remaining

/-- A client that has nothing yet. -/
def freshClient : Replica MaybeDocument MutationBatch := ⟨none, []⟩

/-- A device that has seen no document and has written nothing. -/
def freshDevice : Replica (Option GroupStructure) NotedWrite := ⟨none, []⟩

/-- As long as the writes fit and the documents can be read, no write is refused, and the
next snapshot is the group as the device would keep it by itself, with its increments
counted on from where it saw them. -/
theorem clientSteps_snapshot {events : List ClientEvent}
    (admissible : AllAdmissible freshDevice events) :
    ∃ client, events.foldlM clientStep freshClient = .ok client ∧
      DocumentReply.ofSnapshot (client.view firestoreRules) =
        .ofDocument ((events.foldl deviceStep freshDevice).view groupRules) := by
  have fresh : Replica.Related Holds Batches freshClient freshDevice := ⟨.none, .nil⟩
  obtain ⟨client, taken, related⟩ := clientSteps_related fresh admissible
  exact ⟨client, taken, (related.view refines).ofSnapshot⟩

/-- A guest joins the group it has seen, which then runs with two more guests. -/
def joinedWhileOthersJoin : List ClientEvent :=
  let seen : GroupStructure := FirebaseManager.newGroup 5
  [.synced (some seen.encode) 0, .wrote .incrementParticipants,
    .synced (some { seen with participants := 3, swipingSessionRunning := true }.encode) 0,
    .wrote (.updateAcceptedDinnerList "aB3xY9kLm0" [7])]

/-- The guest of the example, who joined over another's join, shows two participants. -/
theorem clientSteps_snapshot_joinedWhileOthersJoin :
    ∃ client, joinedWhileOthersJoin.foldlM clientStep freshClient = .ok client ∧
      (getFirebaseObject (.ofSnapshot (client.view firestoreRules))).map (·.participants) =
        some 2 := by
  have plain : PlainId "aB3xY9kLm0" :=
    ⟨by decide, by decide, by decide, by simp [FieldPath.forbidden]⟩
  have readable : ∀ group : GroupStructure,
      Holds (some group.encode) (understood (some group.encode)) := by
    intro group
    have same : understood (some group.encode) = some group := by
      rw [understood, Holds.ofSnapshot (.some (carries_encode group))]
      rfl
    rw [same]
    exact .some (carries_encode group)
  have admissible : AllAdmissible freshDevice joinedWhileOthersJoin := by
    refine ⟨readable _, ?_, readable _, plain, trivial⟩
    rintro group ⟨⟩
    exact ⟨by decide, by decide⟩
  obtain ⟨client, taken, snapshot⟩ := clientSteps_snapshot admissible
  exact ⟨client, taken, by rw [snapshot]; rfl⟩

end TinderDinner
