import TinderDinner.Protocol.GroupCreation

/-!
# Creating one group

`getUsedIds` takes a collection without documents for a missing connection. So a host that
finds a group creates one beside it, and on a server without groups nobody ever creates
the first. Before its query it changes the settings, which a client that was started with
others does not take.
-/

namespace TinderDinner.GroupCreation

variable {Host : Type}

/-- Nothing of the host is on its way. -/
structure Idle (state : GroupCreation Host) (host : Host) : Prop where
  usedIds : state.usedIds host = []
  sent : (state.sessions host).firestore.sent = []

/-- After the launch nothing of a host is on its way. -/
theorem idle_launched (existing : Groups) (host : Host) :
    (launched existing : GroupCreation Host).Idle host := ⟨rfl, rfl⟩

/-- The client of the host was not started with other settings. -/
def Creatable (state : GroupCreation Host) (host : Host) : Prop :=
  (state.sessions host).firestore.shared.Accepts Session.withoutPersistence

/-- A client that has not been started takes the settings. -/
theorem creatable_launched (existing : Groups) (host : Host) :
    (launched existing : GroupCreation Host).Creatable host := .inr rfl

variable [DecidableEq Host]

/-- Create, up to the write of the document, while nobody else does anything. -/
def createFlow (state : GroupCreation Host) (host : Host) (codes : List (Fin 10000))
    (numberOfDesieredCards : Int) (draws : Nat → Nat) : Option (GroupCreation Host) := do
  let pressed ← state.step (.createPressed host)
  let read ← pressed.step (.documentsRead host)
  let answered ← read.step (.usedIdsReply host codes numberOfDesieredCards draws)
  return (answered.step (.setDataApplied host)).getD answered

/-- There is one more document, which has a free code that the host holds. -/
structure Creates (existing : Groups) (host : Host) (numberOfDesieredCards groupId : Int)
    (state : GroupCreation Host) : Prop where
  range : 1 ≤ groupId ∧ groupId ≤ 10000
  fresh : groupId ∉ existing
  document : state.groups.lookup groupId = some (FirebaseManager.newGroup numberOfDesieredCards)
  unchanged : ∀ code, code ≠ groupId → state.groups.lookup code = existing.lookup code
  controller : (state.sessions host).groupId = some groupId
  active : state.activeGroupId host = some groupId

/-! ### The steps of the flow -/

/-- The ids have been read for a host that waits for nothing else. -/
def listed (state : GroupCreation Host) (host : Host) : GroupCreation Host :=
  (state.setSession host (asked (state.sessions host))).setUsedIds host [state.groups.keys]

/-- The flow is the draw over the codes that are there, and the document it writes, if any. -/
theorem createFlow_eq {state : GroupCreation Host} {host : Host} (idle : state.Idle host)
    (creatable : state.Creatable host) (codes : List (Fin 10000)) (number : Int)
    (draws : Nat → Nat) :
    state.createFlow host codes number draws =
      ((listed state host).step (.usedIdsReply host codes number draws)).map fun answered =>
        (answered.step (.setDataApplied host)).getD answered := by
  have read : (state.setSession host (asked (state.sessions host))).step
      (.documentsRead host) = some (listed state host) := by
    have unread : (state.setSession host (asked (state.sessions host))).usedIds host = [] :=
      idle.usedIds
    have waiting : .usedIds ∈ (asked (state.sessions host)).firestore.requests := by simp [asked]
    rw [step, unread, setSession_self, List.length_nil, if_pos (List.count_pos_iff.mpr waiting)]
    rfl
  rw [createFlow, step_createPressed_of_accepts creatable, Option.bind_eq_bind, Option.bind_some,
    read, Option.bind_some]
  cases (listed state host).step (.usedIdsReply host codes number draws) <;> rfl

/-- The answer for the host has the codes of all documents. -/
theorem listed_usedIds (state : GroupCreation Host) (host : Host) :
    (listed state host).usedIds host = [state.groups.keys] := Function.update_self ..

/-- The host waits for that answer alone. -/
theorem listed_sessions (state : GroupCreation Host) (host : Host) :
    (listed state host).sessions host = asked (state.sessions host) :=
  setSession_self ..

/-- The draw takes the first code that is not in use. -/
theorem checkForMachInIds_eq (groupIds : List Int) (codes : List (Fin 10000)) :
    Session.checkForMachInIds groupIds codes =
      (codes.map fun code : Fin 10000 => (code : Int) + 1).find? fun randomCode =>
        randomCode ∉ groupIds := by
  rw [Session.checkForMachInIds, bind_pure_comp, List.map_eq_map, List.map_map]
  rfl

/-- Some code that is drawn is free: the first such code is found. -/
theorem checkForMachInIds_of_free {groupIds : List Int} {codes : List (Fin 10000)}
    (free : ∃ code ∈ codes, (code : Int) + 1 ∉ groupIds) :
    ∃ groupId, Session.checkForMachInIds groupIds codes = some groupId ∧
      (1 ≤ groupId ∧ groupId ≤ 10000) ∧ groupId ∉ groupIds := by
  obtain ⟨code, drawn, unused⟩ := free
  simp only [checkForMachInIds_eq]
  have found : ((codes.map fun code : Fin 10000 => (code : Int) + 1).find? fun randomCode =>
      randomCode ∉ groupIds).isSome := by
    rw [List.find?_isSome]
    exact ⟨_, List.mem_map_of_mem drawn, by simpa using unused⟩
  obtain ⟨groupId, first⟩ := Option.isSome_iff_exists.mp found
  obtain ⟨other, _, rfl⟩ := List.mem_map.mp (List.mem_of_find?_eq_some first)
  have within := other.isLt
  exact ⟨_, first, by omega, by simpa using List.find?_some first⟩

/-- No codes are read exactly where there are no documents. -/
theorem keys_eq_nil_iff {groups : Groups} : groups.keys = [] ↔ groups = ∅ := by
  constructor
  · exact fun none => AList.ext (List.map_eq_nil_iff.mp none)
  · rintro rfl
    rfl

/-- An answer from which a code is drawn. -/
theorem step_usedIdsReply_of_drawn {state : GroupCreation Host} {host : Host} {groupIds : List Int}
    {rest : List (List Int)} {codes : List (Fin 10000)} {groupId : Int}
    (read : state.usedIds host = groupIds :: rest) (nonempty : groupIds ≠ [])
    (free : Session.checkForMachInIds groupIds codes = some groupId) (number : Int)
    (draws : Nat → Nat) :
    state.step (.usedIdsReply host codes number draws) =
      some ((state.setUsedIds host rest).setSession host
        (((state.sessions host).answered .usedIds).usedIdsReply groupId number draws)) := by
  cases groupIds with
  | nil => exact absurd rfl nonempty
  | cons used others => simp only [step, read, free]

/-- The only write of a host arrives. -/
theorem step_setDataApplied_of_sent {state : GroupCreation Host} {host : Host}
    {write : Int × DocumentWrite} {rest : List (Int × DocumentWrite)}
    (sent : (state.sessions host).firestore.sent = write :: rest) :
    state.step (.setDataApplied host) =
      some { state.setSession host (firstDelivered (state.sessions host)) with
        groups := state.groups.write write } := by
  simp only [step, sent]

/-- Without a write on its way none is applied. -/
theorem step_setDataApplied_of_unsent {state : GroupCreation Host} {host : Host}
    (unsent : (state.sessions host).firestore.sent = []) :
    state.step (.setDataApplied host) = none := by
  simp only [step, unsent]

/-! ### What the flow ends with -/

section

variable {state : GroupCreation Host} {host : Host} (codes : List (Fin 10000)) (number : Int)
  (draws : Nat → Nat)

/-- Without a document the answer is an error, and nothing is written. -/
theorem createFlow_of_empty (idle : state.Idle host) (creatable : state.Creatable host)
    (empty : state.groups = ∅) :
    ∃ final, state.createFlow host codes number draws = some final ∧ final.groups = ∅ ∧
      (final.sessions host).isOn = false := by
  have read : (listed state host).usedIds host = [[]] := by
    rw [listed_usedIds, keys_eq_nil_iff.mpr empty]
  have answered : (listed state host).step (.usedIdsReply host codes number draws) =
      some (((listed state host).setUsedIds host []).setSession host
        (((listed state host).sessions host).answered .usedIds).usedIdsFailed) := by
    simp only [step, read]
  have unsent : ((((listed state host).setUsedIds host []).setSession host
      (((listed state host).sessions host).answered .usedIds).usedIdsFailed).sessions
        host).firestore.sent = [] := by
    rw [setSession_self, (same_usedIdsFailed _).sent, listed_sessions]
    exact idle.sent
  have ended := createFlow_eq idle creatable codes number draws
  rw [answered, Option.map_some, step_setDataApplied_of_unsent unsent, Option.getD_none] at ended
  refine ⟨_, ended, empty, ?_⟩
  rw [setSession_self]
  rfl

/-- A client that was started with other settings ends the app. -/
theorem createFlow_of_started (started : ¬ state.Creatable host) :
    state.createFlow host codes number draws = none := by
  cases pressed : state.step (.createPressed host) with
  | none =>
      rw [createFlow, pressed]
      rfl
  | some next => exact absurd (step_createPressed pressed).1 started

/-- With a document a code is drawn, and its group is written. -/
theorem createFlow_of_drawn (idle : state.Idle host) (creatable : state.Creatable host)
    (some : state.groups ≠ ∅) {groupId : Int}
    (free : Session.checkForMachInIds state.groups.keys codes = .some groupId) :
    ∃ final, state.createFlow host codes number draws = .some final ∧
      final.groups = state.groups.write (groupId, FirebaseManager.createGroup number) ∧
      (final.sessions host).groupId = .some groupId ∧ final.activeGroupId host = .some groupId := by
  have nonempty : state.groups.keys ≠ [] := fun none => some (keys_eq_nil_iff.mp none)
  obtain ⟨active, _, sent⟩ :=
    usedIdsReply_spec ((listed state host).sessions host) groupId number draws
  have controller : ((((listed state host).sessions host).answered .usedIds).usedIdsReply groupId
      number draws).groupId = .some groupId := by
    simp [Session.usedIdsReply]
  have answered :=
    step_usedIdsReply_of_drawn (listed_usedIds state host) nonempty free number draws
  generalize (((listed state host).sessions host).answered .usedIds).usedIdsReply groupId
    number draws = session at active sent controller answered
  have before : ((listed state host).sessions host).firestore.sent = [] := by
    rw [listed_sessions]
    exact idle.sent
  have sends : ((((listed state host).setUsedIds host []).setSession host session).sessions
      host).firestore.sent = [(groupId, FirebaseManager.createGroup number)] := by
    rw [setSession_self, sent, before]
    rfl
  have ended := createFlow_eq idle creatable codes number draws
  rw [answered, Option.map_some, step_setDataApplied_of_sent sends, Option.getD_some] at ended
  refine ⟨_, ended, rfl, ?_, ?_⟩
  · change ((GroupCreation.setSession _ _ _).sessions host).groupId = _
    rw [setSession_self, setSession_self]
    exact controller
  · change ((GroupCreation.setSession _ _ _).sessions host).firebaseManager.activeGroupId = _
    rw [setSession_self, setSession_self]
    exact active

/-- A group is created exactly when there is one already, and the client of the launch was
not started with other settings. -/
theorem createFlow_creates_iff (idle : state.Idle host)
    (free : ∃ code ∈ codes, (code : Int) + 1 ∉ state.groups) :
    (∃ final groupId, state.createFlow host codes number draws = some final ∧
      Creates state.groups host number groupId final) ↔
        state.groups ≠ ∅ ∧ state.Creatable host := by
  constructor
  · rintro ⟨final, groupId, ended, creates⟩
    have creatable : state.Creatable host := by
      by_contra started
      rw [createFlow_of_started codes number draws started] at ended
      cases ended
    refine ⟨fun empty => ?_, creatable⟩
    obtain ⟨_, same, unchanged, _⟩ := createFlow_of_empty codes number draws idle creatable empty
    obtain rfl := Option.some.inj (ended.symm.trans same)
    have document := creates.document
    rw [unchanged] at document
    cases document
  · rintro ⟨some, creatable⟩
    have unused : ∃ code ∈ codes, (code : Int) + 1 ∉ state.groups.keys := free
    obtain ⟨groupId, found, range, fresh⟩ := checkForMachInIds_of_free unused
    obtain ⟨final, ended, groups, controller, active⟩ :=
      createFlow_of_drawn codes number draws idle creatable some found
    refine ⟨final, groupId, ended, range, fresh, ?_, fun code other => ?_, controller, active⟩
    · rw [groups, Groups.lookup_write_self]
      rfl
    · rw [groups, Groups.lookup_write_ne _ other]

end

/-- The code of group 7 is drawn first. -/
theorem createFlow_creates_groupSeven :
    (∃ final groupId,
      (launched groupSeven).createFlow () [⟨6, by decide⟩, ⟨99, by decide⟩] 5 id = some final ∧
        Creates groupSeven () 5 groupId final) ↔
      groupSeven ≠ ∅ ∧ (launched groupSeven : GroupCreation Unit).Creatable () :=
  createFlow_creates_iff [⟨6, by decide⟩, ⟨99, by decide⟩] 5 id (idle_launched groupSeven ())
    ⟨⟨99, by decide⟩, by decide, by decide⟩

/-! ### A server without groups -/

/-- Nothing is there, was read or is on its way. -/
structure Deserted (state : GroupCreation Host) : Prop where
  groups : state.groups = ∅
  usedIds : ∀ host, ∀ groupIds ∈ state.usedIds host, groupIds = []
  sent : ∀ host, (state.sessions host).firestore.sent = []

/-- A host that writes nothing. -/
theorem Deserted.setSession {state : GroupCreation Host} (deserted : state.Deserted) {host : Host}
    {session : Session} (same : Same (state.sessions host) session) :
    (state.setSession host session).Deserted where
  groups := deserted.groups
  usedIds := deserted.usedIds
  sent other := ((same_setSession same other).sent).trans (deserted.sent other)

/-- Reading an empty collection leaves the server deserted. -/
theorem Deserted.setUsedIds {state : GroupCreation Host} (deserted : state.Deserted) {host : Host}
    {usedIds : List (List Int)} (nothing : ∀ groupIds ∈ usedIds, groupIds = []) :
    (state.setUsedIds host usedIds).Deserted where
  groups := deserted.groups
  usedIds other := by
    rcases eq_or_ne other host with rfl | different
    · simpa only [GroupCreation.setUsedIds, Function.update_self] using nothing
    · simpa only [GroupCreation.setUsedIds, Function.update_of_ne different]
        using deserted.usedIds other
  sent := deserted.sent

/-- On a deserted server no step creates anything. -/
theorem deserted_step {state next : GroupCreation Host} {action : Action Host}
    (deserted : state.Deserted) (taken : state.step action = some next) : next.Deserted := by
  cases action with
  | createPressed host =>
      obtain ⟨_, rfl⟩ := step_createPressed taken
      exact deserted.setSession (same_asked _)
  | documentsRead host =>
      simp only [step, Option.ite_none_right_eq_some, Option.some.injEq] at taken
      obtain ⟨_, rfl⟩ := taken
      refine deserted.setUsedIds fun groupIds member => ?_
      rcases List.mem_append.mp member with earlier | now
      · exact deserted.usedIds host groupIds earlier
      · rw [List.mem_singleton.mp now, keys_eq_nil_iff.mpr deserted.groups]
  | usedIdsReply host codes number draws =>
      obtain ⟨groupIds, rest, read, result⟩ := step_usedIdsReply taken
      have nothing := deserted.usedIds host
      rw [read] at nothing
      rcases result with ⟨_, rfl⟩ | ⟨nonempty, _⟩
      · have answered : (state.setUsedIds host rest).Deserted :=
          deserted.setUsedIds fun groupIds member =>
            nothing groupIds (List.mem_cons_of_mem _ member)
        exact answered.setSession (same_usedIdsFailed _)
      · exact absurd (nothing groupIds List.mem_cons_self) nonempty
  | usedIdsFailed host =>
      simp only [step, Option.ite_none_right_eq_some, Option.some.injEq] at taken
      obtain ⟨_, rfl⟩ := taken
      exact deserted.setSession (same_usedIdsFailed _)
  | setDataApplied host =>
      rw [step_setDataApplied_of_unsent (deserted.sent host)] at taken
      cases taken

/-- However many hosts try, none creates the first group. -/
theorem groups_empty_runs {actions : List (Action Host)} {state : GroupCreation Host}
    (runs : (system ∅).Runs actions state) : state.groups = ∅ := by
  refine (runs.invariant Deserted ?_ deserted_step).groups
  rintro _ rfl
  exact ⟨rfl, fun _ _ impossible => absurd impossible List.not_mem_nil, fun _ => rfl⟩

/-- The first group is never created. -/
theorem not_createFlow_creates_empty :
    ¬ ∀ (existing : Groups) (codes : List (Fin 10000)) (number : Int) (draws : Nat → Nat),
      (∀ code ∈ existing, 1 ≤ code ∧ code ≤ 10000) →
      (∃ code ∈ codes, (code : Int) + 1 ∉ existing) →
        ∃ final groupId, (launched existing).createFlow () codes number draws = some final ∧
          Creates existing () number groupId final := by
  intro always
  obtain ⟨final, groupId, ended, creates⟩ := always ∅ [⟨99, by decide⟩] 5 id
    (fun _ impossible => absurd impossible (AList.notMem_empty _))
    ⟨⟨99, by decide⟩, by decide, AList.notMem_empty _⟩
  have document := creates.document
  have empty : (launched ∅ : GroupCreation Unit).groups = ∅ := rfl
  obtain ⟨_, same, unchanged, _⟩ :=
    createFlow_of_empty [⟨99, by decide⟩] 5 id (idle_launched ∅ ()) (creatable_launched ∅ ()) empty
  obtain rfl := Option.some.inj (ended.symm.trans same)
  rw [unchanged] at document
  cases document

end TinderDinner.GroupCreation
