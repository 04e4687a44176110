import TinderDinner.Protocol.Network

/-!
# Hosts that create groups at the same time

Create reads the ids of all documents, draws a code that is not among them and writes the
whole document of the new group. Between the reading and the writing of one host the
others go on, and the code it draws may be theirs by then.
-/

namespace TinderDinner

/-- Hosts that create groups, over one collection of documents. -/
structure GroupCreation (Host : Type) where
  sessions : Host → Session
  /-- What was read for a host and has not arrived yet, the oldest answer first. -/
  usedIds : Host → List (List Int)
  groups : Groups

namespace GroupCreation

variable {Host : Type}

/-- What happens on the way to a new group. -/
inductive Action (Host : Type) where
  | createPressed (host : Host)
  /-- The server reads the collection for `getUsedIds`. -/
  | documentsRead (host : Host)
  /-- The answer arrives; the codes, the setting and the letters drawn follow. -/
  | usedIdsReply (host : Host) (codes : List (Fin 10000)) (numberOfDesieredCards : Int)
      (draws : Nat → Nat)
  /-- `getUsedIds` ends with an error. -/
  | usedIdsFailed (host : Host)
  /-- A write of the host has arrived at the server. -/
  | setDataApplied (host : Host)

/-- The code that a host holds. -/
def activeGroupId (state : GroupCreation Host) (host : Host) : Option Int :=
  (state.sessions host).firebaseManager.activeGroupId

/-- The host holds it as the group's creator. -/
def isGroupCreator (state : GroupCreation Host) (host : Host) : Bool :=
  (state.sessions host).firebaseManager.isGroupCreator

/-- The codes of the writes on their way. -/
def pending (state : GroupCreation Host) (host : Host) : List Int :=
  (state.sessions host).firestore.sent.map (·.1)

/-- The oldest write is no longer on its way. -/
@[simps] def firstDelivered (session : Session) : Session :=
  { session with
    firestore := { session.firestore with sent := session.firestore.sent.tail } }

/-- The client has its settings, and the ids are asked for. -/
def asked (session : Session) : Session :=
  (session.setShared { session.firestore.shared with
    settings := Session.withoutPersistence }).ask .usedIds

section

variable [DecidableEq Host]

/-- Another session for a host. -/
def setSession (state : GroupCreation Host) (host : Host) (session : Session) :
    GroupCreation Host :=
  { state with sessions := Function.update state.sessions host session }

/-- Other answers on their way to a host. -/
def setUsedIds (state : GroupCreation Host) (host : Host) (usedIds : List (List Int)) :
    GroupCreation Host :=
  { state with usedIds := Function.update state.usedIds host usedIds }

/-- One action, where it is possible and does not trap. -/
def step (state : GroupCreation Host) : Action Host → Option (GroupCreation Host)
  | .createPressed host =>
      (state.sessions host).getUsedIds.toOption.map (state.setSession host)
  | .documentsRead host =>
      if (state.usedIds host).length < (state.sessions host).firestore.requests.count .usedIds then
        some (state.setUsedIds host (state.usedIds host ++ [state.groups.keys]))
      else none
  | .usedIdsReply host codes numberOfDesieredCards draws =>
      match state.usedIds host with
      | [] => none
      | [] :: rest =>
          some ((state.setUsedIds host rest).setSession host
            ((state.sessions host).answered .usedIds).usedIdsFailed)
      | groupIds :: rest =>
          match Session.checkForMachInIds groupIds codes with
          | some groupId =>
              some ((state.setUsedIds host rest).setSession host
                (((state.sessions host).answered .usedIds).usedIdsReply groupId
                  numberOfDesieredCards draws))
          | none => none
  | .usedIdsFailed host =>
      if (state.usedIds host).length < (state.sessions host).firestore.requests.count .usedIds then
        some (state.setSession host ((state.sessions host).answered .usedIds).usedIdsFailed)
      else none
  | .setDataApplied host =>
      match (state.sessions host).firestore.sent with
      | [] => none
      | write :: _ =>
          some { state.setSession host (firstDelivered (state.sessions host)) with
            groups := state.groups.write write }

/-- All hosts are launched, with some documents on the server. -/
def launched (existing : Groups) : GroupCreation Host where
  sessions _ := Session.launched
  usedIds _ := []
  groups := existing

/-- Every run of the hosts from a launch. -/
def system (existing : Groups) : LabelledSystem (GroupCreation Host) (Action Host) :=
  .ofStep (· = launched existing) step

end

/-- No two hosts hold the same code, and no document is there before its group. -/
structure CodesUnique (state : GroupCreation Host) : Prop where
  distinct : ∀ host other, host ≠ other → state.isGroupCreator host = true →
    state.isGroupCreator other = true → state.activeGroupId host ≠ state.activeGroupId other
  absent : ∀ host, ∀ code ∈ state.pending host, code ∉ state.groups

/-- Nobody has drawn the code yet: it has no document, and none is on its way. -/
def Unclaimed (state : GroupCreation Host) (groupId : Int) : Prop :=
  groupId ∉ state.groups ∧ ∀ host, groupId ∉ state.pending host

/-- The codes that are drawn are not those of others, drawn since the ids were read. -/
def DrawsUnclaimed (state : GroupCreation Host) : Action Host → Prop
  | .usedIdsReply host codes _ _ =>
      match state.usedIds host with
      | [] => True
      | groupIds :: _ =>
          groupIds ≠ [] →
            ∀ groupId ∈ Session.checkForMachInIds groupIds codes, state.Unclaimed groupId
  | _ => True

/-! ### What a host holds and sends -/

/-- What a step leaves of what a host holds and sends. -/
structure Same (session next : Session) : Prop where
  activeGroupId : next.firebaseManager.activeGroupId = session.firebaseManager.activeGroupId
  isGroupCreator : next.firebaseManager.isGroupCreator = session.firebaseManager.isGroupCreator
  sent : next.firestore.sent = session.firestore.sent

/-- Asking for the codes changes nothing of what a host holds. -/
theorem same_asked (session : Session) : Same session (asked session) := ⟨rfl, rfl, rfl⟩

/-- An answer that fails changes nothing of what a host holds. -/
theorem same_usedIdsFailed (session : Session) :
    Same session (session.answered .usedIds).usedIdsFailed := by
  unfold Session.usedIdsFailed Session.displayErrorMessage
  constructor <;> simp

/-- The host that has drawn a code holds it, and creates its group. -/
theorem usedIdsReply_spec (session : Session) (groupId number : Int) (draws : Nat → Nat) :
    let next := (session.answered .usedIds).usedIdsReply groupId number draws
    next.firebaseManager.activeGroupId = some groupId ∧
      next.firebaseManager.isGroupCreator = true ∧
      next.firestore.sent =
        session.firestore.sent ++ [(groupId, FirebaseManager.createGroup number)] := by
  unfold Session.usedIdsReply
  refine ⟨?_, ?_, ?_⟩ <;> simp

/-- Every held code is that of a group or on its way to be one, and no code is on its way
twice, or to a document that is there. -/
structure Inv (state : GroupCreation Host) : Prop extends CodesUnique state where
  held : ∀ host, state.isGroupCreator host = true → ∃ code,
    state.activeGroupId host = some code ∧ (code ∈ state.groups ∨ code ∈ state.pending host)
  creates : ∀ host, ∀ write ∈ (state.sessions host).firestore.sent,
    ∃ number, write.2 = FirebaseManager.createGroup number
  once : ∀ host, (state.pending host).Nodup
  apart : ∀ host other, host ≠ other → ∀ code ∈ state.pending host, code ∉ state.pending other

/-- At the launch no code is held and none is on its way. -/
theorem inv_launched (existing : Groups) : Inv (launched existing : GroupCreation Host) where
  distinct := by
    intro _ _ _ creator
    cases creator
  absent := by
    intro _ _ member
    cases member
  held := by
    intro _ creator
    cases creator
  creates := by
    intro _ _ member
    cases member
  once _ := List.nodup_nil
  apart := by
    intro _ _ _ _ member
    cases member

/-- The state of each host that matters is what it was. -/
theorem Inv.same {state next : GroupCreation Host} (inv : Inv state)
    (groups : next.groups = state.groups)
    (same : ∀ host, Same (state.sessions host) (next.sessions host)) : Inv next := by
  have active : ∀ host, next.activeGroupId host = state.activeGroupId host :=
    fun host => (same host).activeGroupId
  have creator : ∀ host, next.isGroupCreator host = state.isGroupCreator host :=
    fun host => (same host).isGroupCreator
  have sent : ∀ host, next.pending host = state.pending host := by
    intro host
    rw [pending, (same host).sent, pending]
  constructor
  case toCodesUnique =>
    constructor
    · intro host other different
      rw [creator, creator, active, active]
      exact inv.distinct host other different
    · intro host code
      rw [sent, groups]
      exact inv.absent host code
  case held =>
    intro host
    rw [creator, active, groups, sent]
    exact inv.held host
  case creates =>
    intro host
    rw [(same host).sent]
    exact inv.creates host
  case once =>
    intro host
    rw [sent]
    exact inv.once host
  case apart =>
    intro host other
    rw [sent, sent]
    exact inv.apart host other

/-! ### One step -/

variable [DecidableEq Host]

/-- A step that keeps what its own host holds keeps what every host holds. -/
theorem same_setSession {state : GroupCreation Host} {host : Host} {session : Session}
    (same : Same (state.sessions host) session) (other : Host) :
    Same (state.sessions other) ((state.setSession host session).sessions other) := by
  rcases eq_or_ne other host with rfl | different
  · simpa [setSession] using same
  · simp only [setSession, Function.update_of_ne different]
    exact ⟨rfl, rfl, rfl⟩

/-- The host has the session it was given. -/
theorem setSession_self (state : GroupCreation Host) (host : Host) (session : Session) :
    (state.setSession host session).sessions host = session := Function.update_self ..

/-- The other hosts keep their sessions. -/
theorem setSession_ne {state : GroupCreation Host} {host other : Host} (session : Session)
    (different : other ≠ host) :
    (state.setSession host session).sessions other = state.sessions other :=
  Function.update_of_ne different ..

/-- A host draws a code that nobody has. -/
theorem Inv.drawn {state : GroupCreation Host} (inv : Inv state) {host : Host} {session : Session}
    {groupId number : Int} (unclaimed : state.Unclaimed groupId)
    (active : session.firebaseManager.activeGroupId = some groupId)
    (sent : session.firestore.sent = (state.sessions host).firestore.sent ++
      [(groupId, FirebaseManager.createGroup number)]) :
    Inv (state.setSession host session) := by
  generalize after : state.setSession host session = next
  have here : next.sessions host = session := after ▸ setSession_self state host session
  have elsewhere : ∀ other, other ≠ host → next.sessions other = state.sessions other :=
    fun other different => after ▸ setSession_ne session different
  have groups : next.groups = state.groups := by
    rw [← after]
    rfl
  have drew : next.activeGroupId host = some groupId := by rw [activeGroupId, here, active]
  have sends : next.pending host = state.pending host ++ [groupId] := by
    rw [pending, here, sent, List.map_append, pending]
    rfl
  have others : ∀ other, other ≠ host → next.pending other = state.pending other := by
    intro other different
    rw [pending, elsewhere other different, pending]
  have mem_pending : ∀ other code, code ∈ next.pending other ↔
      code ∈ state.pending other ∨ (other = host ∧ code = groupId) := by
    intro other code
    by_cases drawer : other = host
    · subst drawer
      simp [sends]
    · simp [others other drawer, drawer]
  -- what another host holds has a document or is on its way, and so is not the drawn code
  have foreign : ∀ other, other ≠ host → next.isGroupCreator other = true →
      next.activeGroupId other ≠ some groupId := by
    intro other different creator
    rw [isGroupCreator, elsewhere other different] at creator
    rw [activeGroupId, elsewhere other different]
    obtain ⟨code, holds, claimed⟩ := inv.held other creator
    rw [activeGroupId] at holds
    rw [holds]
    rintro ⟨⟩
    rcases claimed with document | way
    · exact unclaimed.1 document
    · exact unclaimed.2 other way
  constructor
  case toCodesUnique =>
    constructor
    · intro one other different creator creatorOther same
      by_cases drawer : one = host
      · subst drawer
        exact foreign other different.symm creatorOther (same ▸ drew)
      · by_cases drawerOther : other = host
        · subst drawerOther
          exact foreign one different creator (same.trans drew)
        · rw [isGroupCreator, elsewhere _ ‹_›] at creator creatorOther
          rw [activeGroupId, activeGroupId, elsewhere _ ‹_›, elsewhere _ ‹_›] at same
          exact inv.distinct one other different creator creatorOther same
    · intro other code member
      rw [groups]
      rcases (mem_pending other code).mp member with old | ⟨_, rfl⟩
      · exact inv.absent other code old
      · exact unclaimed.1
  case held =>
    intro other creator
    by_cases drawer : other = host
    · subst drawer
      exact ⟨groupId, drew, .inr (by simp [sends])⟩
    · rw [isGroupCreator, elsewhere other drawer] at creator
      obtain ⟨code, holds, claimed⟩ := inv.held other creator
      refine ⟨code, ?_, ?_⟩
      · rw [activeGroupId, elsewhere other drawer]
        exact holds
      · rwa [groups, others other drawer]
  case creates =>
    intro other write member
    by_cases drawer : other = host
    · subst drawer
      rw [here, sent, List.mem_append, List.mem_singleton] at member
      rcases member with old | rfl
      · exact inv.creates other write old
      · exact ⟨number, rfl⟩
    · rw [elsewhere other drawer] at member
      exact inv.creates other write member
  case once =>
    intro other
    by_cases drawer : other = host
    · subst drawer
      rw [sends]
      exact List.nodup_append.mpr ⟨inv.once other, List.nodup_singleton _, by
        intro code old drawn member
        rw [List.mem_singleton.mp member]
        rintro rfl
        exact unclaimed.2 other old⟩
    · rw [others other drawer]
      exact inv.once other
  case apart =>
    intro one other different code member memberOther
    rcases (mem_pending one code).mp member with old | ⟨rfl, rfl⟩ <;>
      rcases (mem_pending other code).mp memberOther with oldOther | ⟨rfl, same⟩
    · exact inv.apart one other different code old oldOther
    · exact unclaimed.2 one (same ▸ old)
    · exact unclaimed.2 other oldOther
    · exact different rfl

/-- Creating a group adds its code and no other. -/
theorem mem_write_createGroup {groups : Groups} {code groupId number : Int} :
    code ∈ groups.write (groupId, FirebaseManager.createGroup number) ↔
      code = groupId ∨ code ∈ groups := AList.mem_insert _

/-- The oldest write of a host arrives, and makes the document of its group. -/
theorem Inv.applied {state : GroupCreation Host} (inv : Inv state) {host : Host}
    {write : Int × DocumentWrite} {rest : List (Int × DocumentWrite)}
    (sent : (state.sessions host).firestore.sent = write :: rest) :
    Inv { state.setSession host (firstDelivered (state.sessions host)) with
      groups := state.groups.write write } := by
  obtain ⟨number, creates⟩ := inv.creates host write (by rw [sent]; exact List.mem_cons_self)
  obtain ⟨groupId, _⟩ := write
  subst creates
  generalize after : ({ state.setSession host (firstDelivered (state.sessions host)) with
      groups := state.groups.write (groupId, FirebaseManager.createGroup number) } :
        GroupCreation Host) = next
  have here : next.sessions host = firstDelivered (state.sessions host) :=
    after ▸ setSession_self state host _
  have elsewhere : ∀ other, other ≠ host → next.sessions other = state.sessions other :=
    fun other different => after ▸ setSession_ne _ different
  have documents : ∀ code, code ∈ next.groups ↔ code = groupId ∨ code ∈ state.groups := by
    intro code
    rw [← after]
    exact mem_write_createGroup
  have before : state.pending host = groupId :: rest.map (·.1) := by rw [pending, sent]; rfl
  have sends : next.pending host = rest.map (·.1) := by
    rw [pending, here, firstDelivered_firestore_sent, sent]
    rfl
  have others : ∀ other, other ≠ host → next.pending other = state.pending other := by
    intro other different
    rw [pending, elsewhere other different, pending]
  have fewer : ∀ other, ∀ code ∈ next.pending other, code ∈ state.pending other := by
    intro other code member
    by_cases sender : other = host
    · subst sender
      rw [sends] at member
      rw [before]
      exact List.mem_cons_of_mem _ member
    · rwa [others other sender] at member
  have active : ∀ other, next.activeGroupId other = state.activeGroupId other := by
    intro other
    by_cases sender : other = host
    · subst sender
      rw [activeGroupId, here]
      rfl
    · rw [activeGroupId, elsewhere other sender, activeGroupId]
  have creator : ∀ other, next.isGroupCreator other = state.isGroupCreator other := by
    intro other
    by_cases sender : other = host
    · subst sender
      rw [isGroupCreator, here]
      rfl
    · rw [isGroupCreator, elsewhere other sender, isGroupCreator]
  have onceHere := inv.once host
  rw [before, List.nodup_cons] at onceHere
  constructor
  case toCodesUnique =>
    constructor
    · intro one other different
      rw [creator, creator, active, active]
      exact inv.distinct one other different
    · intro other code member document
      rcases (documents code).mp document with rfl | old
      · by_cases sender : other = host
        · subst sender
          rw [sends] at member
          exact onceHere.1 member
        · exact inv.apart host other (Ne.symm sender) code
            (by rw [before]; exact List.mem_cons_self) (fewer other code member)
      · exact inv.absent other code (fewer other code member) old
  case held =>
    intro other
    rw [creator, active]
    intro created
    obtain ⟨code, holds, claimed⟩ := inv.held other created
    refine ⟨code, holds, ?_⟩
    rw [documents]
    rcases claimed with old | way
    · exact .inl (.inr old)
    · by_cases sender : other = host
      · subst sender
        rw [before, List.mem_cons] at way
        rw [sends]
        tauto
      · rw [others other sender]
        exact .inr way
  case creates =>
    intro other sentWrite member
    by_cases sender : other = host
    · subst sender
      rw [here, firstDelivered_firestore_sent, sent] at member
      exact inv.creates other sentWrite (by rw [sent]; exact List.mem_cons_of_mem _ member)
    · rw [elsewhere other sender] at member
      exact inv.creates other sentWrite member
  case once =>
    intro other
    by_cases sender : other = host
    · subst sender
      rw [sends]
      exact onceHere.2
    · rw [others other sender]
      exact inv.once other
  case apart =>
    intro one other different code member memberOther
    exact inv.apart one other different code (fewer one code member) (fewer other code memberOther)

/-- What an answer does: nothing was read, or a code is drawn that is not in what was. -/
theorem step_usedIdsReply {state next : GroupCreation Host} {host : Host}
    {codes : List (Fin 10000)} {number : Int} {draws : Nat → Nat}
    (taken : state.step (.usedIdsReply host codes number draws) = some next) :
    ∃ groupIds rest, state.usedIds host = groupIds :: rest ∧
      ((groupIds = [] ∧ next = (state.setUsedIds host rest).setSession host
          ((state.sessions host).answered .usedIds).usedIdsFailed) ∨
        (groupIds ≠ [] ∧ ∃ groupId, Session.checkForMachInIds groupIds codes = some groupId ∧
          next = (state.setUsedIds host rest).setSession host
            (((state.sessions host).answered .usedIds).usedIdsReply groupId number draws))) := by
  simp only [step] at taken
  split at taken
  next => cases taken
  next rest read =>
    obtain rfl := Option.some.inj taken
    exact ⟨[], rest, read, .inl ⟨rfl, rfl⟩⟩
  next groupIds rest nonempty read =>
    split at taken
    next groupId free =>
      obtain rfl := Option.some.inj taken
      exact ⟨groupIds, rest, read, .inr ⟨nonempty, groupId, free, rfl⟩⟩
    next => cases taken

/-- The settings and the query of a host whose client takes them. -/
theorem step_createPressed {state next : GroupCreation Host} {host : Host}
    (taken : state.step (.createPressed host) = some next) :
    (state.sessions host).firestore.shared.Accepts Session.withoutPersistence ∧
      next = state.setSession host (asked (state.sessions host)) := by
  simp only [step, Option.map_eq_some_iff, Swift.toOption_eq_some,
    Session.getUsedIds_eq_ok_iff] at taken
  obtain ⟨_, ⟨accepts, rfl⟩, rfl⟩ := taken
  exact ⟨accepts, rfl⟩

/-- Where the client takes the settings, Create asks for the codes. -/
theorem step_createPressed_of_accepts {state : GroupCreation Host} {host : Host}
    (accepts : (state.sessions host).firestore.shared.Accepts Session.withoutPersistence) :
    state.step (.createPressed host) =
      some (state.setSession host (asked (state.sessions host))) := by
  have pressed : (state.sessions host).getUsedIds = .ok (asked (state.sessions host)) :=
    Session.getUsedIds_eq_ok_iff.mpr ⟨accepts, rfl⟩
  rw [step, pressed]
  rfl

/-- A step that draws unclaimed codes keeps the invariant. -/
theorem inv_step {state next : GroupCreation Host} {action : Action Host} (inv : Inv state)
    (unclaimed : state.DrawsUnclaimed action) (taken : state.step action = some next) :
    Inv next := by
  cases action with
  | createPressed host =>
      obtain ⟨_, rfl⟩ := step_createPressed taken
      exact inv.same rfl (same_setSession (same_asked _))
  | documentsRead host =>
      simp only [step, Option.ite_none_right_eq_some, Option.some.injEq] at taken
      obtain ⟨_, rfl⟩ := taken
      exact inv.same rfl fun _ => ⟨rfl, rfl, rfl⟩
  | usedIdsReply host codes number draws =>
      obtain ⟨groupIds, rest, read, result⟩ := step_usedIdsReply taken
      have quiet : Inv (state.setUsedIds host rest) := inv.same rfl fun _ => ⟨rfl, rfl, rfl⟩
      rcases result with ⟨_, rfl⟩ | ⟨nonempty, groupId, free, rfl⟩
      · exact quiet.same rfl (same_setSession (same_usedIdsFailed _))
      · simp only [DrawsUnclaimed, read] at unclaimed
        obtain ⟨active, _, sent⟩ := usedIdsReply_spec (state.sessions host) groupId number draws
        exact quiet.drawn (unclaimed nonempty groupId free) active sent
  | usedIdsFailed host =>
      simp only [step, Option.ite_none_right_eq_some, Option.some.injEq] at taken
      obtain ⟨_, rfl⟩ := taken
      exact inv.same rfl (same_setSession (same_usedIdsFailed _))
  | setDataApplied host =>
      simp only [step] at taken
      split at taken
      next => cases taken
      next write rest sent =>
        obtain rfl := Option.some.inj taken
        exact inv.applied sent

/-- However many hosts create groups, and in whatever order their steps come: while no
code is drawn that another host has drawn since the ids were read, every host has a code
of its own and no document is overwritten. -/
theorem codesUnique_runs {existing : Groups} {actions : List (Action Host)}
    {state : GroupCreation Host}
    (runs : ((system existing).restrict DrawsUnclaimed).Runs actions state) :
    CodesUnique state := by
  refine (runs.invariant Inv ?_ ?_).toCodesUnique
  · rintro _ rfl
    exact inv_launched existing
  · rintro _ _ _ inv ⟨unclaimed, taken⟩
    exact inv_step inv unclaimed taken

/-- A host that draws the code of a group that is there, or of another host, has it. -/
theorem not_codesUnique_of_claimed {state next : GroupCreation Host} {host : Host}
    {codes : List (Fin 10000)} {number groupId : Int} {draws : Nat → Nat} {groupIds : List Int}
    {rest : List (List Int)} (read : state.usedIds host = groupIds :: rest)
    (nonempty : groupIds ≠ []) (free : Session.checkForMachInIds groupIds codes = some groupId)
    (claimed : groupId ∈ state.groups ∨ ∃ other, other ≠ host ∧
      state.isGroupCreator other = true ∧ state.activeGroupId other = some groupId)
    (taken : state.step (.usedIdsReply host codes number draws) = some next) :
    ¬ CodesUnique next := by
  intro unique
  obtain ⟨_, _, again, result⟩ := step_usedIdsReply taken
  obtain ⟨rfl, rfl⟩ := List.cons.inj (read.symm.trans again)
  rcases result with ⟨nothing, _⟩ | ⟨_, _, drawn, rfl⟩
  · exact nonempty nothing
  · obtain rfl := Option.some.inj (free.symm.trans drawn)
    obtain ⟨active, creator, sent⟩ := usedIdsReply_spec (state.sessions host) groupId number draws
    rcases claimed with document | ⟨other, different, created, holds⟩
    · refine unique.absent host groupId ?_ document
      rw [pending, setSession_self]
      change groupId ∈ (Session.usedIdsReply _ groupId number draws).firestore.sent.map (·.1)
      rw [sent]
      simp
    · refine unique.distinct other host different ?_ ?_ ?_
      · rwa [isGroupCreator, setSession_ne _ different]
      · rw [isGroupCreator, setSession_self]
        exact creator
      · rw [activeGroupId, activeGroupId, setSession_self, setSession_ne _ different]
        exact holds.trans active.symm

instance [Fintype Host] (state : GroupCreation Host) (groupId : Int) :
    Decidable (state.Unclaimed groupId) := inferInstanceAs (Decidable (_ ∧ _))

instance [Fintype Host] (state : GroupCreation Host) :
    (action : Action Host) → Decidable (state.DrawsUnclaimed action)
  | .usedIdsReply host codes _ _ =>
      match read : state.usedIds host with
      | [] => .isTrue (by simp [DrawsUnclaimed, read])
      | groupIds :: _ =>
          decidable_of_iff (groupIds ≠ [] →
            ∀ groupId ∈ Session.checkForMachInIds groupIds codes, state.Unclaimed groupId)
            (by simp [DrawsUnclaimed, read])
  | .createPressed _ | .documentsRead _ | .usedIdsFailed _ | .setDataApplied _ =>
      .isTrue trivial

/-- Two hosts create their groups beside group 7. -/
def creating (first second : Fin 10000) : List (Action Bool) :=
  [.createPressed false, .createPressed true, .documentsRead false, .documentsRead true,
    .usedIdsReply false [first] 5 id, .usedIdsReply true [second] 5 id, .setDataApplied false]

/-- The collection with group 7 alone. -/
def groupSeven : Groups :=
  ⟨[⟨7, FirebaseManager.newGroup 5⟩], by simp [List.NodupKeys, List.keys]⟩

/-- What the two hosts of the example come to. -/
def created (first second : Fin 10000) : Option (GroupCreation Bool) :=
  LabelledSystem.replay (LabelledSystem.guarded DrawsUnclaimed step) (launched groupSeven)
    (creating first second)

/-- The two hosts of the example hold two codes. -/
theorem codesUnique_creating :
    ∃ state : GroupCreation Bool,
      ((system groupSeven).restrict DrawsUnclaimed).Runs
        (creating ⟨41, by decide⟩ ⟨42, by decide⟩) state ∧ CodesUnique state := by
  have some : (created ⟨41, by decide⟩ ⟨42, by decide⟩).isSome := by decide
  have runs : ((system groupSeven).restrict DrawsUnclaimed).Runs _ _ :=
    LabelledSystem.restrict_runs_of_replay rfl (Option.some_get some).symm
  exact ⟨_, runs, codesUnique_runs runs⟩

/-- Both hosts read the ids before the other writes, and draw the same code. -/
theorem not_codesUnique_creating :
    ¬ ∀ (existing : Groups) (actions : List (Action Bool)) (state : GroupCreation Bool),
      (system existing).Runs actions state → CodesUnique state := by
  intro always
  have some : (LabelledSystem.replay step (launched groupSeven)
      (creating ⟨41, by decide⟩ ⟨41, by decide⟩)).isSome := by decide
  have unique := always _ _ _ (LabelledSystem.runs_of_replay rfl (Option.some_get some).symm)
  exact unique.distinct false true (by decide) rfl rfl rfl

end GroupCreation

end TinderDinner
