import TinderDinner.Firestore.ResourcePath
import TinderDinner.Protocol.DocumentStore

/-!
# The text that joins a group

The Join button takes the text as it is for the path of a document, and only afterwards for
a number. Slashes at either end are skipped in the path and not in the number, so a text can
count a participant in a group that nobody then joins.
-/

namespace TinderDinner

open Swift FirestoreCore

/-- `document(_:)` of the collection `Groups`. -/
def ResourcePath.document (documentPath : String) : Except Trap (List String) := do
  let subPath ← ResourcePath.fromString documentPath
  let path := "Groups" :: subPath
  let canonicalString := String.intercalate "/" path
  if path.length % 2 ≠ 0 then
    throw (.fatalError <| "Invalid document reference. Document references must have an even " ++
      s!"number of segments, but {canonicalString} has {path.length}")
  else return path

/-! ### The Join button -/

/-- Only groups have documents. -/
def Documents.document (documents : Documents) : List String → MaybeDocument
  | ["Groups", documentID] => documents.lookup documentID
  | _ => none

/-- The document whose participants are counted up, and the group that the device is in
after that. -/
structure JoinAnswer where
  counted : Option (List String)
  joined : Except Trap (Option Int)

/-- The handler of the Join button, when its request is answered with the document. -/
def joinConfirmed (documents : Documents) (inputCode : String) : JoinAnswer :=
  match ResourcePath.document inputCode with
  | .error trap => ⟨none, .error trap⟩
  | .ok path =>
      match getFirebaseObject (.ofSnapshot (documents.document path)) with
      | none => ⟨none, .ok none⟩
      | some _ => ⟨some path, (forceUnwrap (parseInt inputCode)).map some⟩

/-- The texts that are paths of one document. -/
def Addresses (text documentID : String) : Prop :=
  text = documentID ∨ text = "/" ++ documentID ∨ text = documentID ++ "/" ∨
    text = "/" ++ documentID ++ "/"

/-- A printed number is not empty. -/
theorem description_named (number : Int) : (description number).toList ≠ [] := by
  rw [toList_description]
  split
  · simp
  · exact Nat.toDigits_ne_nil

/-- A printed number has no slash. -/
theorem slash_notMem_description (number : Int) : '/' ∉ (description number).toList := by
  intro member
  rcases mem_of_parseSigned (parseSigned_description number) member with digit | minus | plus
  · exact absurd digit (by decide)
  · exact absurd minus (by decide)
  · exact absurd plus (by decide)

/-- A text is the path of a document exactly when it has no two slashes in a row and an odd
number of segments. -/
theorem document_eq_ok_iff {text : String} {path : List String} :
    ResourcePath.document text = .ok path ↔ ¬['/', '/'] <:+: text.toList ∧
      (ResourcePath.tokens text.toList).length % 2 = 1 ∧
      path = "Groups" :: (ResourcePath.tokens text.toList).map String.ofList := by
  unfold ResourcePath.document ResourcePath.fromString
  by_cases double : ['/', '/'] <:+: text.toList
  · rw [if_pos double]
    simp [double, throw, throwThe, MonadExceptOf.throw, bind, Except.bind]
  · rw [if_neg double]
    change (if ("Groups" :: (ResourcePath.tokens text.toList).map String.ofList).length % 2 ≠ 0
      then _ else Except.ok ("Groups" :: (ResourcePath.tokens text.toList).map String.ofList)) =
        .ok path ↔ _
    rw [List.length_cons, List.length_map]
    split
    next even =>
      simp only [throw, throwThe, MonadExceptOf.throw, reduceCtorEq, false_iff]
      rintro ⟨_, odd, _⟩
      omega
    next odd =>
      have one : (ResourcePath.tokens text.toList).length % 2 = 1 := by omega
      simp [double, one, eq_comm]

/-- The path is that of a name exactly when the name is the text's one segment. -/
theorem path_eq_iff {names : List (List Char)} {name : String} :
    ["Groups", name] = "Groups" :: names.map String.ofList ↔ names = [name.toList] := by
  constructor
  · intro same
    obtain ⟨_, mapped⟩ := List.cons.inj same
    obtain ⟨only, rfl, rfl⟩ := List.map_eq_singleton_iff.mp mapped.symm
    rw [String.toList_ofList]
  · rintro rfl
    simp

/-- The paths that lead to the document of a code. -/
theorem document_eq_group_iff {text : String} {code : Int} :
    ResourcePath.document text = .ok ["Groups", description code] ↔
      Addresses text (description code) := by
  have named := description_named code
  have apart := slash_notMem_description code
  rw [document_eq_ok_iff, path_eq_iff]
  constructor
  · rintro ⟨single, _, one⟩
    have texts := (ResourcePath.tokens_eq_singleton_iff named apart).mp ⟨single, one⟩
    simp only [Addresses, ← String.toList_inj, String.toList_append]
    exact texts
  · intro addresses
    simp only [Addresses, ← String.toList_inj, String.toList_append] at addresses
    obtain ⟨single, one⟩ := (ResourcePath.tokens_eq_singleton_iff named apart).mpr addresses
    exact ⟨single, by rw [one]; rfl, one⟩

/-- A group is found at the path of its code, and nowhere else. -/
theorem found_iff {documents : Documents} {groups : Groups} (stores : Stores documents groups)
    (path : List String) :
    getFirebaseObject (.ofSnapshot (documents.document path)) ≠ none ↔
      ∃ code ∈ groups, path = ["Groups", description code] := by
  constructor
  · intro found
    unfold Documents.document at found
    split at found
    next documentID =>
      have there : documentID ∈ documents.keys := by
        by_contra absent
        have nothing : documents.lookup documentID = none := AList.lookup_eq_none.mpr absent
        rw [nothing] at found
        exact found rfl
      rw [stores.keys, List.mem_map] at there
      obtain ⟨code, member, rfl⟩ := there
      exact ⟨code, member, rfl⟩
    next => exact absurd rfl found
  · rintro ⟨code, member, rfl⟩
    have there : groups.lookup code ≠ none := fun absent => AList.lookup_eq_none.mp absent member
    rw [Documents.document, (stores.holds code).ofSnapshot, getFirebaseObject_ofDocument]
    exact there

/-- Of the four texts that address a group only the code itself is a number. -/
theorem parseInt_of_addresses {text : String} {code : Int} (isInt : IsInt code)
    (addresses : Addresses text (description code)) :
    parseInt text = if text = description code then some code else none := by
  split
  next same => rw [same, parseInt_of_isInt isInt]
  next other =>
    have slash : '/' ∈ text.toList := by
      rcases addresses with same | rfl | rfl | rfl
      · exact absurd same other
      all_goals
        rw [String.toList_append]
        simp
    exact parseInt_eq_none slash (by decide)

/-- A text that is the path of no document. -/
def Refused (text : String) : Prop :=
  ['/', '/'] <:+: text.toList ∨ (ResourcePath.tokens text.toList).length % 2 = 0

/-- A refused text makes the client trap. -/
theorem document_of_refused {text : String} (refused : Refused text) :
    ∃ trap, ResourcePath.document text = .error trap := by
  cases path : ResourcePath.document text with
  | error trap => exact ⟨trap, rfl⟩
  | ok path =>
      obtain ⟨single, odd, _⟩ := document_eq_ok_iff.mp path
      rcases refused with double | even
      · exact absurd double single
      · omega

/-- Any other text is a path. -/
theorem document_of_not_refused {text : String} (accepted : ¬Refused text) :
    ∃ path, ResourcePath.document text = .ok path := by
  rw [Refused, not_or] at accepted
  exact ⟨_, document_eq_ok_iff.mpr ⟨accepted.1, by omega, rfl⟩⟩

/-- A text that is the code of a group but for a slash at either end counts a participant
in it, and then the code itself joins the group and any other such text ends the process. A
text that is no path ends it at once, and with all others nothing happens. -/
theorem joinConfirmed_outcome {documents : Documents} {groups : Groups}
    (stores : Stores documents groups) (text : String) :
    (∀ code ∈ groups, Addresses text (description code) →
        joinConfirmed documents text =
          { counted := some ["Groups", description code]
            joined := if text = description code then .ok (some code)
              else .error .unexpectedNil }) ∧
      (Refused text → ∃ trap, joinConfirmed documents text = ⟨none, .error trap⟩) ∧
      (¬Refused text → (∀ code ∈ groups, ¬Addresses text (description code)) →
        joinConfirmed documents text = ⟨none, .ok none⟩) := by
  refine ⟨fun code member addresses => ?_, fun refused => ?_, fun accepted elsewhere => ?_⟩
  · have path := document_eq_group_iff.mpr addresses
    have there := (found_iff stores _).mpr ⟨code, member, rfl⟩
    obtain ⟨group, found⟩ := Option.ne_none_iff_exists'.mp there
    have number := parseInt_of_addresses (stores.fits code member) addresses
    simp only [joinConfirmed, path, found, number]
    split <;> rfl
  · obtain ⟨trap, path⟩ := document_of_refused refused
    exact ⟨trap, by rw [joinConfirmed, path]⟩
  · obtain ⟨path, leads⟩ := document_of_not_refused accepted
    have nowhere : getFirebaseObject (.ofSnapshot (documents.document path)) = none := by
      by_contra found
      obtain ⟨code, member, rfl⟩ := (found_iff stores path).mp found
      exact elsewhere code member (document_eq_group_iff.mp leads)
    simp only [joinConfirmed, leads, nowhere]

/-- The code of group 42 with a slash after it. -/
theorem joinConfirmed_outcome_slash :
    joinConfirmed StoredNetwork.otherDocument "42/" =
      ⟨some ["Groups", "42"], .error .unexpectedNil⟩ :=
  (joinConfirmed_outcome StoredNetwork.stores_otherDocument "42/").1 42
    (by decide) (.inr (.inr (.inl (by decide))))

end TinderDinner
