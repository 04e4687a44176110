import TinderDinner.Firestore.FieldValue

/-!
# Field paths as texts

A write names its fields to the server, and to the file in which it waits, by texts. A name
that is no identifier is put between backticks there: an id that begins with a digit, say.
`fromServerFormat` reads exactly the texts of `serverFormat`, so it reads back every path
without an empty name and without a null character.
-/

namespace FirestoreCore

/-- The codes of the statuses that readers end with. -/
inductive ErrorCode where
  | invalidArgument
  | dataLoss
  deriving DecidableEq

/-- A status that is not OK. -/
structure Status where
  code : ErrorCode
  errorMessage : String
  deriving DecidableEq

namespace FieldPath

/-- The path of some segments and one more. -/
def ofSegments (segments : List String) (last : String) : FieldPath :=
  match segments with
  | [] => ⟨last, []⟩
  | first :: rest => ⟨first, rest ++ [last]⟩

/-- The last segment is the last name. -/
theorem names_ofSegments (segments : List String) (last : String) :
    (ofSegments segments last).names = segments ++ [last] := by
  cases segments <;> rfl

/-- The status of `finish_segment` where nothing was read since the last dot. -/
def segmentEmpty (path : String) : Status :=
  ⟨.invalidArgument, s!"Invalid field path ({path}). Paths must not be empty, begin with '.', " ++
    "end with '.', or contain '..'"⟩

/-- The path that was read up to here. -/
def finish (path : String) (segments : List String) (segment : List Char)
    (insideBackticks : Bool) : Except Status FieldPath :=
  if segment = [] then throw (segmentEmpty path)
  else if insideBackticks then throw ⟨.invalidArgument, s!"Unterminated ` in path {path}"⟩
  else return ofSegments segments (String.ofList segment)

/-- The loop over the text, with the segments that are finished, the one that is read, and
whether it is between backticks. -/
def readSegments (path : String) :
    List Char → List String → List Char → Bool → Except Status FieldPath
  | [], segments, segment, insideBackticks => finish path segments segment insideBackticks
  | c :: text, segments, segment, insideBackticks =>
      if c = '\x00' then finish path segments segment insideBackticks
      else if c = '.' then
        if insideBackticks then readSegments path text segments (segment ++ [c]) insideBackticks
        else if segment = [] then throw (segmentEmpty path)
        else readSegments path text (segments ++ [String.ofList segment]) [] insideBackticks
      else if c = '\x60' then readSegments path text segments segment !insideBackticks
      else if c = '\\' then
        match text with
        | [] => throw ⟨.invalidArgument, s!"Trailing escape characters not allowed in {path}"⟩
        | next :: text => readSegments path text segments (segment ++ [next]) insideBackticks
      else readSegments path text segments (segment ++ [c]) insideBackticks
termination_by structural text => text

/-- The path of a text in the format of the server. -/
def fromServerFormat (path : String) : Except Status FieldPath :=
  readSegments path path.toList [] [] false

/-! ### What is read -/

section Read

variable {path : String} {segments : List String} {segment : List Char} {inside : Bool}

@[simp] theorem readSegments_backtick (text : List Char) :
    readSegments path ('\x60' :: text) segments segment inside =
      readSegments path text segments segment !inside := by
  rw [readSegments.eq_def]
  simp

@[simp] theorem readSegments_backslash (next : Char) (text : List Char) :
    readSegments path ('\\' :: next :: text) segments segment inside =
      readSegments path text segments (segment ++ [next]) inside := by
  rw [readSegments.eq_def]
  simp

@[simp] theorem readSegments_null (text : List Char) :
    readSegments path ('\x00' :: text) segments segment inside =
      finish path segments segment inside := by
  rw [readSegments.eq_def]
  simp

/-- Outside backticks a dot ends a segment that is not empty. -/
theorem readSegments_dot (nonempty : segment ≠ []) (text : List Char) :
    readSegments path ('.' :: text) segments segment false =
      readSegments path text (segments ++ [String.ofList segment]) [] false := by
  rw [readSegments.eq_def]
  simp [nonempty]

/-- Outside of backticks. -/
theorem readSegments_plain {c : Char} (unmarked : c ∉ serverFormat.all) (text : List Char) :
    readSegments path (c :: text) segments segment inside =
      readSegments path text segments (segment ++ [c]) inside := by
  simp only [Marks.all, serverFormat, List.mem_cons, List.not_mem_nil, or_false, not_or] at unmarked
  obtain ⟨notDot, notBacktick, notBackslash, notNull⟩ := unmarked
  rw [readSegments.eq_def]
  simp [notDot, notBacktick, notBackslash, notNull]

/-- Inside backticks. -/
theorem readSegments_between {c : Char} (notBacktick : c ≠ '\x60') (notBackslash : c ≠ '\\')
    (notNull : c ≠ '\x00') (text : List Char) :
    readSegments path (c :: text) segments segment true =
      readSegments path text segments (segment ++ [c]) true := by
  rw [readSegments.eq_def]
  simp [notBacktick, notBackslash, notNull]

/-- What is read between backticks is the name that it spells. -/
theorem readSegments_quoted {inner part : List Char} (quoted : serverFormat.Quoted inner part)
    (text : List Char) :
    readSegments path (inner ++ text) segments segment true =
      readSegments path text segments (segment ++ part) true := by
  induction quoted generalizing segment with
  | nil => simp
  | plain notBacktick notBackslash notNull _ inductionHypothesis =>
      rw [List.cons_append, readSegments_between notBacktick notBackslash notNull,
        inductionHypothesis, List.append_assoc, List.singleton_append]
  | escaped _ inductionHypothesis =>
      change readSegments path ('\\' :: _ :: (_ ++ text)) _ _ _ = _
      rw [readSegments_backslash, inductionHypothesis, List.append_assoc, List.singleton_append]

/-- A spelling of a name is read as the name. -/
theorem readSegments_name {spelled name : List Char} (is : serverFormat.Name spelled name)
    (text : List Char) :
    readSegments path (spelled ++ text) segments segment false =
      readSegments path text segments (segment ++ name) false := by
  induction is generalizing segment with
  | nil => simp
  | plain unmarked _ inductionHypothesis =>
      rw [List.cons_append, readSegments_plain unmarked, inductionHypothesis, List.append_assoc,
        List.singleton_append]
  | escaped _ inductionHypothesis =>
      change readSegments path ('\\' :: _ :: (_ ++ text)) _ _ _ = _
      rw [readSegments_backslash, inductionHypothesis, List.append_assoc, List.singleton_append]
  | @quoted inner part spelled name quoted _ inductionHypothesis =>
      have opened : '\x60' :: inner ++ '\x60' :: spelled ++ text =
          '\x60' :: (inner ++ '\x60' :: (spelled ++ text)) := by simp
      change readSegments path ('\x60' :: inner ++ '\x60' :: spelled ++ text) _ _ _ = _
      rw [opened, readSegments_backtick, Bool.not_false, readSegments_quoted quoted,
        readSegments_backtick, Bool.not_true, inductionHypothesis, List.append_assoc]

/-- Where the text ends, the last segment is finished. -/
theorem readSegments_ends {text : List Char} (ends : serverFormat.Ends text) :
    readSegments path text segments segment inside = finish path segments segment inside := by
  obtain rfl | ⟨ignored, rfl⟩ := ends
  · rfl
  · exact readSegments_null ignored

/-- The end is accepted exactly behind a name and outside backticks. -/
theorem finish_eq_ok {read : FieldPath} :
    finish path segments segment inside = .ok read ↔
      segment ≠ [] ∧ inside = false ∧ read = ofSegments segments (String.ofList segment) := by
  unfold finish
  split
  next empty => simp [empty]
  next nonempty =>
    cases inside with
    | false => simp [nonempty, pure, Except.pure, eq_comm]
    | true => simp

/-- A text that lists names is read, and these are the names of the path. -/
theorem readSegments_spells {text : List Char} {names : List (List Char)}
    (spells : serverFormat.Spells text names) (segments : List String) :
    ∃ read, readSegments path text segments [] false = .ok read ∧
      read.names = segments ++ names.map String.ofList := by
  induction spells generalizing segments with
  | @last spelled name rest is nonempty ends =>
      refine ⟨ofSegments segments (String.ofList name), ?_, names_ofSegments _ _⟩
      rw [readSegments_name is, readSegments_ends ends, finish_eq_ok]
      exact ⟨nonempty, rfl, rfl⟩
  | @next spelled name rest names is nonempty _ inductionHypothesis =>
      obtain ⟨read, done, same⟩ := inductionHypothesis (segments ++ [String.ofList name])
      refine ⟨read, ?_, by rw [same]; simp⟩
      change readSegments path (spelled ++ '.' :: rest) _ _ _ = _
      rw [readSegments_name is, List.nil_append, readSegments_dot nonempty, done]

/-- What is read goes on as the format says. -/
theorem goesOn_of_readSegments {text : List Char} {read : FieldPath}
    (done : readSegments path text segments segment inside = .ok read) :
    ∃ name names, serverFormat.GoesOn inside text name names ∧ segment ++ name ≠ [] ∧
      read.names = segments ++ ((segment ++ name) :: names).map String.ofList := by
  fun_induction readSegments path text segments segment inside with
  | case1 =>
      obtain ⟨nonempty, rfl, rfl⟩ := finish_eq_ok.mp done
      refine ⟨[], [], Marks.goesOn_of_after (.inl ⟨.inl rfl, rfl⟩), by simpa, ?_⟩
      simp only [names_ofSegments, List.append_nil, List.map_cons, List.map_nil]
  | case2 =>
      obtain ⟨nonempty, rfl, rfl⟩ := finish_eq_ok.mp done
      refine ⟨[], [], Marks.goesOn_of_after (.inl ⟨.inr ⟨_, rfl⟩, rfl⟩), by simpa, ?_⟩
      simp only [names_ofSegments, List.append_nil, List.map_cons, List.map_nil]
  -- a dot between backticks
  | case3 text _ _ _ inductionHypothesis =>
      obtain ⟨name, names, goes, _, same⟩ := inductionHypothesis done
      refine ⟨'.' :: name, names, ?_, by simp, by simpa using same⟩
      exact goes.between (by decide) (by decide) (by decide)
  | case4 => cases done
  -- a dot after a name
  | case5 text segments segment inside outside nonempty _ inductionHypothesis =>
      obtain rfl := Bool.eq_false_iff.mpr outside
      obtain ⟨name, names, goes, some, same⟩ := inductionHypothesis done
      refine ⟨[], name :: names, ?_, by simpa, by simpa using same⟩
      exact Marks.goesOn_of_after (.inr ⟨_, rfl, goes.spells some⟩)
  | case6 _ _ _ _ _ _ inductionHypothesis =>
      obtain ⟨name, names, goes, nonempty, same⟩ := inductionHypothesis done
      exact ⟨name, names, goes.quote, nonempty, same⟩
  | case7 => cases done
  | case8 _ _ _ next _ _ _ _ inductionHypothesis =>
      obtain ⟨name, names, goes, _, same⟩ := inductionHypothesis done
      exact ⟨next :: name, names, goes.escaped, by simp, by simpa using same⟩
  | case9 c _ _ _ inside notNull notDot notBacktick notBackslash inductionHypothesis =>
      obtain ⟨name, names, goes, _, same⟩ := inductionHypothesis done
      refine ⟨c :: name, names, ?_, by simp, by simpa using same⟩
      cases inside with
      | true => exact goes.between notBacktick notBackslash notNull
      | false =>
          refine goes.plain ?_
          simp [Marks.all, serverFormat, notNull, notDot, notBacktick, notBackslash]

/-- A null character between backticks ends the text before they are closed. -/
theorem readSegments_escapeAll_ne_ok {name : List Char} (null : '\x00' ∈ name)
    (text : List Char) (read : FieldPath) :
    readSegments path (serverFormat.escapeAll name ++ text) segments segment true ≠ .ok read := by
  induction name generalizing segment with
  | nil => cases null
  | cons c name inductionHypothesis =>
      rw [Marks.escapeAll_cons]
      split
      next marked =>
        have later : '\x00' ∈ name := by
          rcases List.mem_cons.mp null with rfl | later
          · exact absurd marked (by decide)
          · exact later
        change readSegments path ('\\' :: c :: (serverFormat.escapeAll name ++ text)) _ _ _ ≠ _
        rw [readSegments_backslash]
        exact inductionHypothesis later
      next unmarked =>
        rw [not_or] at unmarked
        change readSegments path (c :: (serverFormat.escapeAll name ++ text)) _ _ _ ≠ _
        rcases eq_or_ne c '\x00' with rfl | notNull
        · rw [readSegments_null]
          intro done
          cases (finish_eq_ok.mp done).2.1
        · rw [readSegments_between unmarked.2 unmarked.1 notNull]
          exact inductionHypothesis ((List.mem_cons.mp null).resolve_left (Ne.symm notNull))

end Read

/-- A path is its names. -/
theorem eq_of_names {first second : FieldPath} (same : first.names = second.names) :
    first = second := by
  obtain ⟨_, _⟩ := first
  obtain ⟨_, _⟩ := second
  obtain ⟨rfl, rfl⟩ := List.cons.inj same
  rfl

/-- What is accepted spells the names that were read. -/
theorem spells_of_fromServerFormat {text : String} {path : FieldPath}
    (done : fromServerFormat text = .ok path) :
    serverFormat.Spells text.toList (path.names.map String.toList) := by
  obtain ⟨name, names, goes, nonempty, same⟩ := goesOn_of_readSegments done
  have spelled : path.names.map String.toList = name :: names := by
    rw [same, List.nil_append, List.map_map]
    simp
  rw [spelled]
  exact goes.spells nonempty

/-- What spells the names of a path is accepted, and read as this path. -/
theorem fromServerFormat_of_spells {text : String} {path : FieldPath}
    (spells : serverFormat.Spells text.toList (path.names.map String.toList)) :
    fromServerFormat text = .ok path := by
  obtain ⟨read, done, same⟩ : ∃ read, readSegments text text.toList [] [] false = .ok read ∧
      read.names = [] ++ (path.names.map String.toList).map String.ofList :=
    readSegments_spells spells []
  have equal : read = path := by
    apply eq_of_names
    rw [same, List.nil_append, List.map_map]
    simp
  rw [← equal]
  exact done

/-- Exactly the texts of the format are read, as the path of the names that they list. -/
theorem fromServerFormat_exact (text : String) (path : FieldPath) :
    fromServerFormat text = .ok path ↔
      serverFormat.Spells text.toList (path.names.map String.toList) :=
  ⟨spells_of_fromServerFormat, fromServerFormat_of_spells⟩

/-! ### What is written is read -/

/-- An identifier has no character with a meaning of its own. -/
theorem unmarked_of_isValidIdentifier (segment : List Char)
    (valid : isValidIdentifier segment = true) : ∀ c ∈ segment, c ∉ serverFormat.all := by
  have marks : ∀ c ∈ serverFormat.all, (c == '_' || c.isAlphanum) = false := by
    simp [serverFormat, Marks.all]
  intro c member marked
  have other := marks c marked
  cases segment with
  | nil => cases member
  | cons first rest =>
      simp only [isValidIdentifier, Bool.and_eq_true, List.all_eq_true] at valid
      rcases List.mem_cons.mp member with rfl | later
      · have valid := valid.1
        simp only [Char.isAlphanum, Bool.or_eq_true, Bool.or_eq_false_iff] at valid other
        simp [other] at valid
      · rw [valid.2 c later] at other
        cases other

/-- The canonical text is the rendering of the names. -/
theorem toList_canonicalString (path : FieldPath) :
    path.canonicalString.toList =
      serverFormat.render isValidIdentifier (path.names.map String.toList) := by
  rw [canonicalString, String.toList_ofList, Marks.render, List.map_map]
  rfl

/-- No name of a text that is read has a null character. -/
theorem unstopped_of_readSegments {path : String} {segments : List String} {read : FieldPath}
    {names : List (List Char)} (nonempty : ∀ name ∈ names, name ≠ [])
    (done : readSegments path (serverFormat.render isValidIdentifier names) segments [] false =
      .ok read) : ∀ name ∈ names, '\x00' ∉ name := by
  -- a name with one is between backticks, and they are not closed
  have open_ne_ok : ∀ {name}, '\x00' ∈ name → ∀ segments text,
      readSegments path (serverFormat.renderName isValidIdentifier name ++ text) segments []
        false ≠ .ok read := by
    intro name null segments text
    rw [Marks.renderName_of_stop unmarked_of_isValidIdentifier null]
    change readSegments path ('\x60' :: (_ ++ ['\x60'] ++ text)) _ _ _ ≠ _
    rw [readSegments_backtick, Bool.not_false, List.append_assoc]
    exact readSegments_escapeAll_ne_ok null _ read
  induction names generalizing segments with
  | nil => simp
  | cons name names inductionHypothesis =>
      rw [List.forall_mem_cons] at nonempty ⊢
      cases names with
      | nil =>
          rw [Marks.render_singleton, ← List.append_nil (Marks.renderName _ _ _)] at done
          exact ⟨fun null => open_ne_ok null _ _ done, by simp⟩
      | cons second names =>
          rw [Marks.render_cons_cons] at done
          have unstopped : '\x00' ∉ name := fun null => open_ne_ok null _ _ done
          have is := Marks.name_renderName unmarked_of_isValidIdentifier unstopped
          rw [readSegments_name is, List.nil_append] at done
          have rest := (readSegments_dot nonempty.1 _).symm.trans done
          exact ⟨unstopped, inductionHypothesis nonempty.2 rest⟩

/-- No name is empty or has a null character. -/
def Readable (path : FieldPath) : Prop := ∀ name ∈ path.names, name ≠ "" ∧ '\x00' ∉ name.toList

/-- A readable path is read back. -/
theorem Readable.fromServerFormat {path : FieldPath} (readable : path.Readable) :
    FieldPath.fromServerFormat path.canonicalString = .ok path := by
  apply fromServerFormat_of_spells
  rw [toList_canonicalString]
  refine Marks.spells_render unmarked_of_isValidIdentifier (by simp) ?_
  intro name member
  obtain ⟨name, among, rfl⟩ := List.mem_map.mp member
  exact ⟨by simpa using (readable name among).1, (readable name among).2⟩

/-- A path that is read back is readable. -/
theorem readable_of_fromServerFormat {path : FieldPath}
    (done : FieldPath.fromServerFormat path.canonicalString = .ok path) : path.Readable := by
  intro name member
  have among : name.toList ∈ path.names.map String.toList := List.mem_map_of_mem member
  have nonempty := (spells_of_fromServerFormat done).nonempty
  rw [FieldPath.fromServerFormat, toList_canonicalString] at done
  have unstopped := unstopped_of_readSegments nonempty done
  exact ⟨by simpa using nonempty _ among, unstopped _ among⟩

/-- Exactly the paths without such names are read back from their texts. -/
theorem canonicalString_exact (path : FieldPath) :
    fromServerFormat path.canonicalString = .ok path ↔ path.Readable :=
  ⟨readable_of_fromServerFormat, Readable.fromServerFormat⟩

end FieldPath

end FirestoreCore
