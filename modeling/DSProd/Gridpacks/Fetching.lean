import DSProd.Library.Utf8
import DSProd.SiteStats.Persistence

/-!
# Fetching a stored gridpack

`fetch` of `gridpack_store.py`, which materializes a gridpack out of a git
repository.  What is committed is the gridpack, or a pointer to it that git-lfs
replaces by the object it names.  The pointer is read once to know what to
expect, and a second time by the pipe that writes the gridpack, and git-lfs
passes through what it cannot replace.

The checksum is a parameter.  Files are read and written as they are; it is the
processes that fail.
-/

namespace DSProd.Gridpacks

open DSProd.Library

/-! ## Pointers -/

/-- The content of a file, or of what is committed. -/
abbrev Blob :=
  List UInt8

/-- The bytes of a text of ASCII characters. -/
def asciiBytes (text : String) : Blob :=
  text.toList.map fun char => char.toNat.toUInt8

/-- `_LFS_POINTER_PREFIX`. -/
def lfsPointerPrefix : Blob :=
  asciiBytes "version https://git-lfs"

/-- A file begins as a pointer does: `is_lfs_pointer`. -/
def isLfsPointer (content : Blob) : Bool :=
  lfsPointerPrefix.isPrefixOf content

/-- What a pointer says of its object. -/
structure Pointer where
  oid : String
  size : ℤ
  deriving DecidableEq

/-- The rest of a line that is a mark and some characters of a kind. -/
def matchLine (mark : String) (ofKind : Char → Bool) (line : List Char) : Option String :=
  let rest := line.drop mark.length
  if mark.toList.isPrefixOf line && !rest.isEmpty && rest.all ofKind then
    some (String.ofList rest)
  else none

/-- `[0-9a-f]`. -/
def isHexDigit (char : Char) : Bool :=
  ('0' ≤ char && char ≤ '9') || ('a' ≤ char && char ≤ 'f')

/-- `_pointer_info` of what is committed.  A size of too many digits raises. -/
def pointerInfo (blob : Blob) : Except Json.Fault (Option Pointer) :=
  if !isLfsPointer blob then .ok none
  else
    let lines := (Utf8.decode blob).splitOn '\n'
    match lines.findSome? (matchLine "oid sha256:" isHexDigit),
        lines.findSome? (matchLine "size " SiteStats.isDecimalDigit) with
    | some oid, some size =>
        match SiteStats.intOfText size with
        | some size => .ok (some ⟨oid, size⟩)
        | none => .error .valueError
    | _, _ => .ok none

/-! ## The store and its processes -/

/-- The store, as far as one of its paths is concerned: whether it is checked
out, what is committed at the path, and the file the worktree has there. -/
structure Store where
  available : Bool
  head : Option Blob
  worktree : Option Blob

/-- How the processes of a call end: `git ls-tree`, the `git cat-file` that
reads the pointer, the start of the pipe, the `git cat-file` that feeds it, the
object git-lfs gets for a pointer, if it gets one, and `git lfs smudge`. -/
structure Processes where
  lists : Bool
  readsPointer : Bool
  starts : Bool
  streams : Bool
  object : Option Blob
  smudges : Bool

/-- `contains`. -/
def contains (store : Store) (processes : Processes) : Bool :=
  store.available && processes.lists && store.head.isSome

/-- The file of the worktree, where it is no pointer. -/
def Store.checkedOut (store : Store) : Option Blob :=
  store.worktree.filter fun file => !isLfsPointer file

/-- The bytes that `git cat-file` feeds the pipe with: all of them, or as many
as it wrote before it failed. -/
def streamed (processes : Processes) (written : Nat) (blob : Blob) : Blob :=
  if processes.streams then blob else blob.take written

/-- `git lfs smudge`: the object of a pointer that it gets, and anything else as it is. -/
def smudged (processes : Processes) (stream : Blob) : Blob :=
  match pointerInfo stream with
  | .ok (some _) => processes.object.getD stream
  | _ => stream

/-- What a call of `fetch` comes to: an answer with what it leaves at `dest`,
where it leaves something, or an error. -/
inductive Fetched where
  | returns (answer : Bool) (dest : Option Blob)
  | raises
  deriving DecidableEq

variable (sha256 : Blob → String)

/-- The object a pointer names. -/
def Pointer.Names (pointer : Pointer) (content : Blob) : Prop :=
  content.length = pointer.size ∧ sha256 content = pointer.oid

instance (pointer : Pointer) (content : Blob) : Decidable (pointer.Names sha256 content) :=
  inferInstanceAs (Decidable (_ ∧ _))

/-- `_pointer_info` with the process it runs. -/
def readPointer (processes : Processes) (blob : Blob) : Except Json.Fault (Option Pointer) :=
  if processes.readsPointer then pointerInfo blob else .ok none

/-- `fetch` of a path that is tracked, from the pipe on. -/
def materialize (processes : Processes) (written : Nat) (blob : Blob) (pointer : Option Pointer) :
    Fetched :=
  if !processes.starts then .returns false (some [])
  else
    let dest := smudged processes (streamed processes written blob)
    if !processes.smudges then .returns false (some dest)
    else
      match pointer with
      | none => .returns true (some dest)
      | some pointer => .returns (decide (pointer.Names sha256 dest)) (some dest)

/-- `fetch`, where a `git cat-file` that fails in the pipe has written so many bytes. -/
def fetch (store : Store) (processes : Processes) (written : Nat) : Fetched :=
  if !contains store processes then .returns false none
  else
    match store.checkedOut with
    | some file => .returns true (some file)
    | none =>
        let blob := store.head.getD []
        match readPointer processes blob with
        | .error _ => .raises
        | .ok pointer => materialize sha256 processes written blob pointer

/-! ## What a fetched gridpack is -/

/-- A content is the committed one: the object that a pointer names, or else
what is committed itself. -/
def Committed (store : Store) (content : Blob) : Prop :=
  ∃ blob, store.head = some blob ∧
    match pointerInfo blob with
    | .ok (some pointer) => pointer.Names sha256 content
    | _ => content = blob

/-- The worktree has no file of its own: it is what is committed, or the object
of a pointer. -/
def NoStray (store : Store) : Prop :=
  ∀ file, store.worktree = some file → store.head = some file ∨ Committed sha256 store file

/-- A call that returns true leaves the committed content, however much a
`git cat-file` that fails has written. -/
def FetchesCommitted (store : Store) (processes : Processes) : Prop :=
  ∀ written dest, fetch sha256 store processes written = .returns true dest →
    ∃ content, dest = some content ∧ Committed sha256 store content

/-- A call comes to the end of the pipe and expects no pointer. -/
structure Unverified (store : Store) (processes : Processes) (blob : Blob) : Prop where
  available : store.available = true
  listed : processes.lists = true
  committed : store.head = some blob
  notCheckedOut : store.checkedOut = none
  unread : readPointer processes blob = .ok none
  starts : processes.starts = true
  smudges : processes.smudges = true

/-- What a pipe without a check writes is right: all of a blob that is no
pointer, or the object of a pointer. -/
def PipesCommitted (processes : Processes) (blob : Blob) : Prop :=
  match pointerInfo blob with
  | .ok (some pointer) =>
      processes.streams = true ∧ pointer.Names sha256 (processes.object.getD blob)
  | _ => processes.streams = true ∨ blob = []

/-! ## The pipe -/

section Pipe

variable {processes : Processes} {blob : Blob} {pointer : Pointer}

/-- Only what begins as a pointer is one. -/
theorem pointerInfo_of_not_lfsPointer {content : Blob} (notPointer : isLfsPointer content = false) :
    pointerInfo content = .ok none := by
  rw [pointerInfo, notPointer]
  rfl

theorem pointerInfo_of_short {content : Blob}
    (short : content.length < lfsPointerPrefix.length) : pointerInfo content = .ok none := by
  apply pointerInfo_of_not_lfsPointer
  by_contra isPointer
  rw [Bool.not_eq_false, isLfsPointer, List.isPrefixOf_iff_prefix] at isPointer
  exact absurd isPointer.length_le (not_le.mpr short)

theorem ne_nil_of_pointer (isPointer : pointerInfo blob = .ok (some pointer)) : blob ≠ [] := by
  rintro rfl
  cases isPointer

theorem smudged_of_pointer (isPointer : pointerInfo blob = .ok (some pointer)) :
    smudged processes blob = processes.object.getD blob := by
  rw [smudged, isPointer]

theorem smudged_of_other (other : ∀ pointer, pointerInfo blob ≠ .ok (some pointer)) :
    smudged processes blob = blob := by
  rw [smudged]
  split
  · rename_i pointer isPointer
    exact absurd isPointer (other pointer)
  · rfl

theorem smudged_of_short (short : blob.length < lfsPointerPrefix.length) :
    smudged processes blob = blob := by
  apply smudged_of_other
  intro pointer isPointer
  rw [pointerInfo_of_short short] at isPointer
  cases isPointer

theorem streamed_of_streams (streams : processes.streams = true) (written : Nat) :
    streamed processes written blob = blob :=
  if_pos streams

theorem streamed_of_fails (fails : ¬processes.streams = true) (written : Nat) :
    streamed processes written blob = blob.take written :=
  if_neg fails

end Pipe

section Fetch

variable {sha256} {store : Store} {processes : Processes} {written : Nat} {blob : Blob}

/-- A content is committed, given what is. -/
theorem committed_iff (isHead : store.head = some blob) {content : Blob} :
    Committed sha256 store content ↔
      match pointerInfo blob with
      | .ok (some pointer) => pointer.Names sha256 content
      | _ => content = blob := by
  rw [Committed, isHead]
  constructor
  · rintro ⟨_, same, committed⟩
    cases same
    exact committed
  · exact fun committed => ⟨blob, rfl, committed⟩

/-- The store tracks a path: it is checked out, is listed, and has something there. -/
theorem contains_iff :
    contains store processes = true ↔
      store.available = true ∧ processes.lists = true ∧ ∃ blob, store.head = some blob := by
  rw [contains, Bool.and_eq_true, Bool.and_eq_true, Option.isSome_iff_exists, and_assoc]

/-- The pipe returns true when it comes to its end, and what it writes is what
the pointer says, if there is one. -/
theorem materialize_eq_true_iff {pointer : Option Pointer} {dest : Option Blob} :
    materialize sha256 processes written blob pointer = .returns true dest ↔
      processes.starts = true ∧ processes.smudges = true ∧
        dest = some (smudged processes (streamed processes written blob)) ∧
        ∀ expected, pointer = some expected →
          expected.Names sha256 (smudged processes (streamed processes written blob)) := by
  rw [materialize]
  cases processes.starts with
  | false => simp
  | true =>
      cases processes.smudges with
      | false => simp
      | true =>
          cases pointer with
          | none => simp [eq_comm]
          | some expected => simp [and_comm, eq_comm]

/-- A call that comes to the end of the pipe without a pointer returns true. -/
theorem fetch_unverified (unverified : Unverified store processes blob) (written : Nat) :
    fetch sha256 store processes written =
      .returns true (some (smudged processes (streamed processes written blob))) := by
  have tracked : contains store processes = true :=
    contains_iff.mpr ⟨unverified.available, unverified.listed, blob, unverified.committed⟩
  have piped : materialize sha256 processes written blob none =
      .returns true (some (smudged processes (streamed processes written blob))) :=
    materialize_eq_true_iff.mpr ⟨unverified.starts, unverified.smudges, rfl, nofun⟩
  rw [fetch, tracked, unverified.notCheckedOut, unverified.committed]
  simp only [Bool.not_true, Bool.false_eq_true, if_false, Option.getD_some, unverified.unread]
  exact piped

/-- A call that returns true has copied the file of the worktree, has checked
what it wrote against the pointer, or checked nothing. -/
theorem fetch_cases {dest : Option Blob}
    (fetched : fetch sha256 store processes written = .returns true dest) :
    (∃ file, store.checkedOut = some file ∧ dest = some file) ∨
      (∃ blob pointer content, store.head = some blob ∧
        readPointer processes blob = .ok (some pointer) ∧ dest = some content ∧
        pointer.Names sha256 content) ∨
      ∃ blob, Unverified store processes blob ∧
        dest = some (smudged processes (streamed processes written blob)) := by
  rw [fetch] at fetched
  split at fetched
  · cases fetched
  rename_i tracked
  rw [Bool.not_eq_true', Bool.not_eq_false, contains_iff] at tracked
  obtain ⟨available, listed, blob, isHead⟩ := tracked
  cases checkedOut : store.checkedOut with
  | some file =>
      rw [checkedOut] at fetched
      cases fetched
      exact Or.inl ⟨file, rfl, rfl⟩
  | none =>
      right
      rw [checkedOut, isHead] at fetched
      dsimp only [Option.getD_some] at fetched
      cases isRead : readPointer processes blob with
      | error fault =>
          rw [isRead] at fetched
          cases fetched
      | ok pointer =>
          rw [isRead] at fetched
          obtain ⟨starts, smudges, isDest, names⟩ := materialize_eq_true_iff.mp fetched
          cases pointer with
          | none =>
              exact Or.inr
                ⟨blob, ⟨available, listed, isHead, checkedOut, isRead, starts, smudges⟩, isDest⟩
          | some pointer =>
              exact Or.inl ⟨blob, pointer, _, isHead, isRead, isDest, names pointer rfl⟩

/-- A file that is checked out is committed. -/
theorem committed_of_checkedOut (noStray : NoStray sha256 store) {file : Blob}
    (checkedOut : store.checkedOut = some file) : Committed sha256 store file := by
  obtain ⟨isFile, notPointer⟩ := Option.filter_eq_some_iff.mp checkedOut
  rw [Bool.not_eq_true'] at notPointer
  rcases noStray file isFile with isHead | committed
  · rw [committed_iff isHead, pointerInfo_of_not_lfsPointer notPointer]
  · exact committed

/-- What the pipe writes is committed, however much it is cut where it fails,
exactly when the processes bring it about. -/
theorem pipesCommitted_iff (isHead : store.head = some blob) :
    (∀ written, Committed sha256 store (smudged processes (streamed processes written blob))) ↔
      PipesCommitted sha256 processes blob := by
  simp only [committed_iff isHead]
  rw [PipesCommitted]
  by_cases streams : processes.streams = true
  · simp only [streamed_of_streams streams, forall_const]
    split
    · rename_i pointer isPointer
      rw [smudged_of_pointer isPointer, and_iff_right streams]
    · rename_i other
      exact iff_of_true (smudged_of_other fun pointer => other pointer) (Or.inl streams)
  · have cut : ∀ written, written < lfsPointerPrefix.length →
        smudged processes (streamed processes written blob) = blob.take written := by
      intro written short
      rw [streamed_of_fails streams]
      exact smudged_of_short (lt_of_le_of_lt (List.length_take_le written blob) short)
    split
    · -- cut before and after its first byte, it has two sizes
      rename_i pointer isPointer
      apply iff_of_false
      · intro names
        have empty := (names 0).1
        have oneByte := (names 1).1
        rw [cut 0 (by decide), List.take_zero, List.length_nil] at empty
        rw [cut 1 (by decide), List.length_take,
          min_eq_left (List.length_pos_iff.mpr (ne_nil_of_pointer isPointer))] at oneByte
        omega
      · exact fun both => streams both.1
    · constructor
      · intro whole
        right
        rw [← whole 0, cut 0 (by decide), List.take_zero]
      · rintro (isStreamed | rfl) written
        · exact absurd isStreamed streams
        · rw [streamed_of_fails streams, List.take_nil]
          exact smudged_of_short (by decide)

end Fetch

/-- With no stray file in the worktree, a fetched gridpack is the committed one
exactly when the pipe brings it about wherever nothing checks it. -/
theorem fetchesCommitted_iff (sha256 : Blob → String) (store : Store) (processes : Processes)
    (noStray : NoStray sha256 store) :
    FetchesCommitted sha256 store processes ↔
      ∀ blob, Unverified store processes blob → PipesCommitted sha256 processes blob := by
  constructor
  · intro fetches blob unverified
    rw [← pipesCommitted_iff unverified.committed]
    intro written
    obtain ⟨content, isContent, committed⟩ :=
      fetches written _ (fetch_unverified unverified written)
    cases isContent
    exact committed
  · intro pipes written dest fetched
    rcases fetch_cases fetched with ⟨file, checkedOut, rfl⟩ |
      ⟨blob, pointer, content, isHead, isRead, rfl, names⟩ | ⟨blob, unverified, rfl⟩
    · exact ⟨file, rfl, committed_of_checkedOut noStray checkedOut⟩
    · refine ⟨content, rfl, (committed_iff isHead).mpr ?_⟩
      rw [readPointer] at isRead
      split_ifs at isRead
      · rw [isRead]
        exact names
      · cases isRead
    · exact ⟨_, rfl, (pipesCommitted_iff unverified.committed).mpr (pipes blob unverified) written⟩

/-- What is committed is a pointer to an object of three bytes. -/
def pointerBlob : Blob :=
  asciiBytes "version https://git-lfs.github.com/spec/v1\noid sha256:3b9c\nsize 3\n"

theorem pointerInfo_pointerBlob : pointerInfo pointerBlob = .ok (some ⟨"3b9c", 3⟩) := by
  decide

/-- A pointer that is read is checked, so a fetch from a sparse worktree is right. -/
theorem fetchesCommitted_read :
    FetchesCommitted (fun _ => "3b9c") ⟨true, some pointerBlob, none⟩
      ⟨true, true, true, false, none, true⟩ := by
  refine (fetchesCommitted_iff _ _ _ fun file isFile => by cases isFile).mpr ?_
  intro blob unverified
  have unread := unverified.unread
  cases unverified.committed
  rw [readPointer, if_pos rfl, pointerInfo_pointerBlob] at unread
  cases unread

/-- When the pointer cannot be read and its object cannot be downloaded, the
pointer is fetched for the gridpack. -/
theorem not_fetchesCommitted_unread :
    ¬FetchesCommitted (fun _ => "3b9c") ⟨true, some pointerBlob, none⟩
      ⟨true, false, true, true, none, true⟩ := by
  intro fetches
  have unverified : Unverified ⟨true, some pointerBlob, none⟩
      ⟨true, false, true, true, none, true⟩ pointerBlob := ⟨rfl, rfl, rfl, rfl, rfl, rfl, rfl⟩
  obtain ⟨content, isContent, committed⟩ := fetches 0 _ (fetch_unverified unverified 0)
  rw [streamed_of_streams rfl, smudged_of_pointer pointerInfo_pointerBlob] at isContent
  cases isContent
  rw [committed_iff rfl, pointerInfo_pointerBlob] at committed
  exact absurd committed.1 (by decide)

end DSProd.Gridpacks
