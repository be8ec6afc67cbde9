import DSProd.Library.Lines
import DSProd.Library.Text
import DSProd.Library.Utf8
import Mathlib.Data.List.Infix
import Mathlib.Data.Rat.Defs

/-!
# What ended a job, in its own words

`fetch_job_stdout` keeps the end of a job's stdout while it arrives, and
`payload_error` looks for the last exception in it.  Only the end is kept, so
its first line may be cut anywhere, even inside a character.

Which characters are word characters, and how seconds are written, are
parameters.
-/

namespace DSProd.Crab

open DSProd.Library
open DSProd.Library.Lines

/-! ## The last exception -/

section Exceptions

variable (isWord : Char → Bool)

/-- `==\s*CMSSW:\s*`, and the rest of the line. -/
def afterCmssw : List Char → Option (List Char)
  | '=' :: '=' :: rest =>
      let marked := rest.dropWhile Text.isSpace
      if "CMSSW:".toList.isPrefixOf marked then
        some ((marked.drop "CMSSW:".length).dropWhile Text.isSpace)
      else none
  | _ => none

/-- `(?:\w+\.)*\w*(?:Error|Exception)`, of a run of word characters and dots. -/
def isExceptionName (name : List Char) : Bool :=
  let parts := name.splitOn '.'
  parts.dropLast.all (!·.isEmpty) &&
    ("Error".toList.isSuffixOf (parts.getLast?.getD []) ||
      "Exception".toList.isSuffixOf (parts.getLast?.getD []))

/-- The exception that a line is about: `_payload_error_cre`, on the line
without the white space around it. -/
def exceptionOf (line : List Char) : Option (List Char) :=
  let stripped := (Text.strip (String.ofList line)).toList
  let line := (afterCmssw stripped).getD stripped
  let isNameChar := fun char => isWord char || char = '.'
  match line.dropWhile isNameChar with
  | ':' :: rest =>
      let message := rest.dropWhile Text.isSpace
      if isExceptionName (line.takeWhile isNameChar) && !message.isEmpty then
        some (line.takeWhile isNameChar ++ ": ".toList ++ message)
      else none
  | _ => none

/-- `_payload_error_chars`. -/
def payloadErrorChars : ℕ :=
  600

/-- An exception, trimmed. -/
def trimmed (found : List Char) : List Char :=
  if payloadErrorChars < found.length then found.take payloadErrorChars ++ " ...".toList
  else found

/-- `payload_error`. -/
def payloadError (text : List Char) : Option (List Char) :=
  ((splitLines text).filterMap (exceptionOf isWord)).getLast?.map trimmed

theorem exceptionOf_nil : exceptionOf isWord [] = none := by
  rfl

/-- The last exception of a text is that of its last lines, where these have one. -/
theorem payloadError_append (before after : List Char) :
    payloadError isWord (before ++ '\n' :: after) =
      (payloadError isWord after).or (payloadError isWord before) := by
  rw [payloadError, filterMap_splitLines_append (exceptionOf_nil isWord) (by decide),
    List.getLast?_append, payloadError, payloadError]
  cases ((splitLines after).filterMap (exceptionOf isWord)).getLast? <;> rfl

end Exceptions

/-! ## The end of a stream -/

/-- Some bytes. -/
abbrev Bytes := List UInt8

/-- The chunks that are kept, the oldest first, how many bytes they have, and
how many were read. -/
structure KeptChunks where
  chunks : List Bytes
  size : ℕ
  read : ℕ

/-- The loop that drops the oldest chunks. -/
def dropOldest (maxBytes : ℕ) : List Bytes → ℕ → List Bytes × ℕ
  | first :: second :: rest, size =>
      if maxBytes < size then dropOldest maxBytes (second :: rest) (size - first.length)
      else (first :: second :: rest, size)
  | chunks, size => (chunks, size)

/-- A chunk that was read. -/
def KeptChunks.receive (maxBytes : ℕ) (kept : KeptChunks) (chunk : Bytes) : KeptChunks :=
  let left := dropOldest maxBytes (kept.chunks ++ [chunk]) (kept.size + chunk.length)
  ⟨left.1, left.2, kept.read + chunk.length⟩

/-- What one `read` returns at most. -/
def chunkBytes : ℕ :=
  64 * 1024

/-- How a read ends: with a chunk, which is empty at the end of the stream, and
the time since the start, or with an error. -/
inductive Arrival where
  | chunk (bytes : Bytes) (elapsed : ℚ)
  | raises (message : String)

/-- A response: whether it is only the range that was asked for, and how its reads end. -/
structure Response where
  ranged : Bool
  arrivals : List Arrival

section Fetching

variable (seconds : ℚ → String)

/-- What is raised of a stream that goes on for too long. -/
def stillArriving (read : ℕ) (elapsed : ℚ) (ranged : Bool) : String :=
  "stdout is still arriving after " ++ toString (read / (1024 * 1024)) ++ " MB and " ++
    seconds elapsed ++ " s" ++
    if ranged then "" else ", and the server would not send just its end"

/-- The loop of `fetch_job_stdout`. -/
def readChunks (maxBytes : ℕ) (deadline : ℚ) (ranged : Bool) (kept : KeptChunks) :
    List Arrival → Except String Bytes
  | [] => .ok kept.chunks.flatten
  | .raises message :: _ => .error message
  | .chunk bytes elapsed :: rest =>
      if bytes = [] then .ok kept.chunks.flatten
      else
        let kept := kept.receive maxBytes bytes
        if deadline < elapsed ∨ !ranged ∧ 8 * maxBytes < kept.read then
          .error (stillArriving seconds kept.read elapsed ranged)
        else readChunks maxBytes deadline ranged kept rest

/-- The way to a response: whether there is a proxy, and what opening the URL comes to. -/
structure Exchange where
  proxyThere : Bool
  opened : Except String Response

/-- `fetch_job_stdout`. -/
def fetchJobStdout (maxBytes : ℕ) (deadline : ℚ) (exchange : Exchange) :
    Except String (List Char) :=
  if !exchange.proxyThere then .error "no X509_USER_PROXY to authenticate with"
  else do
    let response ← exchange.opened
    let bytes ← readChunks seconds maxBytes deadline response.ranged ⟨[], 0, 0⟩ response.arrivals
    pure (Utf8.decode bytes)

end Fetching

/-! ## What is kept of a stream -/

section Keeping

variable {maxBytes : ℕ} {received : Bytes} {kept : KeptChunks}

/-- Chunks are dropped from the front, and no more than it takes. -/
structure DropsOldest (maxBytes : ℕ) (chunks : List Bytes) (left : List Bytes × ℕ) : Prop where
  suffix : left.1 <:+ chunks
  size : left.2 = left.1.flatten.length
  enough : left.1 = chunks ∨ maxBytes < left.2 + chunkBytes
  few : left.2 ≤ maxBytes ∨ left.1.length ≤ 1

theorem dropsOldest_dropOldest {chunks : List Bytes} {size : ℕ}
    (short : ∀ chunk ∈ chunks, chunk.length ≤ chunkBytes) (exact : size = chunks.flatten.length) :
    DropsOldest maxBytes chunks (dropOldest maxBytes chunks size) := by
  induction chunks, size using dropOldest.induct maxBytes with
  | case1 first second rest size large ih =>
      have flatten : (first :: second :: rest).flatten.length =
          first.length + (second :: rest).flatten.length := by
        rw [List.flatten_cons, List.length_append]
      have later := ih (fun chunk member => short chunk (List.mem_cons_of_mem first member))
        (by omega)
      rw [dropOldest, if_pos large]
      refine ⟨later.suffix.trans (List.suffix_cons first _), later.size, Or.inr ?_, later.few⟩
      rcases later.enough with same | enough
      · have bound := short first List.mem_cons_self
        rw [later.size, same]
        omega
      · exact enough
  | case2 first second rest size small =>
      rw [dropOldest, if_neg small]
      exact ⟨List.suffix_refl _, exact, Or.inl rfl, Or.inl (Nat.not_lt.mp small)⟩
  | case3 chunks size other =>
      have few : chunks.length ≤ 1 := by
        match chunks, other with
        | [], _ => decide
        | [_], _ => exact Nat.le_refl 1
        | first :: second :: rest, other => exact absurd rfl (other first second rest)
      rw [dropOldest]
      · exact ⟨List.suffix_refl _, exact, Or.inl rfl, Or.inr few⟩
      · exact other

/-- The end of what was received is kept. -/
structure KeepsEnd (maxBytes : ℕ) (received : Bytes) (kept : KeptChunks) : Prop where
  suffix : kept.chunks.flatten <:+ received
  size : kept.size = kept.chunks.flatten.length
  read : kept.read = received.length
  enough : kept.chunks.flatten = received ∨ maxBytes < kept.size + chunkBytes
  few : kept.size ≤ maxBytes ∨ kept.chunks.length ≤ 1
  short : ∀ chunk ∈ kept.chunks, chunk.length ≤ chunkBytes

theorem keepsEnd_nothing : KeepsEnd maxBytes [] ⟨[], 0, 0⟩ :=
  ⟨List.suffix_refl _, rfl, rfl, Or.inl rfl, Or.inl (Nat.zero_le _), fun _ => by simp⟩

/-- A chunk keeps it so. -/
theorem KeepsEnd.receive (keeps : KeepsEnd maxBytes received kept) {chunk : Bytes}
    (limited : chunk.length ≤ chunkBytes) :
    KeepsEnd maxBytes (received ++ chunk) (kept.receive maxBytes chunk) := by
  have flatten : (kept.chunks ++ [chunk]).flatten = kept.chunks.flatten ++ chunk := by
    rw [List.flatten_append, List.flatten_singleton]
  have short : ∀ other ∈ kept.chunks ++ [chunk], other.length ≤ chunkBytes := by
    intro other member
    rcases List.mem_append.mp member with before | last
    · exact keeps.short other before
    · rw [List.mem_singleton.mp last]
      exact limited
  have exact : kept.size + chunk.length = (kept.chunks ++ [chunk]).flatten.length := by
    rw [flatten, List.length_append, keeps.size]
  have dropped : DropsOldest maxBytes (kept.chunks ++ [chunk])
      (dropOldest maxBytes (kept.chunks ++ [chunk]) (kept.size + chunk.length)) :=
    dropsOldest_dropOldest short exact
  have ending : (kept.chunks ++ [chunk]).flatten <:+ received ++ chunk := by
    rw [flatten]
    exact List.suffix_append_self_iff.mpr keeps.suffix
  constructor
  · exact dropped.suffix.flatten.trans ending
  · exact dropped.size
  · rw [List.length_append, ← keeps.read]
    rfl
  · rcases dropped.enough with same | enough
    · rcases keeps.enough with whole | enough
      · have all : (kept.receive maxBytes chunk).chunks.flatten = received ++ chunk := by
          rw [KeptChunks.receive, same, flatten, whole]
        exact Or.inl all
      · have size : (kept.receive maxBytes chunk).size = kept.size + chunk.length := by
          rw [exact, ← same]
          exact dropped.size
        rw [size]
        exact Or.inr (by omega)
    · exact Or.inr enough
  · exact dropped.few
  · exact fun other member => short other (dropped.suffix.subset member)

/-- No more is kept than is asked for, or than one read returns. -/
theorem KeepsEnd.bounded (keeps : KeepsEnd maxBytes received kept) :
    kept.chunks.flatten.length ≤ max maxBytes chunkBytes := by
  rw [← keeps.size]
  rcases keeps.few with small | few
  · exact small.trans (Nat.le_max_left _ _)
  · apply le_trans _ (Nat.le_max_right _ _)
    rw [keeps.size]
    match shape : kept.chunks, few with
    | [], _ => exact Nat.zero_le _
    | [chunk], _ =>
        rw [List.flatten_singleton]
        exact keeps.short chunk (shape ▸ List.mem_singleton_self chunk)

end Keeping

/-- The bytes that a response brings. -/
def Response.bytes (response : Response) : Bytes :=
  response.arrivals.flatMap fun
    | .chunk bytes _ => bytes
    | .raises _ => []

/-- A response brings the log, or its end where it is a range; a chunk has as
many bytes as were asked for at most, and is empty only at the end. -/
structure Response.Serves (response : Response) (maxBytes : ℕ) (log : Bytes) : Prop where
  bytes : response.bytes =
    if response.ranged then log.drop (log.length - maxBytes) else log
  limited : ∀ chunk elapsed, .chunk chunk elapsed ∈ response.arrivals →
    chunk ≠ [] ∧ chunk.length ≤ chunkBytes

/-- What the loop returns is the end of what was received. -/
theorem readChunks_ok {seconds : ℚ → String} {maxBytes : ℕ} {deadline : ℚ} {ranged : Bool}
    {kept : KeptChunks} {arrivals : List Arrival} {received bytes : Bytes}
    (keeps : KeepsEnd maxBytes received kept)
    (limited : ∀ chunk elapsed, .chunk chunk elapsed ∈ arrivals →
      chunk ≠ [] ∧ chunk.length ≤ chunkBytes)
    (returns : readChunks seconds maxBytes deadline ranged kept arrivals = .ok bytes) :
    ∃ final, KeepsEnd maxBytes (received ++ (Response.mk ranged arrivals).bytes) final ∧
      bytes = final.chunks.flatten := by
  induction arrivals generalizing kept received with
  | nil =>
      cases returns
      exact ⟨kept, by rwa [Response.bytes, List.flatMap_nil, List.append_nil], rfl⟩
  | cons arrival rest ih =>
      cases arrival with
      | raises message => cases returns
      | chunk chunk elapsed =>
          obtain ⟨some, short⟩ := limited chunk elapsed List.mem_cons_self
          rw [readChunks, if_neg some] at returns
          dsimp only at returns
          split at returns
          · cases returns
          · obtain ⟨final, ends, same⟩ := ih (keeps.receive short)
              (fun other time member => limited other time (List.mem_cons_of_mem _ member)) returns
            refine ⟨final, ?_, same⟩
            rwa [List.append_assoc] at ends

/-! ## What is said of a job -/

/-- `fetch_job_stdout` returns the text of the end of the log. -/
theorem fetchJobStdout_ok {seconds : ℚ → String} {maxBytes : ℕ} {deadline : ℚ}
    {exchange : Exchange} {response : Response} {log : Bytes} {text : List Char}
    (opened : exchange.opened = .ok response) (serves : response.Serves maxBytes log)
    (fetched : fetchJobStdout seconds maxBytes deadline exchange = .ok text) :
    ∃ kept, text = Utf8.decode kept ∧ kept <:+ log ∧ kept.length ≤ max maxBytes chunkBytes ∧
      (kept = log ∨ maxBytes < kept.length + chunkBytes) := by
  rw [fetchJobStdout] at fetched
  split at fetched
  · cases fetched
  rw [opened] at fetched
  cases read : readChunks seconds maxBytes deadline response.ranged ⟨[], 0, 0⟩
      response.arrivals with
  | error message =>
      simp only [read, bind, Except.bind] at fetched
      cases fetched
  | ok bytes =>
      simp only [read, bind, Except.bind, pure, Except.pure] at fetched
      cases fetched
      obtain ⟨final, keeps, rfl⟩ := readChunks_ok keepsEnd_nothing serves.limited read
      rw [List.nil_append] at keeps
      have received : response.bytes <:+ log ∧
          (response.bytes = log ∨ maxBytes ≤ response.bytes.length) := by
        rw [serves.bytes]
        split
        · refine ⟨List.drop_suffix _ _, ?_⟩
          by_cases short : log.length ≤ maxBytes
          · rw [Nat.sub_eq_zero_of_le short, List.drop_zero]
            exact Or.inl rfl
          · rw [List.length_drop]
            exact Or.inr (by omega)
        · exact ⟨List.suffix_refl _, Or.inl rfl⟩
      refine ⟨_, rfl, keeps.suffix.trans received.1, keeps.bounded, ?_⟩
      rcases keeps.enough with whole | enough
      · rw [whole]
        rcases received.2 with same | long
        · exact Or.inl same
        · exact Or.inr (Nat.lt_of_le_of_lt long (Nat.lt_add_of_pos_right (by decide)))
      · exact Or.inr (keeps.size ▸ enough)

/-- The end of a log is enough of it: the log is no longer, or its last lines have an exception. -/
def EndSuffices (isWord : Char → Bool) (maxBytes : ℕ) (log : Bytes) : Prop :=
  log.length + chunkBytes ≤ maxBytes ∨
    ∃ before after, log = before ++ 0x0A :: after ∧ after.length + chunkBytes ≤ maxBytes ∧
      payloadError isWord (Utf8.decode after) ≠ none

theorem payloadError_newline (isWord : Char → Bool) {before after : Bytes}
    (found : payloadError isWord (Utf8.decode after) ≠ none) :
    payloadError isWord (Utf8.decode (before ++ 0x0A :: after)) =
      payloadError isWord (Utf8.decode after) := by
  have newline : Char.ofNat (0x0A : UInt8).toNat = '\n' := rfl
  rw [Utf8.decode_append (by decide), newline, payloadError_append]
  cases exception : payloadError isWord (Utf8.decode after) with
  | none => exact absurd exception found
  | some message => rfl

/-- However the stdout of a job arrives, no more of it is kept than a fixed
number of bytes, and what ended the job is what the whole of it says, as long
as that stands in its end. -/
theorem last_exception_read (isWord : Char → Bool) {seconds : ℚ → String} {maxBytes : ℕ}
    {deadline : ℚ} {exchange : Exchange} {response : Response} {log : Bytes} {text : List Char}
    (opened : exchange.opened = .ok response) (serves : response.Serves maxBytes log)
    (fetched : fetchJobStdout seconds maxBytes deadline exchange = .ok text) :
    (∃ kept, text = Utf8.decode kept ∧ kept <:+ log ∧ kept.length ≤ max maxBytes chunkBytes) ∧
      (EndSuffices isWord maxBytes log →
        payloadError isWord text = payloadError isWord (Utf8.decode log)) := by
  obtain ⟨kept, rfl, ending, bounded, enough⟩ := fetchJobStdout_ok opened serves fetched
  refine ⟨⟨kept, rfl, ending, bounded⟩, fun sufficient => ?_⟩
  rcases enough with rfl | enough
  · rfl
  · rcases sufficient with short | ⟨before, after, rfl, short, found⟩
    · exact absurd ending.length_le (by omega)
    · have inside : 0x0A :: after <:+ kept := by
        apply List.suffix_of_suffix_length_le (List.suffix_append before _) ending
        rw [List.length_cons]
        omega
      obtain ⟨cut, rfl⟩ := inside
      rw [payloadError_newline isWord found, payloadError_newline isWord found]

/-- A line that goes on for most of what one read returns. -/
def longLine : Bytes :=
  List.replicate 60000 0x78

/-- An exception that was got over, and the one that was not. -/
def probedEnd : Bytes :=
  "\nImportError: probe\nRuntimeError: gone\n".toList.map fun char => char.toNat.toUInt8

/-- A whole log that comes in three chunks: two long lines, and an end. -/
def threeChunks (line ending : Bytes) : Response :=
  ⟨false, [.chunk line 1, .chunk line 2, .chunk ending 3]⟩

/-- The first chunk is dropped for the last one. -/
theorem fetchJobStdout_threeChunks {line ending : Bytes} (long : line.length = 60000)
    (short : ending.length = 39) :
    fetchJobStdout (fun _ => "") 70000 60 ⟨true, .ok (threeChunks line ending)⟩ =
      .ok (Utf8.decode (line ++ ending)) := by
  have someLine : line ≠ [] := List.ne_nil_of_length_pos (by omega)
  have someEnd : ending ≠ [] := List.ne_nil_of_length_pos (by omega)
  have inTime : ¬(60 : ℚ) < 1 ∧ ¬(60 : ℚ) < 2 ∧ ¬(60 : ℚ) < 3 := by decide
  simp [fetchJobStdout, bind, Except.bind, pure, Except.pure, threeChunks, readChunks,
    KeptChunks.receive, dropOldest, someLine, someEnd, long, short, inTime]

theorem length_longLine : longLine.length = 60000 :=
  List.length_replicate

/-- What is kept of the log begins within a line. -/
theorem last_exception_read_probed :
    payloadError Char.isAlpha (Utf8.decode (longLine ++ probedEnd)) =
      some "RuntimeError: gone".toList := by
  have limited : longLine ≠ [] ∧ longLine.length ≤ chunkBytes := by
    rw [← List.length_pos_iff, length_longLine]
    decide
  have serves : (threeChunks longLine probedEnd).Serves 70000
      (longLine ++ (longLine ++ probedEnd)) := by
    constructor
    · simp [Response.bytes, threeChunks]
    · intro chunk elapsed member
      simp only [threeChunks, List.mem_cons, List.not_mem_nil, or_false] at member
      rcases member with same | same | same <;> cases same
      · exact limited
      · exact limited
      · exact ⟨by decide, by decide⟩
  have fetched := fetchJobStdout_threeChunks length_longLine (show probedEnd.length = 39 by decide)
  have cut : longLine ++ (longLine ++ probedEnd) =
      (longLine ++ (longLine ++ probedEnd.take 19)) ++ 0x0A :: probedEnd.drop 20 := by
    have ends : probedEnd = probedEnd.take 19 ++ 0x0A :: probedEnd.drop 20 := by decide
    rw [List.append_assoc, List.append_assoc, ← ends]
  have found : payloadError Char.isAlpha (Utf8.decode (probedEnd.drop 20)) =
      some "RuntimeError: gone".toList := by decide
  have sufficient : EndSuffices Char.isAlpha 70000 (longLine ++ (longLine ++ probedEnd)) :=
    Or.inr ⟨_, _, cut, by decide, by rw [found]; exact Option.some_ne_none _⟩
  rw [(last_exception_read Char.isAlpha rfl serves fetched).2 sufficient, cut,
    payloadError_newline _ (by rw [found]; exact Option.some_ne_none _), found]

/-- `_payload_error`: the last exception, or why there is none to print. -/
def payloadErrorText (isWord : Char → Bool) (url : String) (fetched : Except String (List Char)) :
    String :=
  match fetched with
  | .error message => "could not read its stdout (" ++ message ++ "); see " ++ url
  | .ok text =>
      match payloadError isWord text with
      | none => "its stdout carries no exception; see " ++ url
      | some error => String.ofList error

end DSProd.Crab
