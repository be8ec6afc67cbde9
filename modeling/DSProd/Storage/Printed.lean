import DSProd.Storage.ListingText

/-!
# Listings that are read back

What `gfal_ls` reads of a printed listing is what was printed: the columns may
have any widths, and of the names only those are lost that begin or end with
white space, hold a newline, or are the two that stand for a directory and its
parent.
-/

namespace DSProd.Storage

open DSProd.Library
open DSProd.Library.Columns

/-! ## Printing -/

/-- The day of a moment, as a listing prints it. -/
def DateTime.dayText (date : DateTime) : List Char :=
  ['-'].intercalate [padded 4 date.year, padded 2 date.month, padded 2 date.day]

/-- The time of day of a moment, as a listing prints it. -/
def DateTime.timeText (date : DateTime) : List Char :=
  [':'].intercalate [padded 2 date.hour, padded 2 date.minute]

/-- A line of a long listing: its columns, and the blanks between them. -/
structure PrintedLine where
  mode : List Char
  links : ℕ
  user : ℕ
  group : ℕ
  size : ℕ
  date : DateTime
  name : String
  gaps : Fin 6 → ℕ
  mode_some : mode ≠ []
  mode_chars : ∀ char ∈ mode, isModeChar char = true
  size_fits : size < 2 ^ 64

/-- The text of a line.  There is at least one blank after each column. -/
def PrintedLine.text (line : PrintedLine) : List Char :=
  line.mode ++ blanks (line.gaps 0 + 1) ++
    (digits line.links ++ blanks (line.gaps 1 + 1) ++
      (digits line.user ++ blanks (line.gaps 2 + 1) ++
        (digits line.group ++ blanks (line.gaps 3 + 1) ++
          (digits line.size ++ blanks (line.gaps 4 + 1) ++
            (line.date.dayText ++ ' ' ::
              (line.date.timeText ++ blanks (line.gaps 5 + 1) ++ line.name.toList))))))

/-- The output of a listing: each line ends with a newline. -/
def printed (lines : List PrintedLine) : List Char :=
  lines.flatMap fun line => line.text ++ ['\n']

/-- What a line says of the file it is about, in the listing of a path. -/
def PrintedLine.info (path : String) (line : PrintedLine) : FileInfo where
  name := line.name
  path := path
  size := line.size
  date := line.date
  isDir := line.mode.head? = some 'd'

/-! ## Dates are read back -/

theorem shortNumber_padded {value : ℕ} (fits : value < 100) :
    shortNumber (padded 2 value) = some value := by
  have length := length_padded (by omega : 0 < 2) fits
  have some : padded 2 value ≠ [] := by
    intro empty
    rw [empty] at length
    cases length
  have digits : (padded 2 value).all isDigit = true :=
    List.all_eq_true.mpr fun _ => isDigit_of_mem_padded
  rw [shortNumber, if_pos ⟨some, length.le, digits⟩, number_padded]

theorem notMem_padded {width value : ℕ} {char : Char} (notDigit : isDigit char = false) :
    char ∉ padded width value := by
  intro member
  rw [isDigit_of_mem_padded member] at notDigit
  cases notDigit

theorem splitOn_dayText (date : DateTime) :
    date.dayText.splitOn '-' = [padded 4 date.year, padded 2 date.month, padded 2 date.day] := by
  apply List.splitOn_intercalate
  · intro part member
    simp only [List.mem_cons, List.not_mem_nil, or_false] at member
    rcases member with rfl | rfl | rfl <;> exact notMem_padded (by decide)
  · exact List.cons_ne_nil _ _

theorem splitOn_timeText (date : DateTime) :
    date.timeText.splitOn ':' = [padded 2 date.hour, padded 2 date.minute] := by
  apply List.splitOn_intercalate
  · intro part member
    simp only [List.mem_cons, List.not_mem_nil, or_false] at member
    rcases member with rfl | rfl <;> exact notMem_padded (by decide)
  · exact List.cons_ne_nil _ _

theorem daysIn_le (year month : ℕ) : daysIn year month ≤ 31 := by
  rw [daysIn]
  split_ifs <;> omega

/-- A moment is read back from what a listing prints of it. -/
theorem strptime_text (date : DateTime) : strptime date.dayText date.timeText = some date := by
  obtain ⟨_, year, _, month, _, day, hour, minute⟩ := date.proper
  have days := daysIn_le date.year date.month
  rw [strptime, splitOn_dayText, splitOn_timeText]
  simp only [shortNumber_padded (by omega : date.month < 100),
    shortNumber_padded (by omega : date.day < 100),
    shortNumber_padded (by omega : date.hour < 100),
    shortNumber_padded (by omega : date.minute < 100), Option.bind_eq_bind, Option.bind_some]
  have digits : (padded 4 date.year).all isDigit = true :=
    List.all_eq_true.mpr fun _ => isDigit_of_mem_padded
  have length : (padded 4 date.year).length = 4 := length_padded (by omega) (by omega)
  have proper : Proper (number (padded 4 date.year)) date.month date.day date.hour
      date.minute := by
    rw [number_padded]
    exact date.proper
  rw [dif_pos ⟨length, digits, proper⟩]
  simp only [number_padded]

/-! ## Lines are read back -/

theorem isDayChar_of_mem_dayText {date : DateTime} {char : Char} (member : char ∈ date.dayText) :
    isDayChar char = true := by
  rw [DateTime.dayText] at member
  simp only [List.intercalate, List.intersperse, List.flatten_cons, List.flatten_nil,
    List.append_nil, List.mem_append, List.mem_singleton] at member
  rcases member with digit | rfl | digit | rfl | digit
  · rw [isDayChar, isDigit_of_mem_padded digit, Bool.true_or]
  · rfl
  · rw [isDayChar, isDigit_of_mem_padded digit, Bool.true_or]
  · rfl
  · rw [isDayChar, isDigit_of_mem_padded digit, Bool.true_or]

theorem isTimeChar_of_mem_timeText {date : DateTime} {char : Char}
    (member : char ∈ date.timeText) : isTimeChar char = true := by
  rw [DateTime.timeText] at member
  simp only [List.intercalate, List.intersperse, List.flatten_cons, List.flatten_nil,
    List.append_nil, List.mem_append, List.mem_singleton] at member
  rcases member with digit | rfl | digit
  · rw [isTimeChar, isDigit_of_mem_padded digit, Bool.true_or]
  · rfl
  · rw [isTimeChar, isDigit_of_mem_padded digit, Bool.true_or]

theorem padded_ne_nil (width value : ℕ) : padded width value ≠ [] :=
  List.append_ne_nil_of_right_ne_nil _ (digits_ne_nil value)

theorem dayText_ne_nil (date : DateTime) : date.dayText ≠ [] := by
  have some := padded_ne_nil 4 date.year
  simp [DateTime.dayText, List.intercalate, some]

theorem timeText_ne_nil (date : DateTime) : date.timeText ≠ [] := by
  have some := padded_ne_nil 2 date.hour
  simp [DateTime.timeText, List.intercalate, some]

/-- The groups of a line, the name apart from the blanks it begins with. -/
theorem groupsOf_text (line : PrintedLine) (after : NoBlankFirst line.name.toList) :
    groupsOf line.text =
      some ⟨line.mode, digits line.size, line.date.dayText, line.date.timeText,
        line.name.toList⟩ := by
  have digitsFirst : ∀ (value : ℕ) (rest : List Char), NoBlankFirst (digits value ++ rest) :=
    fun value rest => noBlankFirst_append (fun _ => isDigit_of_mem_digits) (digits_ne_nil value)
      (by decide) rest
  have digitsNext : ∀ (value count : ℕ) (rest : List Char),
      NoBlankFirst (digits value ++ blanks count ++ rest) := by
    intro value count rest
    rw [List.append_assoc]
    exact digitsFirst value _
  have dayFirst : ∀ rest, NoBlankFirst (line.date.dayText ++ rest) :=
    fun rest => noBlankFirst_append (fun _ => isDayChar_of_mem_dayText) (dayText_ne_nil _)
      (by decide) rest
  have dayRead : ∀ rest, dayColumn (line.date.dayText ++ ' ' :: rest) =
      some (line.date.dayText, rest) := by
    intro rest
    rw [dayColumn, dropWhile_run (fun _ => isDayChar_of_mem_dayText) (by decide),
      takeWhile_run (fun _ => isDayChar_of_mem_dayText) (by decide)]
    exact if_neg (dayText_ne_nil _)
  rw [groupsOf, PrintedLine.text,
    column_append line.mode_chars line.mode_some (by decide) (digitsNext _ _ _)]
  simp only [Option.bind_eq_bind, Option.bind_some,
    column_digits _ (digitsNext _ _ _), column_digits _ (dayFirst _), dayRead,
    column_append (fun _ => isTimeChar_of_mem_timeText) (timeText_ne_nil line.date) (by decide)
      after]

/-- A name that a listing of a path loses nothing of. -/
structure PlainName (path name : String) : Prop where
  stripped : Text.strip name = name
  oneLine : '\n' ∉ name.toList
  notPath : name ≠ path

instance (path name : String) : Decidable (PlainName path name) :=
  decidable_of_iff (Text.strip name = name ∧ '\n' ∉ name.toList ∧ name ≠ path)
    ⟨fun plain => ⟨plain.1, plain.2.1, plain.2.2⟩,
      fun plain => ⟨plain.stripped, plain.oneLine, plain.notPath⟩⟩

/-- Whether a line is about an entry of the directory. -/
def PrintedLine.isEntry (line : PrintedLine) : Bool :=
  line.name ≠ "." && line.name ≠ ".."

theorem noBlankFirst_of_strip {name : String} (stripped : Text.strip name = name) :
    NoBlankFirst name.toList := by
  intro rest same
  have shorter : (Text.strip name).toList.length ≤ rest.length := by
    rw [Text.strip, String.toList_ofList, List.length_reverse, same]
    apply (List.length_dropWhile_le _ _).trans
    rw [List.length_reverse, List.dropWhile_cons_of_pos (by decide)]
    exact List.length_dropWhile_le _ _
  rw [stripped, same, List.length_cons] at shorter
  omega

theorem size_digits (line : PrintedLine) :
    (digits line.size).length ≤ SiteStats.maxStrDigits := by
  have short : (digits line.size).length ≤ 20 := by
    apply (Nat.length_toDigits_le_iff (by omega) (by omega)).mpr
    exact line.size_fits.trans (by decide)
  exact short.trans (by decide)

/-- The line of an entry with a plain name. -/
theorem parseLine_entry {path : String} {line : PrintedLine} (entry : line.isEntry = true)
    (plain : PlainName path line.name) :
    parseLine path line.text = .ok (some (line.info path)) := by
  have noDots : ¬(line.name = "." ∨ line.name = "..") := by
    simpa [PrintedLine.isEntry] using entry
  rw [parseLine, groupsOf_text line (noBlankFirst_of_strip plain.stripped)]
  simp only [String.ofList_toList, plain.stripped]
  rw [if_neg noDots, if_neg (not_lt.mpr (size_digits line)), strptime_text]
  simp only [if_neg plain.notPath, number_digits]
  rfl

/-- The lines of the directory and of its parent are skipped. -/
theorem parseLine_dots {path : String} {line : PrintedLine} (dots : line.isEntry = false) :
    parseLine path line.text = .ok none := by
  have either : line.name = "." ∨ line.name = ".." := by
    by_contra neither
    rw [PrintedLine.isEntry] at dots
    simp_all
  have stripped : Text.strip line.name = line.name := by
    rcases either with dot | dots
    · rw [dot]
      decide
    · rw [dots]
      decide
  rw [parseLine, groupsOf_text line (noBlankFirst_of_strip stripped)]
  simp only [String.ofList_toList, stripped]
  rw [if_pos either]

/-! ## Listings are read back -/

/-- What the loop makes of the lines of a listing with plain names. -/
theorem parseLines_texts {path : String} {lines : List PrintedLine}
    (plain : ∀ line ∈ lines, line.isEntry = true → PlainName path line.name) :
    parseLines path (lines.map PrintedLine.text ++ [[]]) =
      .ok ((lines.filter PrintedLine.isEntry).map (PrintedLine.info path)) := by
  induction lines with
  | nil => rfl
  | cons line rest ih =>
      have some : line.text ≠ [] := by
        have mode := line.mode_some
        simp [PrintedLine.text, mode]
      have later := ih fun other member => plain other (List.mem_cons_of_mem line member)
      rw [List.map_cons, List.cons_append, parseLines, if_neg some]
      cases entry : line.isEntry with
      | true =>
          rw [parseLine_entry entry (plain line List.mem_cons_self entry), later,
            List.filter_cons_of_pos entry]
          rfl
      | false =>
          rw [parseLine_dots entry, later, List.filter_cons_of_neg (by simp [entry])]
          rfl

/-- The output of a listing falls into its lines. -/
theorem splitOn_printed {lines : List PrintedLine}
    (oneLine : ∀ line ∈ lines, '\n' ∉ line.text) :
    (printed lines).splitOn '\n' = lines.map PrintedLine.text ++ [[]] := by
  have joined : printed lines = ['\n'].intercalate (lines.map PrintedLine.text ++ [[]]) := by
    induction lines with
    | nil => rfl
    | cons line rest ih =>
        have later := ih fun other member => oneLine other (List.mem_cons_of_mem line member)
        rw [printed, List.flatMap_cons, ← printed, later, List.map_cons, List.cons_append,
          List.intercalate_cons_of_ne_nil (by simp)]
  rw [joined]
  apply List.splitOn_intercalate
  · intro text member
    rcases List.mem_append.mp member with inLines | last
    · obtain ⟨line, inside, rfl⟩ := List.mem_map.mp inLines
      exact oneLine line inside
    · rw [List.mem_singleton.mp last]
      exact List.not_mem_nil
  · simp

/-- The columns before the name hold no newline. -/
theorem newline_notMem_text {line : PrintedLine} (oneLine : '\n' ∉ line.name.toList) :
    '\n' ∉ line.text := by
  have gap : ∀ count, '\n' ∉ blanks count := by
    intro count member
    have blank : '\n' = ' ' := (List.mem_replicate.mp member).2
    exact absurd blank (by decide)
  have number : ∀ value, '\n' ∉ digits value := by
    intro value member
    exact absurd (isDigit_of_mem_digits member) (by decide)
  have mode : '\n' ∉ line.mode := fun member => absurd (line.mode_chars _ member) (by decide)
  have day : '\n' ∉ line.date.dayText :=
    fun member => absurd (isDayChar_of_mem_dayText member) (by decide)
  have time : '\n' ∉ line.date.timeText :=
    fun member => absurd (isTimeChar_of_mem_timeText member) (by decide)
  simp [PrintedLine.text, gap, number, mode, day, time, oneLine]

/-! ## What is accepted -/

theorem suffix_of_column {ofKind : Char → Bool} {line run rest : List Char}
    (matched : column ofKind line = some (run, rest)) : rest <:+ line := by
  rw [column] at matched
  split at matched
  · rename_i after shape
    split at matched
    · cases matched
    · cases matched
      have dropped : ' ' :: after <:+ line := shape ▸ List.dropWhile_suffix _
      exact (List.dropWhile_suffix _).trans ((List.suffix_cons ' ' after).trans dropped)
  · cases matched

theorem suffix_of_dayColumn {line run rest : List Char}
    (matched : dayColumn line = some (run, rest)) : rest <:+ line := by
  rw [dayColumn] at matched
  split at matched
  · rename_i after shape
    split at matched
    · cases matched
    · cases matched
      have dropped : ' ' :: rest <:+ line := shape ▸ List.dropWhile_suffix _
      exact (List.suffix_cons ' ' rest).trans dropped
  · cases matched

/-- The name is the end of the line. -/
theorem suffix_of_groupsOf {line : List Char} {groups : Groups}
    (matched : groupsOf line = some groups) : groups.name <:+ line := by
  simp only [groupsOf, Option.bind_eq_bind, Option.bind_eq_some_iff] at matched
  obtain ⟨⟨_, one⟩, first, ⟨_, two⟩, second, ⟨_, three⟩, third, ⟨_, four⟩, fourth,
    ⟨_, five⟩, fifth, ⟨_, six⟩, sixth, ⟨_, name⟩, last, same⟩ := matched
  cases same
  exact (suffix_of_column last).trans <| (suffix_of_dayColumn sixth).trans <|
    (suffix_of_column fifth).trans <| (suffix_of_column fourth).trans <|
    (suffix_of_column third).trans <| (suffix_of_column second).trans (suffix_of_column first)

/-- Splitting a path leaves the path itself only where it cuts nothing off. -/
theorem splitPath_eq_self {path : String} (same : (splitPath path).1 = path) :
    (splitPath path).2 = "" := by
  have cut : path.toList = (path.toList.reverse.dropWhile (· ≠ '/')).reverse ++
      (path.toList.reverse.takeWhile (· ≠ '/')).reverse := by
    rw [← List.reverse_append, List.takeWhile_append_dropWhile, List.reverse_reverse]
  have short : (splitPath path).1.toList.length ≤
      (path.toList.reverse.dropWhile (· ≠ '/')).reverse.length := by
    rw [splitPath]
    simp only [String.toList_ofList]
    split
    · exact le_rfl
    · rw [List.length_reverse]
      apply (List.length_dropWhile_le _ _).trans
      rw [List.length_reverse]
  have length := congrArg List.length cut
  rw [List.length_append] at length
  rw [same] at short
  have nothing : (path.toList.reverse.takeWhile (· ≠ '/')).reverse = [] :=
    List.length_eq_zero_iff.mp (by omega)
  rw [splitPath, nothing]

/-- What a line is read as has a plain name, unless it is of a file that was listed itself. -/
theorem plainName_of_parseLine {path : String} (nonempty : path ≠ "") {line : List Char}
    {file : FileInfo} (parsed : parseLine path line = .ok (some file)) (oneLine : '\n' ∉ line)
    (inside : file.path = path) : PlainName path file.name := by
  rw [parseLine] at parsed
  split at parsed
  · cases parsed
  rename_i groups matched
  dsimp only at parsed
  split at parsed
  · cases parsed
  split at parsed
  · cases parsed
  split at parsed
  · cases parsed
  cases parsed
  dsimp only at inside ⊢
  by_cases itself : Text.strip (String.ofList groups.name) = path
  · rw [if_pos itself] at inside
    rw [if_pos itself, splitPath_eq_self inside]
    exact ⟨by decide, by decide, fun same => nonempty same.symm⟩
  · rw [if_neg itself]
    refine ⟨Text.strip_strip _, fun newline => oneLine ?_, itself⟩
    have inName := Text.mem_of_mem_strip newline
    rw [String.toList_ofList] at inName
    exact (suffix_of_groupsOf matched).subset inName

/-- What the loop returns comes from one of the lines. -/
theorem exists_line_of_parseLines {path : String} {lines : List (List Char)}
    {files : List FileInfo} (parsed : parseLines path lines = .ok files) {file : FileInfo}
    (member : file ∈ files) : ∃ line ∈ lines, parseLine path line = .ok (some file) := by
  induction lines generalizing files with
  | nil =>
      cases parsed
      cases member
  | cons line rest ih =>
      rw [parseLines] at parsed
      split at parsed
      · obtain ⟨found, inside, is⟩ := ih parsed member
        exact ⟨found, List.mem_cons_of_mem line inside, is⟩
      · cases first : parseLine path line with
        | error fault =>
            rw [first] at parsed
            cases parsed
        | ok found =>
            cases later : parseLines path rest with
            | error fault =>
                rw [first, later] at parsed
                cases parsed
            | ok others =>
                rw [first, later] at parsed
                cases parsed
                rcases List.mem_append.mp member with here | there
                · refine ⟨line, List.mem_cons_self, ?_⟩
                  rw [first, Option.mem_toList.mp here]
                · obtain ⟨found, inside, is⟩ := ih later there
                  exact ⟨found, List.mem_cons_of_mem line inside, is⟩

theorem notMem_of_mem_splitOn {text part : List Char} (member : part ∈ text.splitOn '\n') :
    '\n' ∉ part := by
  induction text generalizing part with
  | nil =>
      rw [List.splitOn_nil, List.mem_singleton] at member
      rw [member]
      exact List.not_mem_nil
  | cons char rest ih =>
      rw [List.splitOn_cons_eq_if_modifyHead] at member
      split at member
      · rcases List.mem_cons.mp member with rfl | later
        · exact List.not_mem_nil
        · exact ih later
      · rename_i different
        cases shape : rest.splitOn '\n' with
        | nil => exact absurd shape (List.splitOn_ne_nil _ _)
        | cons first others =>
            rw [shape, List.modifyHead_cons, List.mem_cons] at member
            rcases member with rfl | later
            · intro newline
              rcases List.mem_cons.mp newline with same | inFirst
              · exact different (beq_iff_eq.mpr same.symm)
              · exact ih (shape ▸ List.mem_cons_self) inFirst
            · exact ih (shape ▸ List.mem_cons_of_mem first later)

theorem gfalLsText_zero (path : String) (text : List Char) (err : String) :
    gfalLsText path ⟨0, String.ofList text, err⟩ = parseLines path (text.splitOn '\n') := by
  rw [gfalLsText, if_neg (by simp), String.toList_ofList]

/-- A listing with plain names is read back. -/
theorem gfalLsText_of_plain {path : String} {lines : List PrintedLine} (err : String)
    (plain : ∀ line ∈ lines, line.isEntry = true → PlainName path line.name) :
    gfalLsText path ⟨0, String.ofList (printed lines), err⟩ =
      .ok ((lines.filter PrintedLine.isEntry).map (PrintedLine.info path)) := by
  have oneLine : ∀ line ∈ lines, '\n' ∉ line.text := by
    intro line member
    apply newline_notMem_text
    cases entry : line.isEntry with
    | true => exact (plain line member entry).oneLine
    | false =>
        have either : line.name = "." ∨ line.name = ".." := by
          by_contra neither
          rw [PrintedLine.isEntry] at entry
          simp_all
        rcases either with dot | dots
        · rw [dot]
          decide
        · rw [dots]
          decide
  rw [gfalLsText_zero, splitOn_printed oneLine]
  exact parseLines_texts plain

/-- A listing is read back exactly when its names are plain: nothing else that
it may print is lost, whatever the widths of its columns. -/
theorem gfalLsText_printed_iff (path : String) (nonempty : path ≠ "")
    (lines : List PrintedLine) (err : String) :
    gfalLsText path ⟨0, String.ofList (printed lines), err⟩ =
        .ok ((lines.filter PrintedLine.isEntry).map (PrintedLine.info path)) ↔
      ∀ line ∈ lines, line.isEntry = true → PlainName path line.name := by
  constructor
  · intro parsed line member entry
    rw [gfalLsText_zero] at parsed
    have inFiles : line.info path ∈
        (lines.filter PrintedLine.isEntry).map (PrintedLine.info path) :=
      List.mem_map_of_mem (List.mem_filter.mpr ⟨member, entry⟩)
    obtain ⟨text, inText, is⟩ := exists_line_of_parseLines parsed inFiles
    exact plainName_of_parseLine nonempty is (notMem_of_mem_splitOn inText) rfl
  · exact gfalLsText_of_plain err

/-- A line with a name of one's own. -/
def lineNamed (name : String) : PrintedLine where
  mode := "-rw-r--r--".toList
  links := 1
  user := 0
  group := 0
  size := 512
  date := ⟨2026, 9, 18, 7, 5, by decide⟩
  name := name
  gaps := fun column => column
  mode_some := by decide
  mode_chars := List.all_eq_true.mp (by decide)
  size_fits := by decide

/-- A blank inside a name is kept, and one at its end is not. -/
theorem gfalLsText_printed_iff_blanks :
    gfalLsText "/eos/a" ⟨0, String.ofList (printed [lineNamed ".", lineNamed "f 1"]), ""⟩ =
        .ok [(lineNamed "f 1").info "/eos/a"] ∧
      gfalLsText "/eos/a" ⟨0, String.ofList (printed [lineNamed "f "]), ""⟩ ≠
        .ok [(lineNamed "f ").info "/eos/a"] := by
  constructor
  · apply (gfalLsText_printed_iff "/eos/a" (by decide) [lineNamed ".", lineNamed "f 1"] "").mpr
    intro line member entry
    simp only [List.mem_cons, List.not_mem_nil, or_false] at member
    rcases member with rfl | rfl
    · exact absurd entry (by decide)
    · exact ⟨by decide, by decide, by decide⟩
  · intro read
    have plain := (gfalLsText_printed_iff "/eos/a" (by decide) [lineNamed "f "] "").mp read
      (lineNamed "f ") (List.mem_singleton_self _) (by decide)
    exact absurd plain.stripped (by decide)

end DSProd.Storage
