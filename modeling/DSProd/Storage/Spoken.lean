import DSProd.Library.Phrases
import DSProd.Storage.Freshness
import DSProd.Storage.Printed

/-!
# Listings that are understood

The rest of the storage code takes an answer of `gfal-ls` as what it says of a
tree.  Here the answer is the text that the command printed: one that tells
the truth is understood as that, unless the path that was asked for holds one
of the phrases by which `is_absent_error` knows that nothing is there.
-/

namespace DSProd.Storage

open DSProd.Library
open DSProd.Library.Columns
open DSProd.Library.Phrases

/-! ## The text of an error -/

theorem lower_append (first second : String) :
    lower (first ++ second) = lower first ++ lower second := by
  rw [lower, String.toList_append, List.map_append]
  rfl

theorem isAbsentMessage_iff {text : String} :
    isAbsentMessage text = true ↔ ∃ phrase ∈ absentMessages, phrase.toList <:+: lower text := by
  simp [isAbsentMessage]

/-- Neither a sign nor a digit is a letter or a blank, nor becomes one. -/
theorem plain_of_mem_toString {value : ℤ} {char : Char} (member : char ∈ lower (toString value)) :
    char.isAlpha = false ∧ char ≠ ' ' := by
  obtain ⟨before, inside, rfl⟩ := List.mem_map.mp member
  have plain : isDigit before = true ∨ before = '-' := by
    rw [Int.toString_eq_repr, Int.repr_eq_if] at inside
    have digit : ∀ {number : ℕ}, before ∈ number.repr.toList → isDigit before = true := by
      intro number inNumber
      rw [Nat.repr, String.toList_ofList] at inNumber
      exact isDigit_of_mem_digits inNumber
    split at inside
    · exact Or.inl (digit inside)
    · rw [String.toList_append, List.mem_append] at inside
      rcases inside with sign | later
      · exact Or.inr (List.mem_singleton.mp sign)
      · exact Or.inl (digit later)
  have low : before.val.toNat ≤ '9'.val.toNat ∧ before ≠ ' ' := by
    rcases plain with digit | rfl
    · constructor
      · simp only [isDigit, Char.le_def, UInt32.le_iff_toNat_le, Bool.and_eq_true,
          decide_eq_true_eq] at digit
        exact digit.2
      · rintro rfl
        cases digit
    · decide
  have capitals : '9'.val.toNat < 'A'.val.toNat ∧ 'A'.val.toNat < 'a'.val.toNat := by decide
  have noCapital : ¬ 'A'.val ≤ before.val := by
    rw [UInt32.le_iff_toNat_le]
    omega
  have noLetter : ¬ 'a'.val ≤ before.val := by
    rw [UInt32.le_iff_toNat_le]
    omega
  have same : before.toLower = before := dif_neg fun capital => noCapital capital.1
  rw [same]
  constructor
  · have notUpper : before.isUpper = false := decide_eq_false fun capital => noCapital capital.1
    have notLower : before.isLower = false := Bool.and_eq_false_iff.mpr
      (Or.inl (decide_eq_false noLetter))
    exact Bool.or_eq_false_iff.mpr ⟨notUpper, notLower⟩
  · exact low.2

theorem toString_ne_empty (value : ℤ) : (toString value).toList ≠ [] := by
  have some : ∀ number : ℕ, number.repr.toList ≠ [] := by
    intro number
    rw [Nat.repr, String.toList_ofList]
    exact digits_ne_nil number
  rw [Int.toString_eq_repr, Int.repr_eq_if]
  split
  · exact some _
  · rw [String.toList_append]
    exact List.append_ne_nil_of_right_ne_nil _ (some _)

/-- The parts of what `gfal_ls` raises, and the marks between them. -/
theorem lower_listingError (path : String) (returnCode : ℤ) (additional : Option String) :
    lower ("gfal_ls: unable to list \"" ++ path ++ "\"\n" ++
        psCallMessage (listingCommand path) returnCode additional) =
      lower "gfal_ls: unable to list " ++ '"' :: (lower path ++ '"' ::
        (lower "\nError while running " ++ '"' :: (lower (listingCommand path) ++ '"' ::
          (lower ". Error code: " ++ (lower (toString returnCode) ++
            (additional.elim [] fun text => [' '] ++ lower text)))))) := by
  have opened : lower "gfal_ls: unable to list \"" = lower "gfal_ls: unable to list " ++ ['"'] :=
    rfl
  have started : lower "\"\n" ++ lower "Error while running \"" =
      '"' :: (lower "\nError while running " ++ ['"']) := rfl
  have ended : lower "\". Error code: " = '"' :: lower ". Error code: " := rfl
  have told : lower (psCallMessage (listingCommand path) returnCode additional) =
      lower "Error while running \"" ++ (lower (listingCommand path) ++
        (lower "\". Error code: " ++ (lower (toString returnCode) ++
          (additional.elim [] fun text => [' '] ++ lower text)))) := by
    unfold psCallMessage
    simp only [lower_append, List.append_assoc]
    cases additional with
    | none => rfl
    | some text => rw [lower_append]; rfl
  rw [lower_append, lower_append, lower_append, told, opened, ended]
  simp only [List.append_assoc, List.cons_append, List.nil_append]
  rw [← List.append_assoc (lower "\"\n"), started]
  simp only [List.append_assoc, List.cons_append, List.nil_append]

section Message

variable {phrase : String} (is : phrase ∈ absentMessages)

include is

/-- The phrases are made of letters and blanks. -/
theorem notMem_phrase {mark : Char} (notLetter : mark.isAlpha = false) (notBlank : mark ≠ ' ') :
    mark ∉ phrase.toList := by
  have plain : phrase.toList.all (fun char => char.isAlpha || char == ' ') = true := by
    simp only [absentMessages, List.mem_cons, List.not_mem_nil, or_false] at is
    rcases is with rfl | rfl <;> rfl
  intro member
  have known := List.all_eq_true.mp plain mark member
  rw [notLetter, Bool.false_or, beq_iff_eq] at known
  exact notBlank known

/-- The command holds a phrase only where the path does. -/
theorem infix_command (path : String) :
    phrase.toList <:+: lower (listingCommand path) ↔ phrase.toList <:+: lower path := by
  have options : ¬phrase.toList <:+: lower "gfal-ls --long --all --time-style long-iso " ∧
      (∀ beginning ∈ phrase.toList.inits, beginning ≠ [] →
        ¬beginning <:+ lower "gfal-ls --long --all --time-style long-iso ") ∧
      ¬phrase.toList <:+: [] := by
    simp only [absentMessages, List.mem_cons, List.not_mem_nil, or_false] at is
    rcases is with rfl | rfl <;> decide +kernel
  obtain ⟨notBefore, apart, notNothing⟩ := options
  have quote : '\'' ∉ phrase.toList := notMem_phrase is (by decide) (by decide)
  unfold listingCommand
  rw [lower_append]
  split
  · have quoted : lower ("'" ++ path ++ "'") = '\'' :: (lower path ++ ['\'']) := by
      simp [lower]
    rw [quoted, infix_append_cons quote, infix_append_cons quote]
    simp only [notBefore, notNothing, false_or, or_false]
  · exact infix_append_of_apart notBefore apart


/-- What `gfal_ls` raises holds a phrase only where the path or the output of the command does. -/
theorem infix_listingError (path : String) (returnCode : ℤ) (additional : Option String) :
    phrase.toList <:+: lower ("gfal_ls: unable to list \"" ++ path ++ "\"\n" ++
        psCallMessage (listingCommand path) returnCode additional) ↔
      phrase.toList <:+: lower path ∨ ∃ text ∈ additional, phrase.toList <:+: lower text := by
  have fixed : ¬phrase.toList <:+: lower "gfal_ls: unable to list " ∧
      ¬phrase.toList <:+: lower "\nError while running " ∧
      ¬phrase.toList <:+: lower ". Error code: " ∧ ¬phrase.toList <:+: [' '] ∧
      (∀ beginning ∈ phrase.toList.inits, beginning ≠ [] → ¬beginning <:+ [' ']) ∧
      ¬phrase.toList <:+: [] := by
    simp only [absentMessages, List.mem_cons, List.not_mem_nil, or_false] at is
    rcases is with rfl | rfl <;> decide
  obtain ⟨notList, notRunning, notCode, notBlank, apart, notNothing⟩ := fixed
  have quote : '"' ∉ phrase.toList := notMem_phrase is (by decide) (by decide)
  have number : ∀ mark ∈ lower (toString returnCode), mark ∉ phrase.toList :=
    fun _ member => notMem_phrase is (plain_of_mem_toString member).1
      (plain_of_mem_toString member).2
  have some : lower (toString returnCode) ≠ [] := by
    rw [lower]
    simpa using toString_ne_empty returnCode
  rw [lower_listingError, infix_append_cons quote, infix_append_cons quote,
    infix_append_cons quote, infix_append_cons quote, infix_append_run number some,
    infix_command is]
  cases additional with
  | none => simp [notList, notRunning, notCode, notNothing]
  | some text =>
      rw [Option.elim_some, infix_append_of_apart notBlank apart]
      simp [notList, notRunning, notCode]

end Message

/-- A command that fails is read from the path and from what is kept of its output. -/
theorem answerOf_failing {returnCode : ℤ} (failing : returnCode ≠ 0) (path out err : String) :
    answerOf path ⟨returnCode, out, err⟩ =
      .ok (if isAbsentMessage path = true ∨
          ∃ text ∈ errorOutput err, isAbsentMessage text = true then .absent else .failed) := by
  have either : isAbsentMessage ("gfal_ls: unable to list \"" ++ path ++ "\"\n" ++
      psCallMessage (listingCommand path) returnCode (errorOutput err)) = true ↔
      isAbsentMessage path = true ∨ ∃ text ∈ errorOutput err, isAbsentMessage text = true := by
    simp only [isAbsentMessage_iff]
    constructor
    · rintro ⟨phrase, is, inside⟩
      rcases (infix_listingError is path returnCode _).mp inside with inPath | inOutput
      · exact Or.inl ⟨phrase, is, inPath⟩
      · obtain ⟨text, told, inText⟩ := inOutput
        exact Or.inr ⟨text, told, phrase, is, inText⟩
    · rintro (⟨phrase, is, inPath⟩ | ⟨text, told, phrase, is, inText⟩)
      · exact ⟨phrase, is, (infix_listingError is path returnCode _).mpr (Or.inl inPath)⟩
      · exact ⟨phrase, is,
          (infix_listingError is path returnCode _).mpr (Or.inr ⟨text, told, inText⟩)⟩
  rw [answerOf, gfalLsText, if_pos failing]
  simp only [either]

/-! ## A storage that tells the truth -/

/-- How paths are written down: a listing loses nothing of the names of a tree. -/
structure Named (text : Path → String) (tree : Tree) : Prop where
  children : ∀ name dir, tree.Contains (name :: dir) →
    PlainName (text dir) name ∧ name ≠ "." ∧ name ≠ ".."
  files : ∀ path, tree.node path = some .file →
    Text.strip (text path) = text path ∧ '\n' ∉ (text path).toList

/-- The ends of `gfal-ls` that a tree bears out.  It lists a file as itself,
and a directory with or without the lines for the directory and its parent.  It may fail
at any path, but says only of one that is not there that nothing is there. -/
inductive Speaks (text : Path → String) (tree : Tree) (path : Path) : ListingEnd → Prop where
  | file (line : PrintedLine) (err : String) :
      tree.node path = some .file → line.name = text path →
        Speaks text tree path ⟨0, String.ofList (printed [line]), err⟩
  | directory (lines : List PrintedLine) (err : String) :
      tree.node path = some .directory →
        (∀ name, (∃ line ∈ lines, line.isEntry = true ∧ line.name = name) ↔
          tree.Contains (name :: path)) →
        Speaks text tree path ⟨0, String.ofList (printed lines), err⟩
  | failing (returnCode : ℤ) (out err : String) :
      returnCode ≠ 0 →
        ((∃ told ∈ errorOutput err, isAbsentMessage told = true) → tree.node path = none) →
        Speaks text tree path ⟨returnCode, out, err⟩

/-- A listing of a file is read, as something. -/
theorem parseLine_named (path : String) {line : PrintedLine}
    (stripped : Text.strip line.name = line.name) :
    ∃ found, parseLine path line.text = .ok found := by
  rw [parseLine, groupsOf_text line (noBlankFirst_of_strip stripped)]
  dsimp only
  split
  · exact ⟨none, rfl⟩
  · rw [if_neg (not_lt.mpr (size_digits line)), strptime_text]
    exact ⟨_, rfl⟩

/-- What tells the truth is understood as telling it, but for a phrase in the path itself. -/
theorem answerOf_speaks {text : Path → String} {tree : Tree} (named : Named text tree)
    {path : Path} (clear : isAbsentMessage (text path) = true → tree.node path = none)
    {ended : ListingEnd} (speaks : Speaks text tree path ended) :
    ∃ listing, answerOf (text path) ended = .ok listing ∧ listing.Truthful tree path := by
  cases speaks with
  | file line err isFile itself =>
      obtain ⟨stripped, oneLine⟩ := named.files path isFile
      rw [← itself] at stripped oneLine
      have noNewline : ∀ other ∈ [line], '\n' ∉ other.text := by
        intro other member
        rw [List.mem_singleton.mp member]
        exact newline_notMem_text oneLine
      have some : line.text ≠ [] := by
        have mode := line.mode_some
        simp [PrintedLine.text, mode]
      obtain ⟨found, parsed⟩ := parseLine_named (text path) stripped
      have read : gfalLsText (text path) ⟨0, String.ofList (printed [line]), err⟩ =
          .ok found.toList := by
        rw [gfalLsText_zero, splitOn_printed noNewline, List.map_singleton,
          List.singleton_append, parseLines, if_neg some, parsed]
        exact congrArg Except.ok (List.append_nil _)
      rw [answerOf, read]
      exact ⟨_, rfl, Or.inl isFile⟩
  | directory lines err isDirectory exactly =>
      have plain : ∀ line ∈ lines, line.isEntry = true → PlainName (text path) line.name :=
        fun line member entry =>
          (named.children _ _ ((exactly _).mp ⟨line, member, entry, rfl⟩)).1
      rw [answerOf, gfalLsText_of_plain err plain]
      refine ⟨_, rfl, Or.inr ⟨isDirectory, fun name => ?_⟩⟩
      rw [← exactly name]
      simp [PrintedLine.info, and_assoc]
  | failing returnCode out err failed absent =>
      rw [answerOf_failing failed]
      split
      · rename_i told
        exact ⟨.absent, rfl, told.elim clear absent⟩
      · exact ⟨.failed, rfl, trivial⟩

/-! ## Whole dialogues -/

/-- How each call of `gfal-ls` ends, by its index in the run. -/
abbrev Dialogue := ℕ → Path → ListingEnd

/-- Every call is borne out by the tree of its moment. -/
def Dialogue.TellsTruth (text : Path → String) (trees : ℕ → Tree) (ends : Dialogue) : Prop :=
  ∀ index path, Speaks text (trees index) path (ends index path)

/-- The environment of a run in which the answers are read from what was printed. -/
def Environment.hearing (env : Environment) (text : Path → String) (ends : Dialogue) :
    Environment :=
  { env with
    answer := fun index path =>
      match answerOf (text path) (ends index path) with
      | .ok listing => listing
      | .error _ => .failed }

theorem hearing_answer (env : Environment) {text : Path → String} {ends : Dialogue}
    {index : ℕ} {path : Path} {listing : Listing}
    (read : answerOf (text path) (ends index path) = .ok listing) :
    (env.hearing text ends).answer index path = listing := by
  simp only [Environment.hearing, read]

/-- No call ends the run with an error of another kind. -/
def Dialogue.Readable (text : Path → String) (ends : Dialogue) : Prop :=
  ∀ index path, ∃ listing, answerOf (text path) (ends index path) = .ok listing

/-- A storage that tells the truth is understood, in the sense in which the
rest of the storage code relies on it, exactly when no path that is there is
written with a phrase of `_ABSENT_MESSAGES` in it. -/
theorem dialogues_understood_iff (env : Environment) {text : Path → String} {trees : ℕ → Tree}
    (named : ∀ index, Named text (trees index)) :
    (∀ ends : Dialogue, ends.TellsTruth text trees →
        ends.Readable text ∧ (env.hearing text ends).TruthfulOver trees) ↔
      ∀ index path, (trees index).Contains path → isAbsentMessage (text path) = false := by
  constructor
  · intro understood index path present
    by_contra phrase
    rw [Bool.not_eq_false] at phrase
    -- the call fails without a word, and the path alone makes it say that nothing is there
    have quiet : Dialogue.TellsTruth text trees fun _ _ => ⟨1, "", ""⟩ :=
      fun _ _ => .failing 1 "" "" (by decide) fun ⟨told, is, _⟩ => by cases is
    have truthful := (understood _ quiet).2 index path
    have silent : answerOf (text path) ⟨1, "", ""⟩ = .ok .absent := by
      rw [answerOf_failing (by decide), if_pos (Or.inl phrase)]
    rw [hearing_answer env silent] at truthful
    exact present truthful
  · intro clear ends truth
    have answered : ∀ index path, ∃ listing,
        answerOf (text path) (ends index path) = .ok listing ∧
          listing.Truthful (trees index) path := by
      intro index path
      apply answerOf_speaks (named index) _ (truth index path)
      intro phrase
      by_contra present
      rw [clear index path present] at phrase
      cases phrase
    constructor
    · intro index path
      obtain ⟨listing, read, _⟩ := answered index path
      exact ⟨listing, read⟩
    · intro index path
      obtain ⟨listing, read, truthful⟩ := answered index path
      rw [hearing_answer env read]
      exact truthful

/-- A path as it is written below a storage root. -/
def slashed (path : Path) : String :=
  "davs://eos" ++ String.join (path.reverse.map ("/" ++ ·))

/-- The paths of a tree of one file in one directory. -/
theorem contains_oneFile {name dir : String} {path : Path}
    (present : (Tree.ofFiles [[name, dir]]).Contains path) :
    path = [name, dir] ∨ path = [dir] ∨ path = [] := by
  obtain ⟨file, member, above⟩ := Tree.contains_ofFiles.mp present
  rw [List.mem_singleton.mp member] at above
  simpa [List.suffix_cons_iff] using above

theorem named_slashed {name dir : String}
    (first : PlainName (slashed []) dir ∧ dir ≠ "." ∧ dir ≠ "..")
    (second : PlainName (slashed [dir]) name ∧ name ≠ "." ∧ name ≠ "..")
    (whole : Text.strip (slashed [name, dir]) = slashed [name, dir] ∧
      '\n' ∉ (slashed [name, dir]).toList) :
    Named slashed (Tree.ofFiles [[name, dir]]) := by
  constructor
  · intro child parent present
    rcases contains_oneFile present with same | same | same <;> cases same
    · exact second
    · exact first
  · intro path isFile
    have present : (Tree.ofFiles [[name, dir]]).Contains path := by
      simp [Tree.Contains, isFile]
    rcases contains_oneFile present with rfl | rfl | rfl
    · exact whole
    · simp [Tree.ofFiles] at isFile
    · simp [Tree.ofFiles] at isFile

/-- A blank in a name does no harm; a directory that is called like an error does. -/
theorem dialogues_understood_iff_named :
    (emptyEnv.hearing slashed fun _ _ => ⟨70, "", "timed out"⟩).TruthfulOver
        (fun _ => Tree.ofFiles [["nano 1.root", "out"]]) ∧
      ¬∀ ends : Dialogue,
        (ends.TellsTruth slashed fun _ => Tree.ofFiles [["f", "File not found"]]) →
          ends.Readable slashed ∧
            (emptyEnv.hearing slashed ends).TruthfulOver
              fun _ => Tree.ofFiles [["f", "File not found"]] := by
  constructor
  · have named : Named slashed (Tree.ofFiles [["nano 1.root", "out"]]) :=
      named_slashed (by decide) (by decide) (by decide)
    have clear : ∀ path, (Tree.ofFiles [["nano 1.root", "out"]]).Contains path →
        isAbsentMessage (slashed path) = false := by
      intro path present
      rcases contains_oneFile present with rfl | rfl | rfl <;> decide +kernel
    apply ((dialogues_understood_iff emptyEnv fun _ => named).mpr (fun _ => clear) _ _).2
    have other : isAbsentMessage "timed out" = false := by decide +kernel
    intro _ _
    apply Speaks.failing 70 "" "timed out" (by decide)
    rintro ⟨told, is, phrase⟩
    have kept : errorOutput "timed out" = some "timed out" := by decide
    rw [kept] at is
    cases is
    rw [other] at phrase
    cases phrase
  · intro understood
    have named : Named slashed (Tree.ofFiles [["f", "File not found"]]) :=
      named_slashed (by decide) (by decide) (by decide)
    have clear := (dialogues_understood_iff emptyEnv fun _ => named).mp understood 0
      ["File not found"] (by decide)
    exact absurd clear (by decide +kernel)

end DSProd.Storage
