import Mathlib.Data.List.DropRight

/-!
# Texts

The operations on texts that a scripting language has built in, on characters
rather than on bytes.
-/

namespace DSProd.Library.Text

/-- Whether a character is white space. -/
def isSpace (char : Char) : Bool :=
  let code := char.toNat
  (9 ≤ code && code ≤ 13) || (28 ≤ code && code ≤ 32) || (0x2000 ≤ code && code ≤ 0x200A) ||
    [0x85, 0xA0, 0x1680, 0x2028, 0x2029, 0x202F, 0x205F, 0x3000].contains code

/-- A text without the white space around it. -/
def strip (text : String) : String :=
  String.ofList ((text.toList.dropWhile isSpace).reverse.dropWhile isSpace).reverse

/-- A text that was stripped stays as it is. -/
theorem strip_strip (text : String) : strip (strip text) = strip text := by
  have form : ∀ text, strip text =
      String.ofList ((text.toList.dropWhile isSpace).rdropWhile isSpace) := fun _ => rfl
  have inner : ((text.toList.dropWhile isSpace).rdropWhile isSpace).dropWhile isSpace =
      (text.toList.dropWhile isSpace).rdropWhile isSpace := by
    cases kept : (text.toList.dropWhile isSpace).rdropWhile isSpace with
    | nil => rfl
    | cons char rest =>
        apply List.dropWhile_cons_of_neg
        have before : char :: rest <+: text.toList.dropWhile isSpace :=
          kept ▸ List.rdropWhile_prefix isSpace _
        obtain ⟨after, shape⟩ := before
        have some : text.toList.dropWhile isSpace ≠ [] := by
          rw [← shape]
          simp
        have first := List.head_dropWhile_not isSpace some
        simpa [← shape] using first
  rw [form, form, String.toList_ofList, inner, List.rdropWhile_idempotent]

theorem mem_of_mem_strip {text : String} {char : Char} (member : char ∈ (strip text).toList) :
    char ∈ text.toList := by
  rw [strip, String.toList_ofList, List.mem_reverse] at member
  have inner := (List.dropWhile_suffix isSpace).subset member
  exact (List.dropWhile_suffix isSpace).subset (List.mem_reverse.mp inner)

/-- The lines of a text, carriage returns dropped. -/
def lines (text : String) : List String :=
  (text.replace "\r" "").splitOn "\n"

/-- The last component of a path. -/
def basename (path : String) : String :=
  (path.splitOn "/").getLast?.getD ""

/-- What stands before a separator, or the whole text. -/
def before (separator text : String) : String :=
  (text.splitOn separator).head?.getD ""

/-- The first characters of a text. -/
def take (number : Nat) (text : String) : String :=
  String.ofList (text.toList.take number)

/-- A text without the newlines at its end, as a shell reads the output of a command. -/
def dropNewlines (text : String) : String :=
  String.ofList (text.toList.reverse.dropWhile (· = '\n')).reverse

/-! ## Lines of words -/

/-- A line is read back without the newline that ends it. -/
theorem dropNewlines_append_newline {line : String} (plain : '\n' ∉ line.toList) :
    dropNewlines (line ++ "\n") = line := by
  have last : (line.toList.reverse.dropWhile (· = '\n')) = line.toList.reverse := by
    cases reversed : line.toList.reverse with
    | nil => rfl
    | cons char rest =>
        have member : char ∈ line.toList := by
          rw [← List.mem_reverse, reversed]
          exact List.mem_cons_self
        apply List.dropWhile_cons_of_neg
        intro newline
        exact plain (of_decide_eq_true newline ▸ member)
  rw [dropNewlines, String.toList_append, List.reverse_append]
  change String.ofList ((line.toList.reverse.dropWhile (· = '\n')).reverse) = line
  rw [last, List.reverse_reverse, String.ofList_toList]

theorem mem_of_mem_intercalate {separator : String} {words : List String} {char : Char}
    (member : char ∈ (separator.intercalate words).toList) :
    char ∈ separator.toList ∨ ∃ word ∈ words, char ∈ word.toList := by
  induction words with
  | nil =>
      rw [String.intercalate_nil] at member
      cases member
  | cons first rest ih =>
      cases rest with
      | nil =>
          rw [String.intercalate_singleton] at member
          exact Or.inr ⟨first, List.mem_singleton_self first, member⟩
      | cons second others =>
          rw [String.intercalate_cons_cons, String.toList_append, String.toList_append,
            List.mem_append, List.mem_append] at member
          rcases member with (inFirst | inSeparator) | later
          · exact Or.inr ⟨first, List.mem_cons_self, inFirst⟩
          · exact Or.inl inSeparator
          · exact (ih later).imp_right fun ⟨word, member, inWord⟩ =>
              ⟨word, List.mem_cons_of_mem first member, inWord⟩

/-- Words without blanks are told from the line they make. -/
theorem words_eq_of_intercalate {words others : List String} (some : words ≠ [])
    (othersSome : others ≠ []) (plain : ∀ word ∈ words, ' ' ∉ word.toList)
    (othersPlain : ∀ word ∈ others, ' ' ∉ word.toList)
    (same : " ".intercalate words = " ".intercalate others) : words = others := by
  have split : ∀ {words : List String}, words ≠ [] → (∀ word ∈ words, ' ' ∉ word.toList) →
      (" ".intercalate words).toList.splitOn ' ' = words.map String.toList := by
    intro words some plain
    rw [String.toList_intercalate]
    apply List.splitOn_intercalate
    · simpa using plain
    · simpa using some
  have sameWords : words.map String.toList = others.map String.toList := by
    rw [← split some plain, ← split othersSome othersPlain, same]
  exact (List.map_inj_right fun _ _ equal => String.toList_injective equal).mp sameWords

/-! ## A number at the end -/

theorem digits_injective {m n : Nat} (same : m.repr.toList = n.repr.toList) : m = n := by
  rw [Nat.toList_repr, Nat.toList_repr] at same
  have read := congrArg (fun digits => Nat.ofDigitChars 10 digits 0) same
  simpa only [Nat.ofDigitChars_toDigits (by omega : 1 < 10) (by omega : 10 ≤ 10)] using read

/-- A number at the end of a text is told by the character before it, when that
is no digit. -/
theorem number_eq_of_append_eq {first second : List Char} {marker : Char}
    (notDigit : marker.isDigit = false) {m n : Nat}
    (same : first ++ marker :: m.repr.toList = second ++ marker :: n.repr.toList) : m = n := by
  have digits : ∀ number : Nat, ∀ char ∈ number.repr.toList.reverse, char.isDigit = true := by
    intro number char member
    rw [List.mem_reverse, Nat.toList_repr] at member
    exact Nat.isDigit_of_mem_toDigits (by omega) (by omega) member
  have read : ∀ (before : List Char) (number : Nat),
      (before ++ marker :: number.repr.toList).reverse.takeWhile Char.isDigit =
        number.repr.toList.reverse := by
    intro before number
    rw [List.reverse_append, List.reverse_cons, List.append_assoc,
      List.takeWhile_append_of_pos (digits number)]
    simp [notDigit]
  have sameDigits : m.repr.toList.reverse = n.repr.toList.reverse := by
    rw [← read first m, ← read second n, same]
  exact digits_injective (List.reverse_inj.mp sameDigits)

end DSProd.Library.Text
