import DSProd.Library.Columns
import DSProd.SiteStats.Persistence
import DSProd.Storage.Tree
import Mathlib.Data.List.Infix

/-!
# What `gfal-ls` prints

`gfal_ls` reads the long listing that the command prints, and turns a command
that fails into an error whose text is all that tells a path that is not there
from a storage that did not answer.
-/

namespace DSProd.Storage

open DSProd.Library
open DSProd.Library.Columns

/-! ## Dates -/

/-- Whether a year is a leap year. -/
def isLeap (year : ℕ) : Bool :=
  year % 4 = 0 && (year % 100 ≠ 0 || year % 400 = 0)

/-- The days of a month. -/
def daysIn (year month : ℕ) : ℕ :=
  if month = 2 then if isLeap year then 29 else 28
  else if month ∈ [4, 6, 9, 11] then 30
  else 31

/-- The fields of a moment that exists. -/
def Proper (year month day hour minute : ℕ) : Prop :=
  1 ≤ year ∧ year ≤ 9999 ∧ 1 ≤ month ∧ month ≤ 12 ∧ 1 ≤ day ∧ day ≤ daysIn year month ∧
    hour ≤ 23 ∧ minute ≤ 59

instance (year month day hour minute : ℕ) : Decidable (Proper year month day hour minute) :=
  inferInstanceAs (Decidable (_ ∧ _))

/-- A `datetime`, to the minute. -/
structure DateTime where
  year : ℕ
  month : ℕ
  day : ℕ
  hour : ℕ
  minute : ℕ
  proper : Proper year month day hour minute
  deriving DecidableEq

/-- A number of one or two digits. -/
def shortNumber (digits : List Char) : Option ℕ :=
  if digits ≠ [] ∧ digits.length ≤ 2 ∧ digits.all isDigit then some (number digits) else none

/-- `strptime(..., "%Y-%m-%d %H:%M")` of a day and a time.  A month or a day of
one zero matches no pattern, which `Proper` refuses as well. -/
def strptime (dayText timeText : List Char) : Option DateTime :=
  match dayText.splitOn '-', timeText.splitOn ':' with
  | [yearText, monthText, dayText], [hourText, minuteText] => do
      let month ← shortNumber monthText
      let day ← shortNumber dayText
      let hour ← shortNumber hourText
      let minute ← shortNumber minuteText
      if proper : yearText.length = 4 ∧ yearText.all isDigit ∧
          Proper (number yearText) month day hour minute then
        some ⟨number yearText, month, day, hour, minute, proper.2.2⟩
      else none
  | _, _ => none

/-! ## Lines -/

/-- `FileInfo`. -/
structure FileInfo where
  name : String
  path : String
  size : ℕ
  date : DateTime
  isDir : Bool
  deriving DecidableEq

/-- What `gfal_ls` raises: a `GfalError` with its text, or what `int` or
`strptime` raises. -/
inductive ListingFault where
  | gfalError (message : String)
  | valueError
  deriving DecidableEq

/-- `[rwx\-d]`. -/
def isModeChar (char : Char) : Bool :=
  ['r', 'w', 'x', '-', 'd'].contains char

/-- `[0-9\-]`. -/
def isDayChar (char : Char) : Bool :=
  isDigit char || char = '-'

/-- `[0-9:]`. -/
def isTimeChar (char : Char) : Bool :=
  isDigit char || char = ':'

/-- The groups of a line that matches. -/
structure Groups where
  mode : List Char
  size : List Char
  day : List Char
  time : List Char
  name : List Char
  deriving DecidableEq

/-- `[0-9\-]+ `: a day and the one blank after it. -/
def dayColumn (line : List Char) : Option (List Char × List Char) :=
  match line.dropWhile isDayChar with
  | ' ' :: rest =>
      if line.takeWhile isDayChar = [] then none else some (line.takeWhile isDayChar, rest)
  | _ => none

/-- The match of a line. -/
def groupsOf (line : List Char) : Option Groups := do
  let (mode, afterMode) ← column isModeChar line
  let (_, afterLinks) ← column isDigit afterMode
  let (_, afterUser) ← column isDigit afterLinks
  let (_, afterGroup) ← column isDigit afterUser
  let (size, afterSize) ← column isDigit afterGroup
  let (day, afterDay) ← dayColumn afterSize
  let (time, name) ← column isTimeChar afterDay
  some ⟨mode, size, day, time, name⟩

/-- `os.path.split`, of the text of a path. -/
def splitPath (path : String) : String × String :=
  let tail := (path.toList.reverse.takeWhile (· ≠ '/')).reverse
  let head := (path.toList.reverse.dropWhile (· ≠ '/')).reverse
  let bare := (head.reverse.dropWhile (· = '/')).reverse
  (String.ofList (if bare = [] then head else bare), String.ofList tail)

/-- A line of the listing of a path: a file, or one of the two that are skipped. -/
def parseLine (path : String) (line : List Char) : Except ListingFault (Option FileInfo) :=
  match groupsOf line with
  | none => .error (.gfalError ("gfal_ls: unable to parse \"" ++ String.ofList line ++ "\""))
  | some groups =>
      let name := Text.strip (String.ofList groups.name)
      if name = "." ∨ name = ".." then .ok none
      else if SiteStats.maxStrDigits < groups.size.length then .error .valueError
      else
        match strptime groups.day groups.time with
        | none => .error .valueError
        | some date =>
            .ok (some
              { name := if name = path then (splitPath path).2 else name
                path := if name = path then (splitPath path).1 else path
                size := number groups.size
                date := date
                isDir := groups.mode.head? = some 'd' })

/-- The loop of `gfal_ls` over the lines. -/
def parseLines (path : String) : List (List Char) → Except ListingFault (List FileInfo)
  | [] => .ok []
  | line :: rest =>
      if line = [] then parseLines path rest
      else do
        let found ← parseLine path line
        let files ← parseLines path rest
        pure (found.toList ++ files)

/-! ## The command -/

/-- How a `gfal-ls` ends. -/
structure ListingEnd where
  returnCode : ℤ
  out : String
  err : String
  deriving DecidableEq

/-- `error_output`, of two thousand characters at most. -/
def errorOutput (err : String) : Option String :=
  let text := Text.strip err
  if text = "" then none
  else if 2000 < text.length then
    some ("..." ++ String.ofList (text.toList.drop (text.length - 2000)))
  else some text

/-- The command as `ps_call` writes it. -/
def listingCommand (path : String) : String :=
  "gfal-ls --long --all --time-style long-iso " ++
    if ' ' ∈ path.toList then "'" ++ path ++ "'" else path

/-- The text of a `PsCallError`. -/
def psCallMessage (command : String) (returnCode : ℤ) (additional : Option String) : String :=
  "Error while running \"" ++ command ++ "\". Error code: " ++ toString returnCode ++
    match additional with
    | none => ""
    | some text => " " ++ text

/-- `gfal_ls` with its errors caught, as `gfal_ls_checked` calls it. -/
def gfalLsText (path : String) (ended : ListingEnd) : Except ListingFault (List FileInfo) :=
  if ended.returnCode ≠ 0 then
    .error (.gfalError ("gfal_ls: unable to list \"" ++ path ++ "\"\n" ++
      psCallMessage (listingCommand path) ended.returnCode (errorOutput ended.err)))
  else parseLines path (ended.out.toList.splitOn '\n')

/-- `_ABSENT_MESSAGES`. -/
def absentMessages : List String :=
  ["no such file or directory", "file not found"]

/-- `msg.lower()`, as far as the characters of the messages go. -/
def lower (text : String) : List Char :=
  text.toList.map Char.toLower

/-- `is_absent_error`, of the text of an error. -/
def isAbsentMessage (text : String) : Bool :=
  absentMessages.any fun message => decide (message.toList <:+: lower text)

/-- What `gfal_ls_checked` makes of one attempt. -/
def answerOf (path : String) (ended : ListingEnd) : Except ListingFault Listing :=
  match gfalLsText path ended with
  | .ok files => .ok (.entries (files.map FileInfo.name))
  | .error (.gfalError message) => .ok (if isAbsentMessage message then .absent else .failed)
  | .error .valueError => .error .valueError

end DSProd.Storage
