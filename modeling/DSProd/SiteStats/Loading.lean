import DSProd.SiteStats.Persistence

/-!
# Record files of any content

`load` runs while a workflow is submitted, so nothing in it may raise.  It
expects what opening and parsing the file raises, and the type and value errors
of the conversions.  An infinity that is read as an integer and an integer too
large for a float raise an error of a third kind, and a document nested too
deeply one of a fourth.
-/

namespace DSProd.SiteStats

open DSProd.Library

/-! ## The content of a file -/

/-- What opening and parsing the record file comes to: an error of a kind that
is expected, the recursion error of a document nested too deeply, or a value. -/
inductive Content where
  | rejected
  | tooDeep
  | parsed (document : Json)

/-- What escapes from `load`. -/
inductive Escaped where
  | recursionError
  | conversion (fault : Json.Fault)
  deriving DecidableEq

/-- `load` on the content of the record file. -/
def loadFile : Content → Except Escaped (Dict String LoadedRecord)
  | .rejected => (load none).mapError .conversion
  | .tooDeep => .error .recursionError
  | .parsed document => (load (some document)).mapError .conversion

/-- The entries of `sites`, where the document has them. -/
def Content.sites : Content → List (String × Json)
  | .parsed (.obj fields) =>
      match fields.lookup "sites" with
      | some (.obj sites) => sites
      | _ => []
  | _ => []

/-! ## The conversions of an entry -/

/-- The error of a conversion, if it raises one. -/
def fault? {α : Type} : Except Json.Fault α → Option Json.Fault
  | .ok _ => none
  | .error fault => some fault

/-- The errors of the conversions of one outcome. -/
def eventFaults (value : Json) : List Json.Fault :=
  match value.pair with
  | .error fault => [fault]
  | .ok (time, ok) => (fault? (toFloat time)).toList ++ (fault? (toInt ok)).toList

/-- The errors of the conversions of `events`. -/
def eventsFaults (value : Json) : List Json.Fault :=
  match value.iterate with
  | .error fault => [fault]
  | .ok values => values.flatMap eventFaults

/-- The errors of the conversions of a record, in their order. -/
def faults (fields : List (String × Json)) : List Json.Fault :=
  eventsFaults (Json.getOr fields "events" (.arr [])) ++
    (fault? (toFloat (Json.getOr fields "quarantined_until" (.float (.finite 0))))).toList ++
    (fault? (toInt (Json.getOr fields "quarantines" (.int 0)))).toList ++
    (fault? (toFloat (Json.getOr fields "cleared_at" (.float (.finite 0))))).toList

/-- An entry that is kept: its name is a site name, and each field of its
record converts. -/
def keptSite : String × Json → Option (String × LoadedRecord)
  | (name, .obj fields) =>
      if isSite name = true ∧ faults fields = [] then
        (loadRecord fields).toOption.map fun entry => (name, entry)
      else none
  | _ => none

/-- `load` returns, and keeps exactly the entries that it can read. -/
def LoadsAll (content : Content) : Prop :=
  loadFile content = .ok (Dict.ofList (content.sites.filterMap keptSite))

/-- The errors of the conversions of a record that is an object. -/
def recordFaults : Json → List Json.Fault
  | .obj fields => faults fields
  | _ => []

/-- The first conversion that fails in a site's record is of a number out of
range. -/
def Overflows (item : String × Json) : Prop :=
  isSite item.1 = true ∧ (recordFaults item.2).head? = some .overflowError

instance (item : String × Json) : Decidable (Overflows item) :=
  inferInstanceAs (Decidable (_ ∧ _))

/-- The document is not nested too deeply, and no record has a number out of
range before another value that does not convert. -/
def NoOverflow (content : Content) : Prop :=
  content ≠ .tooDeep ∧ ∀ item ∈ content.sites, ¬Overflows item

/-! ## One entry -/

/-- The first error of two computations in sequence. -/
theorem fault?_bind {α β : Type} {first : Except Json.Fault α} {next : α → Except Json.Fault β}
    {firstFaults nextFaults : List Json.Fault} (firstFails : fault? first = firstFaults.head?)
    (nextFails : ∀ value, first = .ok value → fault? (next value) = nextFaults.head?) :
    fault? (first >>= next) = (firstFaults ++ nextFaults).head? := by
  rw [List.head?_append, ← firstFails]
  cases first with
  | error fault => rfl
  | ok value => simpa [fault?, bind, Except.bind] using nextFails value rfl

/-- The first error of a conversion that another computation follows. -/
theorem fault?_convert_bind {α β : Type} {first : Except Json.Fault α}
    {next : α → Except Json.Fault β} {nextFaults : List Json.Fault}
    (nextFails : ∀ value, first = .ok value → fault? (next value) = nextFaults.head?) :
    fault? (first >>= next) = ((fault? first).toList ++ nextFaults).head? :=
  fault?_bind (by cases fault? first <;> rfl) nextFails

theorem fault?_loadEvent (value : Json) : fault? (loadEvent value) = (eventFaults value).head? := by
  rw [loadEvent, eventFaults]
  cases value.pair with
  | error fault => rfl
  | ok pair =>
      apply @fault?_convert_bind _ _ (toFloat pair.1)
      intro time _
      rw [← List.append_nil (fault? (toInt pair.2)).toList]
      exact fault?_convert_bind fun _ _ => rfl

theorem fault?_mapM_loadEvent (values : List Json) :
    fault? (values.mapM loadEvent) = (values.flatMap eventFaults).head? := by
  induction values with
  | nil => rfl
  | cons first rest ih =>
      rw [List.mapM_cons, List.flatMap_cons]
      apply fault?_bind (fault?_loadEvent first)
      intro event _
      rw [← List.append_nil (rest.flatMap eventFaults)]
      exact fault?_bind ih fun _ _ => rfl

theorem fault?_iterate_bind {β : Type} (value : Json)
    {next : List (Number × ℤ) → Except Json.Fault β} {nextFaults : List Json.Fault}
    (nextFails : ∀ events, fault? (next events) = nextFaults.head?) :
    fault? (value.iterate >>= fun values => values.mapM loadEvent >>= next) =
      (eventsFaults value ++ nextFaults).head? := by
  rw [eventsFaults]
  cases value.iterate with
  | error fault => rfl
  | ok values =>
      have reads := fault?_bind (fault?_mapM_loadEvent values) fun events _ => nextFails events
      exact reads

/-- A record is read until the first conversion that fails. -/
theorem fault?_loadRecord (fields : List (String × Json)) :
    fault? (loadRecord fields) = (faults fields).head? := by
  rw [loadRecord, faults, List.append_assoc, List.append_assoc]
  apply fault?_iterate_bind
  intro events
  apply fault?_convert_bind
  intro quarantinedUntil _
  apply fault?_convert_bind
  intro quarantines _
  rw [← List.append_nil (fault? _).toList]
  exact fault?_convert_bind fun _ _ => rfl

/-! ## The whole file -/

/-- An entry stops the loop of `load`, is kept, or is dropped. -/
theorem loadSites_cons (loaded : Dict String LoadedRecord) (item : String × Json)
    (rest : List (String × Json)) :
    loadSites loaded (item :: rest) =
      if Overflows item then .error .overflowError
      else loadSites (loaded.update (keptSite item).toList) rest := by
  rcases item with ⟨name, record⟩
  cases record with
  | obj fields =>
      have fails := fault?_loadRecord fields
      rw [loadSites, keptSite]
      cases known : isSite name with
      | false => simp [Overflows, known, Dict.update]
      | true =>
          cases read : loadRecord fields with
          | ok entry =>
              rw [read] at fails
              have none : faults fields = [] := List.head?_eq_none_iff.mp fails.symm
              simp [Overflows, recordFaults, none, Except.toOption, Dict.update]
          | error fault =>
              rw [read] at fails
              have some : faults fields ≠ [] := by
                intro none
                rw [none] at fails
                cases fails
              cases fault <;> simp [Overflows, recordFaults, known, ← fails, fault?, some,
                Dict.update]
  | _ => simp [loadSites, keptSite, Overflows, recordFaults, Dict.update]

/-- Without a number out of range the loop of `load` keeps what can be read. -/
theorem loadSites_of_inRange {sites : List (String × Json)}
    (inRange : ∀ item ∈ sites, ¬Overflows item) (loaded : Dict String LoadedRecord) :
    loadSites loaded sites = .ok (loaded.update (sites.filterMap keptSite)) := by
  induction sites generalizing loaded with
  | nil => rfl
  | cons item rest ih =>
      rw [loadSites_cons, if_neg (inRange item List.mem_cons_self),
        ih (fun later member => inRange later (List.mem_cons_of_mem item member)),
        List.filterMap_cons]
      cases keptSite item <;> rfl

/-- A number out of range stops it. -/
theorem loadSites_of_overflow {sites : List (String × Json)} {item : String × Json}
    (member : item ∈ sites) (overflows : Overflows item) (loaded : Dict String LoadedRecord) :
    loadSites loaded sites = .error .overflowError := by
  induction sites generalizing loaded with
  | nil => cases member
  | cons first rest ih =>
      rw [loadSites_cons]
      split
      · rfl
      · rename_i inRange
        rcases List.mem_cons.mp member with rfl | later
        · exact absurd overflows inRange
        · exact ih later _

/-- What is no object with `sites` reads as an empty record. -/
theorem loadFile_eq {content : Content} (shallow : content ≠ .tooDeep) :
    loadFile content = (loadSites Dict.empty content.sites).mapError .conversion := by
  cases content with
  | rejected => rfl
  | tooDeep => exact absurd rfl shallow
  | parsed document =>
      cases document with
      | obj fields =>
          rw [loadFile, load, Content.sites]
          cases fields.lookup "sites" with
          | none => rfl
          | some found => cases found <;> rfl
      | _ => rfl

/-- `load` returns and keeps what can be read exactly when no number is out of
range and the document is not nested too deeply. -/
theorem loadsAll_iff_noOverflow (content : Content) : LoadsAll content ↔ NoOverflow content := by
  constructor
  · intro loads
    have shallow : content ≠ .tooDeep := by
      rintro rfl
      cases loads
    apply And.intro shallow
    intro item member overflows
    rw [LoadsAll, loadFile_eq shallow, loadSites_of_overflow member overflows] at loads
    cases loads
  · rintro ⟨shallow, inRange⟩
    rw [LoadsAll, loadFile_eq shallow, loadSites_of_inRange inRange]
    rfl

/-- A document in which one site has been quarantined without end. -/
def endlessQuarantines : Json :=
  .obj [("version", .int 1), ("sites", .obj
    [("T2_CH_CERN", .obj [("quarantines", .float .posInf)]), ("T1_DE_KIT", .obj [])])]

/-- Its other site is not read either. -/
theorem not_loadsAll_endlessQuarantines : ¬LoadsAll (.parsed endlessQuarantines) := by
  rw [LoadsAll, show loadFile (.parsed endlessQuarantines) =
    .error (.conversion .overflowError) by decide +kernel]
  exact fun returned => by cases returned

end DSProd.SiteStats
