import DSProd.Library.Dict
import DSProd.Library.Run
import Mathlib.Algebra.Order.Field.Rat
import Mathlib.Data.List.Sort
import Mathlib.Tactic.Linarith

/-!
# Site statistics and quarantines

`SiteStats` of `site_stats.py`: the outcomes of jobs per site in a rolling
window, and the quarantines they earn.  Times are seconds, as exact rationals.
Settings that the source reads through `int(...)` are integers here.
-/

namespace DSProd.SiteStats

open DSProd.Library

/-! ## Site names -/

/-- The code points of the digit zero in the scripts whose digits `\d` matches. -/
def decimalZeros : List Nat :=
  [0x30, 0x660, 0x6F0, 0x7C0, 0x966, 0x9E6, 0xA66, 0xAE6, 0xB66, 0xBE6, 0xC66, 0xCE6, 0xD66,
    0xDE6, 0xE50, 0xED0, 0xF20, 0x1040, 0x1090, 0x17E0, 0x1810, 0x1946, 0x19D0, 0x1A80, 0x1A90,
    0x1B50, 0x1BB0, 0x1C40, 0x1C50, 0xA620, 0xA8D0, 0xA900, 0xA9D0, 0xA9F0, 0xAA50, 0xABF0,
    0xFF10, 0x104A0, 0x10D30, 0x11066, 0x110F0, 0x11136, 0x111D0, 0x112F0, 0x11450, 0x114D0,
    0x11650, 0x116C0, 0x11730, 0x118E0, 0x11950, 0x11C50, 0x11D50, 0x11DA0, 0x16A60, 0x16B50,
    0x1D7CE, 0x1D7D8, 0x1D7E2, 0x1D7EC, 0x1D7F6, 0x1E140, 0x1E2F0, 0x1E950, 0x1FBF0]

/-- `\d`: a decimal digit of any script. -/
def isDecimalDigit (char : Char) : Bool :=
  decimalZeros.any fun first => first ≤ char.toNat && char.toNat < first + 10

/-- `[A-Za-z0-9_]+$`: the dollar also matches before a final newline. -/
def isSiteBody (chars : List Char) : Bool :=
  let body := if chars.getLast? = some '\n' then chars.dropLast else chars
  !body.isEmpty && body.all fun char => char.isAlphanum || char = '_'

/-- `is_site`: a match of `^T\d_[A-Za-z0-9_]+$`. -/
def isSite (name : String) : Bool :=
  match name.toList with
  | 'T' :: digit :: '_' :: rest => isDecimalDigit digit && isSiteBody rest
  | _ => false

/-! ## Data -/

/-- The `crab.auto_blacklist` settings, with `DEFAULTS`. -/
structure Config where
  enabled : Bool := true
  minFailures : ℤ := 5
  minFailureRate : ℚ := 1 / 2
  relativeFactor : ℚ := 2
  minBaselineJobs : ℤ := 20
  quarantineHours : ℚ := 24
  maxQuarantineHours : ℚ := 768
  burstFailures : ℤ := 20
  burstMinutes : ℚ := 15
  windowHours : ℚ := 24
  maxSites : ℤ := 10
  deriving DecidableEq

/-- One outcome: when it was recorded, and whether the job succeeded. -/
abbrev Event := ℚ × Bool

/-- The record of one site. -/
structure SiteRecord where
  events : List Event
  quarantinedUntil : ℚ
  quarantines : ℤ
  clearedAt : ℚ
  deriving DecidableEq

/-- `_new_record`. -/
def newRecord : SiteRecord :=
  ⟨[], 0, 0, 0⟩

end SiteStats

open Library SiteStats in
/-- The outcomes per site, the jobs in flight per site, and whether the record
differs from its file. -/
structure SiteStats where
  cfg : Config
  sites : Dict String SiteRecord
  inFlight : Dict String Nat
  dirty : Bool

namespace SiteStats

open DSProd.Library

/-- `SiteStats.__init__` without a record file. -/
def new (cfg : Config) : SiteStats :=
  ⟨cfg, Dict.empty, Dict.empty, false⟩

/-! ## Tallies -/

/-- The failures among some outcomes. -/
def failures (events : List Event) : List Event :=
  events.filter fun event => !event.2

/-- The outcomes recorded since a moment. -/
def eventsSince (entry : SiteRecord) (since : ℚ) : List Event :=
  entry.events.filter fun event => since ≤ event.1

/-- The outcomes `_counts` reads: a zero `since` filters nothing. -/
def countedEvents (entry : SiteRecord) (since : ℚ) : List Event :=
  if since ≠ 0 then eventsSince entry since else entry.events

/-- `_counts`: the jobs sent to a site, ended or in flight, and the failures
among them. -/
def counts (stats : SiteStats) (site : String) (entry : SiteRecord) (since : ℚ) : Nat × Nat :=
  ((countedEvents entry since).length + stats.inFlight.getD site 0,
    (failures (countedEvents entry since)).length)

/-- `_ended_since`: the outcomes since a moment, and the failures among them. -/
def endedSince (entry : SiteRecord) (since : ℚ) : Nat × Nat :=
  ((eventsSince entry since).length, (failures (eventsSince entry since)).length)

/-- The failures over the jobs, or zero when there are no jobs. -/
def rate (tally : Nat × Nat) : ℚ :=
  if tally.1 ≠ 0 then (tally.2 : ℚ) / tally.1 else 0

/-- The sum of a tally over every other site: the loop of both baselines. -/
def sumOthers (tally : String → SiteRecord → Nat × Nat) (site : String)
    (items : List (String × SiteRecord)) : Nat × Nat :=
  items.foldl
    (fun total item =>
      if item.1 = site then total
      else (total.1 + (tally item.1 item.2).1, total.2 + (tally item.1 item.2).2))
    (0, 0)

/-- `_baseline`: jobs and failure rate of every other site. -/
def baseline (stats : SiteStats) (site : String) : Nat × ℚ :=
  let total := sumOthers (fun name entry => counts stats name entry 0) site stats.sites.items
  (total.1, rate total)

/-- `_burst_baseline`: outcomes and failure rate of every other site over the
same window. -/
def burstBaseline (stats : SiteStats) (site : String) (since : ℚ) : Nat × ℚ :=
  let total := sumOthers (fun _ entry => endedSince entry since) site stats.sites.items
  (total.1, rate total)

/-! ## The two tests -/

/-- What `_is_burst` and `_is_failing` ask of a tally, given the failures that
are needed and the baseline of the other sites. -/
def worseThanOthers (cfg : Config) (tally : Nat × Nat) (needed : ℤ) (others : Nat × ℚ) : Bool :=
  if tally.1 = 0 ∨ (tally.2 : ℤ) < needed then false
  else if rate tally < cfg.minFailureRate then false
  else if (others.1 : ℤ) < cfg.minBaselineJobs then false
  else cfg.relativeFactor * others.2 ≤ rate tally

/-- The start of the burst window of a site: never before its last ban ended. -/
def burstSince (stats : SiteStats) (entry : SiteRecord) (now : ℚ) : ℚ :=
  max (now - stats.cfg.burstMinutes * 60) entry.clearedAt

/-- `_is_burst`. -/
def isBurst (stats : SiteStats) (site : String) (entry : SiteRecord) (now : ℚ) : Bool :=
  let since := burstSince stats entry now
  worseThanOthers stats.cfg (endedSince entry since) stats.cfg.burstFailures
    (burstBaseline stats site since)

/-- `_is_failing`. -/
def isFailing (stats : SiteStats) (site : String) (entry : SiteRecord) : Bool :=
  worseThanOthers stats.cfg (counts stats site entry entry.clearedAt) stats.cfg.minFailures
    (baseline stats site)

/-! ## Operations -/

/-- The loop body of `_prune`: the record, and whether it is dirty. -/
def pruneRecord (cutoff : ℚ) (entry : SiteRecord) : SiteRecord × Bool :=
  let kept := entry.events.filter fun event => cutoff ≤ event.1
  if kept.length ≠ entry.events.length then ({ entry with events := kept }, true)
  else (entry, false)

/-- `_prune`: drop the outcomes that left the rolling window. -/
def prune (stats : SiteStats) (now : ℚ) : SiteStats :=
  let cutoff := now - stats.cfg.windowHours * 3600
  { stats with
    sites := stats.sites.mapValues fun _ entry => (pruneRecord cutoff entry).1
    dirty := stats.dirty || stats.sites.values.any fun entry => (pruneRecord cutoff entry).2 }

/-- The loop body of `_expire`: a ban that has run out is lifted, and the site
is judged from the moment the ban ended. -/
def expireRecord (now : ℚ) (entry : SiteRecord) : SiteRecord × Bool :=
  if 0 < entry.quarantinedUntil ∧ entry.quarantinedUntil ≤ now then
    ({ entry with clearedAt := entry.quarantinedUntil, quarantinedUntil := 0 }, true)
  else (entry, false)

/-- `_expire`. -/
def expire (stats : SiteStats) (now : ℚ) : SiteStats :=
  { stats with
    sites := stats.sites.mapValues fun _ entry => (expireRecord now entry).1
    dirty := stats.dirty || stats.sites.values.any fun entry => (expireRecord now entry).2 }

/-- `_quarantine_seconds`: the base, doubled once per previous quarantine. -/
def quarantineSeconds (cfg : Config) (entry : SiteRecord) : ℚ :=
  min (cfg.quarantineHours * 2 ^ min entry.quarantines 20) cfg.maxQuarantineHours * 3600

/-- Whether the loop of `_quarantine` bans a site. -/
def condemned (stats : SiteStats) (now : ℚ) (site : String) (entry : SiteRecord) : Bool :=
  !(now < entry.quarantinedUntil) && (isBurst stats site entry now || isFailing stats site entry)

/-- The record of a site banned at a moment. -/
def banRecord (cfg : Config) (now : ℚ) (entry : SiteRecord) : SiteRecord :=
  { entry with
    quarantinedUntil := now + quarantineSeconds cfg entry
    quarantines := entry.quarantines + 1 }

/-- The loop body of `_quarantine`, on the record as it stands. -/
def quarantineSite (now : ℚ) (stats : SiteStats) (site : String) : SiteStats :=
  match stats.sites.get? site with
  | none => stats
  | some entry =>
      if condemned stats now site entry then
        { stats with sites := stats.sites.set site (banRecord stats.cfg now entry), dirty := true }
      else stats

/-- `_quarantine`. -/
def quarantine (stats : SiteStats) (now : ℚ) : SiteStats :=
  stats.sites.keys.foldl (quarantineSite now) stats

/-- `values[:stop]` of a list, a negative stop counting from the end. -/
def sliceTo {α : Type} (stop : ℤ) (values : List α) : List α :=
  if 0 ≤ stop then values.take stop.toNat else values.take (values.length - (-stop).toNat)

/-- The sites under quarantine, with their records. -/
def active (stats : SiteStats) (now : ℚ) : List (String × SiteRecord) :=
  stats.sites.items.filter fun item => now < item.2.quarantinedUntil

/-- The sites `blacklist` returns from the state it has judged: those under
quarantine, most failures first, up to the cap. -/
def listed (stats : SiteStats) (now : ℚ) : List String :=
  (sliceTo stats.cfg.maxSites
    ((active stats now).insertionSort fun first second =>
      (counts stats second.1 second.2 0).2 ≤ (counts stats first.1 first.2 0).2)).map Prod.fst

/-- The state in which `blacklist` judges: pruned, and run-out bans lifted. -/
def settle (stats : SiteStats) (now : ℚ) : SiteStats :=
  (stats.prune now).expire now

/-- `blacklist`: the sites to keep out of the next submission, and the state it
leaves. -/
def blacklist (stats : SiteStats) (now : ℚ) : List String × SiteStats :=
  if !stats.cfg.enabled then ([], stats)
  else
    let judged := (stats.settle now).quarantine now
    (judged.listed now, judged)

/-- `set_in_flight`. -/
def setInFlight (stats : SiteStats) (jobs : Dict String Nat) : SiteStats :=
  { stats with inFlight := jobs.filter fun site _ => isSite site }

/-- `record`. -/
def record (stats : SiteStats) (site : String) (ok : Bool) (now : ℚ) : SiteStats :=
  if !isSite site then stats
  else
    let entry := stats.sites.getD site newRecord
    prune
      { stats with
        sites := (stats.sites.setdefault site newRecord).set site
          { entry with events := entry.events ++ [(now, ok)] }
        dirty := true }
      now

/-- A call on the record. -/
inductive Op where
  | record (site : String) (ok : Bool) (now : ℚ)
  | setInFlight (jobs : Dict String Nat)
  | blacklist (now : ℚ)

/-- The state a call leaves. -/
def apply (stats : SiteStats) : Op → SiteStats
  | .record site ok now => stats.record site ok now
  | .setInFlight jobs => stats.setInFlight jobs
  | .blacklist now => (stats.blacklist now).2

end SiteStats

end DSProd
