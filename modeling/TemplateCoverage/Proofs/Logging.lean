import Mathlib.Data.List.Induction
import TemplateCoverage.Logging
import TemplateCoverage.Proofs.Sorted.Map

/-!
# `TemplateCoverage.Proofs.Logging`: a log is set up once

Requests to set the log up come one after the other. The first one that names a log and can start it
decides which log there is; every other one is answered and changes nothing. The theorems:

* `wanted_eq_ok_iff`: which log the names of a request ask for;
* `Request.answer_eq_iff`: by which rules a request is answered;
* `status_append_singleton`: what one more request does;
* `status_eq_some_iff`, `status_append_of_eq_some`: which request sets the log up, for good;
* `setUp_once`: all of it, over any sequence of requests.
-/

set_option autoImplicit false

namespace TemplateCoverage

/-! ### Names of levels and destinations -/

/-- A level is named by its own name, and `warn` by `warning` too, in any case and with blanks
around it. -/
def Level.IsNamed (l : Level) (name : String) : Prop :=
  Text.cleaned name = l.name ∨ l = .warn ∧ Text.cleaned name = "warning"

/-- A directory is named by an absolute path with blanks around it; no name stands for the standard
error stream. -/
def Destination.IsNamed : Destination → Option String → Prop
  | .standardError, dir => dir = none
  | .directory path, dir => ∃ name, dir = some name ∧ path = Text.trim name ∧ path ≠ "" ∧
    (Path.parse path).absolute

/-- A level is read from the names that it has. The reader looks the cleaned name up in a table,
which is checked entry by entry. -/
theorem Level.parse?_eq_some_iff {l : Level} {name : String} :
    parse? name = some l ↔ l.IsNamed name := by
  unfold parse? ofCleaned? IsNamed
  generalize Text.cleaned name = cleaned
  rw [SortedMap.lookup_eq_some_iff_mem (by decide)]
  constructor
  · intro mem
    simp only [List.mem_cons, Prod.mk.injEq, List.not_mem_nil, or_false] at mem
    rcases mem with ⟨rfl, rfl⟩ | ⟨rfl, rfl⟩ | ⟨rfl, rfl⟩ | ⟨rfl, rfl⟩ | ⟨rfl, rfl⟩ | ⟨rfl, rfl⟩ <;>
      decide
  · rintro (rfl | ⟨rfl, rfl⟩)
    · cases l <;> decide
    · decide

namespace Log

/-- A request to set the log up: the names of a level and perhaps of a directory, and what becomes
of starting a log at the time. -/
structure Request where
  level : String
  dir : Option String
  start : Log → Except StartFault Unit

namespace Request

/-- The answer to a request when there is a log or none: what the caller gets, without what it does
to the log. -/
def answer (r : Request) (present : Option Log) : Except LoggingError Unit :=
  (setUp present r.level r.dir r.start).1

/-- The log after a request: what the next request will find, whatever this one was answered. -/
def next (present : Option Log) (r : Request) : Option Log :=
  (setUp present r.level r.dir r.start).2

/-- A request asks for the log whose level and destination it names; there is one such log at most.
-/
structure AsksFor (r : Request) (log : Log) : Prop where
  level : log.level.IsNamed r.level
  destination : log.destination.IsNamed r.dir

/-- The rules by which a request is answered. A level that is not named comes before a directory
that is not, and both before the log that is there, of which another destination comes before
another level. -/
inductive IsAnswered (r : Request) : Option Log → Except LoggingError Unit → Prop
  | noLevel {present : Option Log} : (∀ l : Level, ¬l.IsNamed r.level) →
      IsAnswered r present (.error (.unsupportedLevel r.level))
  | noDirectory {present : Option Log} {l : Level} {name : String} : l.IsNamed r.level →
      r.dir = some name → Text.trim name = "" → IsAnswered r present (.error .emptyDirectory)
  | relative {present : Option Log} {l : Level} {name : String} : l.IsNamed r.level →
      r.dir = some name → Text.trim name ≠ "" → ¬(Path.parse (Text.trim name)).absolute →
      IsAnswered r present (.error (.relativeDirectory (Text.trim name)))
  | notStarted {log : Log} {fault : StartFault} : r.AsksFor log → r.start log = .error fault →
      IsAnswered r none (.error (.notStarted fault))
  | started {log : Log} : r.AsksFor log → r.start log = .ok () → IsAnswered r none (.ok ())
  | otherDestination {present log : Log} : r.AsksFor log →
      ¬present.destination.same log.destination →
      IsAnswered r (some present)
        (.error (.otherDestination present.destination log.destination))
  | otherLevel {present log : Log} : r.AsksFor log → present.destination.same log.destination →
      present.level ≠ log.level →
      IsAnswered r (some present) (.error (.otherLevel present.level log.level))
  | agreed {present log : Log} : r.AsksFor log → present.destination.same log.destination →
      present.level = log.level → IsAnswered r (some present) (.ok ())

end Request

variable {level : String} {dir : Option String} {log present : Log} {r : Request}

/-! ### What a request asks for -/

/-- A directory is taken from its name without the blanks around it, if something is left and that
is an absolute path. -/
theorem directory_eq_ok_iff {name : String} {d : Destination} :
    directory name = .ok d ↔ d = .directory (Text.trim name) ∧ Text.trim name ≠ "" ∧
      (Path.parse (Text.trim name)).absolute := by
  unfold directory
  by_cases blank : Text.trim name = ""
  · simp [blank]
  · by_cases absolute : (Path.parse (Text.trim name)).absolute
    · simp [blank, absolute, eq_comm]
    · simp [blank, absolute]

/-- A directory is refused for a blank name or else for a relative path, in this order, and the
second error shows the path without blanks. -/
theorem directory_eq_error_iff {name : String} {e : LoggingError} :
    directory name = .error e ↔ Text.trim name = "" ∧ e = .emptyDirectory ∨
      Text.trim name ≠ "" ∧ ¬(Path.parse (Text.trim name)).absolute ∧
        e = .relativeDirectory (Text.trim name) := by
  unfold directory
  by_cases blank : Text.trim name = ""
  · simp only [blank, if_true, Except.error.injEq, ne_eq, not_true, false_and, or_false, true_and]
    exact eq_comm
  · by_cases absolute : (Path.parse (Text.trim name)).absolute
    · simp [blank, absolute]
    · simp [blank, absolute, eq_comm]

/-- A destination is named by a text if and only if the text is taken as that directory. -/
theorem isNamed_directory_iff {name : String} {d : Destination} :
    d.IsNamed (some name) ↔ directory name = .ok d := by
  rw [directory_eq_ok_iff]
  cases d with
  | standardError => simp [Destination.IsNamed]
  | directory path =>
    simp only [Destination.IsNamed, Option.some.injEq, exists_eq_left', Destination.directory.injEq]
    refine and_congr_right ?_
    rintro rfl
    rfl

/-- Without the name of a directory the standard error stream is named. -/
theorem isNamed_none_iff {d : Destination} : d.IsNamed none ↔ d = .standardError := by
  cases d <;> simp [Destination.IsNamed]

/-- The names of a request ask for a log if they name its level and its destination. Neither depends
on the log that is there, so that names are checked before it. -/
theorem wanted_eq_ok_iff : wanted r.level r.dir = .ok log ↔ r.AsksFor log := by
  have named : r.AsksFor log ↔ log.level.IsNamed r.level ∧ log.destination.IsNamed r.dir :=
    ⟨fun asks => ⟨asks.level, asks.destination⟩, fun names => ⟨names.1, names.2⟩⟩
  obtain ⟨l, d⟩ := log
  rw [named, ← Level.parse?_eq_some_iff, wanted]
  cases Level.parse? r.level with
  | none => simp
  | some l' =>
    cases r.dir with
    | none => simp [isNamed_none_iff, eq_comm]
    | some name =>
      rw [isNamed_directory_iff]
      cases found : directory name <;> simp [found]

/-- Names ask for no log if they name no level, or else no directory. The level comes first: where
it is misnamed the directory is not looked at. -/
theorem wanted_eq_error_iff {e : LoggingError} : wanted r.level r.dir = .error e ↔
    e = .unsupportedLevel r.level ∧ (∀ l : Level, ¬l.IsNamed r.level) ∨
      (∃ l : Level, l.IsNamed r.level) ∧ ∃ name, r.dir = some name ∧ directory name = .error e := by
  simp only [← Level.parse?_eq_some_iff, wanted]
  cases Level.parse? r.level with
  | none => simp [eq_comm]
  | some l =>
    cases r.dir with
    | none => simp
    | some name => cases found : directory name <;> simp [found]

/-! ### What a request is answered -/

namespace Request

/-- Misnamed requests are answered with the error about the names, whatever log there is. -/
theorem answer_of_error {state : Option Log} {e : LoggingError}
    (refused : wanted r.level r.dir = .error e) : r.answer state = .error e := by
  rw [answer, setUp, refused]

/-- Without a log the one that is asked for is started, and is there if that goes well. -/
theorem setUp_of_start_ok (asks : r.AsksFor log) (starts : r.start log = .ok ()) :
    setUp none r.level r.dir r.start = (.ok (), some log) := by
  simp only [setUp, wanted_eq_ok_iff.2 asks, starts]

/-- If it cannot be started there is still none, so that a later request may try again. -/
theorem setUp_of_start_error {fault : StartFault} (asks : r.AsksFor log)
    (fails : r.start log = .error fault) :
    setUp none r.level r.dir r.start = (.error (.notStarted fault), none) := by
  simp only [setUp, wanted_eq_ok_iff.2 asks, fails]

/-- With a log a request is answered by comparing the log asked for with it, and nothing is started.
-/
theorem answer_some (asks : r.AsksFor log) : r.answer (some present) = agree present log := by
  rw [answer, setUp, wanted_eq_ok_iff.2 asks]

/-- No request is answered in two ways: the answer by a rule is the one that is given. One case for
each rule, with the part of the answer that the rule is about. -/
theorem IsAnswered.answer_eq {state : Option Log} {a : Except LoggingError Unit}
    (answered : r.IsAnswered state a) : r.answer state = a := by
  cases answered with
  | noLevel unnamed => exact answer_of_error (wanted_eq_error_iff.2 (.inl ⟨rfl, unnamed⟩))
  | noDirectory named given blank =>
    exact answer_of_error (wanted_eq_error_iff.2
      (.inr ⟨⟨_, named⟩, _, given, directory_eq_error_iff.2 (.inl ⟨blank, rfl⟩)⟩))
  | relative named given some relative =>
    exact answer_of_error (wanted_eq_error_iff.2
      (.inr ⟨⟨_, named⟩, _, given, directory_eq_error_iff.2 (.inr ⟨some, relative, rfl⟩)⟩))
  | notStarted asks fails => rw [answer, setUp_of_start_error asks fails]
  | started asks starts => rw [answer, setUp_of_start_ok asks starts]
  | otherDestination asks other => simp [answer_some asks, agree, other]
  | otherLevel asks same other => simp [answer_some asks, agree, same, other]
  | agreed asks same eq => simp [answer_some asks, agree, same, eq]

/-- Every request is answered by one of the rules, so that they leave nothing open. -/
theorem isAnswered_answer (r : Request) (state : Option Log) :
    r.IsAnswered state (r.answer state) := by
  -- The cases stand in the order in which a request is checked: its names, then the log.
  cases asked : wanted r.level r.dir with
  | error e =>
    rw [answer_of_error asked]
    rcases wanted_eq_error_iff.1 asked with ⟨rfl, unnamed⟩ | ⟨⟨_, named⟩, name, given, refused⟩
    · exact .noLevel unnamed
    · rcases directory_eq_error_iff.1 refused with ⟨blank, rfl⟩ | ⟨some, relative, rfl⟩
      · exact .noDirectory named given blank
      · exact .relative named given some relative
  | ok log =>
    have asks : r.AsksFor log := wanted_eq_ok_iff.1 asked
    cases state with
    | none =>
      cases starts : r.start log with
      | error fault =>
        rw [answer, setUp_of_start_error asks starts]
        exact .notStarted asks starts
      | ok =>
        rw [answer, setUp_of_start_ok asks starts]
        exact .started asks starts
    | some present =>
      rw [answer_some asks, agree]
      -- Destinations are compared first, and levels only where they agree.
      by_cases same : present.destination.same log.destination
      · by_cases eq : present.level = log.level
        · simpa [same, eq] using IsAnswered.agreed asks same eq
        · simpa [same, eq] using IsAnswered.otherLevel asks same eq
      · simpa [same] using IsAnswered.otherDestination asks same

/-- A request is answered as the rules say, and in no other way. -/
theorem answer_eq_iff {state : Option Log} {a : Except LoggingError Unit} :
    r.answer state = a ↔ r.IsAnswered state a :=
  ⟨fun eq => eq ▸ isAnswered_answer r state, IsAnswered.answer_eq⟩

/-- A request sets a log up if and only if there was none, it asks for this one and is answered
well. -/
theorem next_none_eq_some_iff :
    next none r = some log ↔ r.AsksFor log ∧ r.answer none = .ok () := by
  cases asked : wanted r.level r.dir with
  | error e =>
    have unchanged : next none r = none := by rw [next, setUp, asked]
    simp [unchanged, answer_of_error asked]
  | ok log' =>
    have asks : r.AsksFor log' := wanted_eq_ok_iff.1 asked
    -- The names of the request leave no other log to be set up.
    have only : r.AsksFor log ↔ log' = log := by
      rw [← wanted_eq_ok_iff, asked, Except.ok.injEq]
    cases starts : r.start log' with
    | error fault => simp [next, answer, setUp_of_start_error asks starts]
    | ok => simp [next, answer, setUp_of_start_ok asks starts, only]

/-- A request that is refused leaves the log as it was, be it there or not. -/
theorem next_of_answer_ne_ok {state : Option Log} (refused : r.answer state ≠ .ok ()) :
    next state r = state := by
  cases answered : r.answer state with
  | error e => exact setUp_error answered
  | ok => exact absurd answered refused

end Request

/-! ### Sequences of requests -/

/-- The log after requests, before the first of which there is none: a process starts without one.
-/
def status (requests : List Request) : Option Log := requests.foldl Request.next none

variable {requests later : List Request}

/-- What more requests do depends on earlier ones only by the log that these leave. -/
theorem status_append : status (requests ++ later) = later.foldl Request.next (status requests) :=
  List.foldl_append

/-- One more request does what it does to the log before it. With induction from the last request
this gives the history of the log. -/
theorem status_append_singleton : status (requests ++ [r]) = Request.next (status requests) r :=
  status_append

/-- A log that is set up stays as it is, whatever requests come later: these are answered for it and
do not touch it. -/
theorem status_append_of_eq_some (isSetUp : status requests = some log) :
    status (requests ++ later) = some log := by
  rw [status_append, isSetUp]
  induction later with
  | nil => rfl
  | cons r later ih => rwa [List.foldl_cons, Request.next, setUp_some]

/-- There is a log if and only if a request was answered well while there was none, and this request
asked for it. -/
theorem status_eq_some_iff : status requests = some log ↔
    ∃ before first after, requests = before ++ first :: after ∧ status before = none ∧
      first.answer none = .ok () ∧ first.AsksFor log := by
  constructor
  · intro isSetUp
    -- By the last request: it is the one if it finds no log, and else it changes nothing.
    induction requests using List.reverseRecOn with
    | nil => contradiction
    | append_singleton requests r ih =>
      rw [status_append_singleton] at isSetUp
      cases was : status requests with
      | none =>
        rw [was] at isSetUp
        obtain ⟨asks, answered⟩ := Request.next_none_eq_some_iff.1 isSetUp
        exact ⟨requests, r, [], rfl, was, answered, asks⟩
      | some log' =>
        rw [was, Request.next, setUp_some] at isSetUp
        obtain ⟨before, first, after, rfl, found⟩ := ih (was.trans isSetUp)
        exact ⟨before, first, after ++ [r], by simp, found⟩
  · rintro ⟨before, first, after, rfl, unset, answered, asks⟩
    -- The first request that is answered well sets the log up, and the later ones leave it.
    have set : status (before ++ [first]) = some log := by
      rw [status_append_singleton, unset]
      exact Request.next_none_eq_some_iff.2 ⟨asks, answered⟩
    have stays : status ((before ++ [first]) ++ after) = some log := status_append_of_eq_some set
    simpa using stays

/-- There is no log as long as no request was answered well. So an answer without an error is a
promise that there is a log from then on. -/
theorem status_eq_none_iff : status requests = none ↔
    ∀ before r after, requests = before ++ r :: after → r.answer (status before) ≠ .ok () := by
  constructor
  · rintro unset before r after rfl answered
    cases was : status before with
    | none =>
      rw [was] at answered
      obtain ⟨log, asks⟩ : ∃ log, r.AsksFor log := by
        cases Request.answer_eq_iff.1 answered with
        | started asks => exact ⟨_, asks⟩
      have set := status_eq_some_iff.2 ⟨before, r, after, rfl, was, answered, asks⟩
      exact Option.some_ne_none log (set.symm.trans unset)
    -- A log that was there before is there in the end.
    | some log =>
      have stays : status (before ++ r :: after) = some log := status_append_of_eq_some was
      exact Option.some_ne_none log (stays.symm.trans unset)
  · intro refused
    refine Option.eq_none_iff_forall_ne_some.2 fun log set => ?_
    obtain ⟨before, first, after, eq, unset, answered, _⟩ := status_eq_some_iff.1 set
    exact refused before first after eq (unset ▸ answered)

/-- A log is set up once. There is none until the first request that is answered well, and from then
on the one that this request asked for, whatever comes later; a request that is refused changes
nothing, before that or after it. Each request is answered as the rules say for the log there is:
where there is one, well if and only if it names a log with the same destination and level. -/
theorem setUp_once (earlier : List Request) (r : Request) :
    (∀ log, status earlier = some log ↔
      ∃ before first after, earlier = before ++ first :: after ∧ status before = none ∧
        first.answer none = .ok () ∧ first.AsksFor log) ∧
    (status earlier = none ↔
      ∀ before q after, earlier = before ++ q :: after → q.answer (status before) ≠ .ok ()) ∧
    (∀ log later, status earlier = some log → status (earlier ++ later) = some log) ∧
    (r.answer (status earlier) ≠ .ok () → status (earlier ++ [r]) = status earlier) ∧
    (∀ a, r.answer (status earlier) = a ↔ r.IsAnswered (status earlier) a) ∧
    (r.answer none = .ok () ↔ ∃ log, r.AsksFor log ∧ r.start log = .ok ()) ∧
    ∀ present, r.answer (some present) = .ok () ↔
      ∃ log, r.AsksFor log ∧ present.destination.same log.destination ∧
        present.level = log.level := by
  refine ⟨fun log => status_eq_some_iff, status_eq_none_iff, fun log later =>
    status_append_of_eq_some, fun refused => ?_, fun a => Request.answer_eq_iff, ?_, ?_⟩
  · rw [status_append_singleton, Request.next_of_answer_ne_ok refused]
  · rw [Request.answer_eq_iff]
    constructor
    · rintro ⟨⟩
      exact ⟨_, ‹_›, ‹_›⟩
    · rintro ⟨log, asks, starts⟩
      exact .started asks starts
  · intro present
    rw [Request.answer_eq_iff]
    constructor
    · rintro ⟨⟩
      exact ⟨_, ‹_›, ‹_›, ‹_›⟩
    · rintro ⟨log, asks, same, eq⟩
      exact .agreed asks same eq

/-- A log that could not be started at first is set up by the next request and stays, whether a
later one names no level or asks for the same log in other words. -/
theorem setUp_once_retried :
    let busy : Request := ⟨"warn", some "/log", fun _ => .error (.noWriter "busy")⟩
    let again : Request := ⟨" Warning ", some " /log/ ", fun _ => .ok ()⟩
    let misnamed : Request := ⟨"verbose", some "log", fun _ => .ok ()⟩
    let respelled : Request := ⟨"WARN", some "/log/.", fun _ => .error (.noWriter "busy")⟩
    let log : Log := ⟨.warn, .directory "/log/"⟩
    status [busy] = none ∧ status [busy, again] = some log ∧
      misnamed.answer (status [busy, again]) = .error (.unsupportedLevel "verbose") ∧
      status ([busy, again] ++ [misnamed]) = status [busy, again] ∧
      respelled.answer (some log) = .ok () ∧
      status ([busy, again] ++ [misnamed, respelled]) = some log := by
  intro busy again misnamed respelled log
  have set : status [busy, again] = some log := by decide
  have unnamed : misnamed.answer (status [busy, again]) = .error (.unsupportedLevel "verbose") := by
    decide
  obtain ⟨-, -, -, unchanged, -, -, -⟩ := setUp_once [busy, again] misnamed
  -- The two later requests follow the same two, one refused and one agreed with.
  obtain ⟨-, -, stays, -, -, -, agrees⟩ := setUp_once [busy, again] respelled
  have asks : respelled.AsksFor ⟨.warn, .directory "/log/."⟩ :=
    wanted_eq_ok_iff.1 (by decide)
  refine ⟨by decide, set, unnamed, unchanged ?_, (agrees log).2 ⟨_, asks, by decide, rfl⟩,
    stays log _ set⟩
  rw [unnamed]
  exact nofun

end Log

end TemplateCoverage
