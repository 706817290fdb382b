import Mathlib.Data.List.Basic
import TintedText.Log.Logbook

/-!
# Making loggers and reporting to them

Making a logger has four endings (`Makes`): the root is set up already or is set up now, the logger
takes its reports silently already or does so from now on. What the disk has a say in is whether a
request succeeds (`Registry.exists_make_iff`), and nothing else. A registry is settled (`Settled`)
once the root has a handler: whatever is made later, reports to any logger reach the same outlet, or
none (`Settled.report_eq`, `Settled.makes`). Until then each logger that was made takes its reports
silently (`Unsettled`).
-/
namespace TintedText.Log

/-- The destination that a log file names, for a program that is installed below `root`. -/
inductive Names (root : String) : Option String → Destination → Prop
  /-- No file is named: the default file in the directory for logs. -/
  | unnamed :
    Names root none (.file (inDirectory (inDirectory root "logs") "colorphrase_debug.log"))
  | dash : Names root (some "-") .output
  | empty : Names root (some "") .errors
  | path {path : String} (hdash : path ≠ "-") (hempty : path ≠ "") :
      Names root (some path) (.file path)

/-- What happens when a destination is opened. -/
def Destination.opened : Destination → List Event
  | .file path => [.created path]
  | .output | .errors => []

def Handler.destination? : Handler → Option Destination
  | .silent => none
  | .writer destination => some destination

/-- The request settles where reports go: it sets the root up, or gives it a silent handler. -/
def Request.IsDecisive (request : Request) : Prop :=
  request.enabled = true ∨ properName request.name = rootName

/-- The request gives a logger a silent handler, unless it has one. -/
def Request.silences (request : Request) (name : String) : Bool :=
  !request.enabled && properName request.name == name

lemma Request.names_destination (request : Request) (root : String) :
    Names root request.file (request.destination root) := by
  unfold destination
  cases request.file with
  | none => exact .unnamed
  | some path =>
    dsimp only
    split_ifs with hdash hempty
    · rw [beq_iff_eq.mp hdash]
      exact .dash
    · rw [String.isEmpty_iff.mp hempty]
      exact .empty
    · exact .path (fun h => hdash (beq_iff_eq.mpr h)) fun h => hempty (String.isEmpty_iff.mpr h)

/-- A log file names no other destination. -/
lemma Names.destination_eq {request : Request} {root : String} {destination : Destination}
    (h : Names root request.file destination) : request.destination root = destination := by
  unfold Request.destination
  generalize request.file = file at h
  cases h with
  | unnamed | dash => rfl
  | empty => rfl
  | path hdash hempty =>
    dsimp only
    rw [if_neg (by simpa using hdash), if_neg (by simpa using hempty)]

/-- What the disk says to the destination of a request; the streams are open anyway. -/
def Disk.opens {ε : Type} (disk : Disk ε) (request : Request) : Except ε Unit :=
  match request.destination disk.root with
  | .output | .errors => .ok ()
  | .file _ => disk.openFile request.file

namespace Registry

variable {ε : Type} {disk : Disk ε} {root : String} {registry next : Registry} {request : Request}
  {events : List Event} {name : String}

def destinationsOf (registry : Registry) (name : String) : List Destination :=
  (registry.handlersOf name).filterMap Handler.destination?

lemma handlersOf_addHandler (registry : Registry) (name : String) (handler : Handler)
    (other : String) : (registry.addHandler name handler).handlersOf other =
      registry.handlersOf other ++ if name = other then [handler] else [] := by
  unfold handlersOf addHandler
  rw [List.filter_append, List.map_append]
  by_cases h : name = other <;> simp [h]

@[simp] lemma handlersOf_threshold (registry : Registry) (level : Level) (name : String) :
    { registry with threshold := level }.handlersOf name = registry.handlersOf name := rfl

lemma destinationsOf_addHandler (registry : Registry) (name : String) (handler : Handler)
    (other : String) : (registry.addHandler name handler).destinationsOf other =
      registry.destinationsOf other ++
        if name = other then handler.destination?.toList else [] := by
  unfold destinationsOf
  rw [handlersOf_addHandler, List.filterMap_append]
  by_cases h : name = other
  · cases handler <;> simp [h, Handler.destination?]
  · simp [h]

lemma silentCount_addHandler (registry : Registry) (name : String) (handler : Handler)
    (other : String) : (registry.addHandler name handler).silentCount other =
      registry.silentCount other + if name = other then [handler].count .silent else 0 := by
  unfold silentCount
  rw [handlersOf_addHandler, List.count_append]
  by_cases h : name = other <;> simp [h]

/-! ### Making a logger -/

/-- How a logger is made, the registry that this leaves and what happens outside. -/
inductive Makes (registry : Registry) (root : String) (request : Request) :
    Registry → List Event → Prop
  /-- The root has a handler; the destination of the request is not even looked at. -/
  | joined (henabled : request.enabled = true) (hroot : registry.handlersOf rootName ≠ []) :
      Makes registry root request registry []
  | configured {destination : Destination} (henabled : request.enabled = true)
      (hroot : registry.handlersOf rootName = [])
      (hnames : Names root request.file destination) :
      Makes registry root request
        { registry.addHandler rootName (.writer destination) with threshold := .debug }
        destination.opened
  | silent (henabled : request.enabled = false)
      (hsilent : .silent ∈ registry.handlersOf (properName request.name)) :
      Makes registry root request registry []
  | silenced (henabled : request.enabled = false)
      (hsilent : .silent ∉ registry.handlersOf (properName request.name)) :
      Makes registry root request (registry.addHandler (properName request.name) .silent) []

lemma configure_of_ne_nil (hroot : registry.handlersOf rootName ≠ []) (request : Request)
    (disk : Disk ε) : registry.configure request disk = .ok (registry, []) := by
  unfold configure
  rw [List.isEmpty_eq_false_iff.mpr hroot]
  rfl

lemma configure_of_eq_nil (hroot : registry.handlersOf rootName = []) (request : Request)
    (disk : Disk ε) : registry.configure request disk =
      (disk.opens request).map fun _ =>
        ({ registry.addHandler rootName (.writer (request.destination disk.root)) with
            threshold := .debug },
          (request.destination disk.root).opened) := by
  unfold configure Disk.opens
  rw [hroot]
  cases request.destination disk.root <;> rfl

lemma makes_of_configure (henabled : request.enabled = true)
    (h : registry.configure request disk = .ok (next, events)) :
    Makes registry disk.root request next events := by
  by_cases hroot : registry.handlersOf rootName = []
  · rw [configure_of_eq_nil hroot] at h
    cases hopens : disk.opens request with
    | error error =>
      rw [hopens] at h
      cases h
    | ok _ =>
      rw [hopens] at h
      cases h
      exact .configured henabled hroot (request.names_destination disk.root)
  · rw [configure_of_ne_nil hroot] at h
    cases h
    exact .joined henabled hroot

/-- What the disk says to an enabled request before the root is looked at. -/
def directoryMade (disk : Disk ε) (request : Request) : Except ε Unit :=
  if request.file.isNone then disk.makeDirectory else .ok ()

lemma make_of_enabled (henabled : request.enabled = true) (registry : Registry) (disk : Disk ε) :
    registry.make request disk = (directoryMade disk request).bind fun _ =>
      (registry.configure request disk).map (properName request.name, ·) := by
  unfold make directoryMade
  rw [if_pos henabled]
  split_ifs
  · cases disk.makeDirectory <;> cases registry.configure request disk <;> rfl
  · cases registry.configure request disk <;> rfl

theorem makes_of_make (h : registry.make request disk = .ok (name, next, events)) :
    name = properName request.name ∧ Makes registry disk.root request next events := by
  cases henabled : request.enabled with
  | true =>
    rw [make_of_enabled henabled] at h
    cases hmade : directoryMade disk request with
    | error error =>
      rw [hmade] at h
      cases h
    | ok _ =>
      cases hconfigure : registry.configure request disk with
      | error error =>
        rw [hmade, hconfigure] at h
        cases h
      | ok made =>
        rw [hmade, hconfigure] at h
        cases h
        exact ⟨rfl, makes_of_configure henabled hconfigure⟩
  | false =>
    simp only [make, henabled, Bool.false_eq_true, if_false] at h
    split at h
    next hsilent =>
      cases h
      exact ⟨rfl, .silent henabled (List.contains_iff_mem.mp hsilent)⟩
    next hsilent =>
      cases h
      exact ⟨rfl, .silenced henabled fun hmem => hsilent (List.contains_iff_mem.mpr hmem)⟩

/-- A request succeeds unless it is an enabled one and the disk refuses the directory of the default
log file, or the log file when the root has to be set up. -/
theorem exists_make_iff : (∃ made, registry.make request disk = .ok made) ↔
    (request.enabled = true → (request.file = none → disk.makeDirectory = .ok ()) ∧
      (registry.handlersOf rootName = [] → ∀ path, Names disk.root request.file (.file path) →
        disk.openFile request.file = .ok ())) := by
  cases henabled : request.enabled with
  | false =>
    have hmade : ∃ made, registry.make request disk = .ok made := by
      simp only [make, henabled, Bool.false_eq_true, if_false]
      split <;> exact ⟨_, rfl⟩
    simp [hmade]
  | true =>
    have hopens : disk.opens request = .ok () ↔ ∀ path,
        Names disk.root request.file (.file path) → disk.openFile request.file = .ok () := by
      have hnames := request.names_destination disk.root
      unfold Disk.opens
      cases hdestination : request.destination disk.root with
      | file path => exact ⟨fun h _ _ => h, fun h => h path (hdestination ▸ hnames)⟩
      | output | errors =>
        refine ⟨fun _ path hpath => ?_, fun _ => rfl⟩
        rw [hpath.destination_eq] at hdestination
        cases hdestination
    have hconfigure : (∃ made, registry.configure request disk = .ok made) ↔
        (registry.handlersOf rootName = [] → disk.opens request = .ok ()) := by
      by_cases hroot : registry.handlersOf rootName = []
      · rw [configure_of_eq_nil hroot]
        cases disk.opens request <;> simp [hroot, Except.map]
      · simp [configure_of_ne_nil hroot, hroot]
    have hmade : directoryMade disk request = .ok () ↔
        (request.file = none → disk.makeDirectory = .ok ()) := by
      unfold directoryMade
      cases request.file <;> simp
    rw [← hopens, ← hconfigure, ← hmade, make_of_enabled henabled]
    cases directoryMade disk request with
    | error error => simp [Except.bind]
    | ok _ => cases registry.configure request disk <;> simp [Except.bind, Except.map]

/-- A logger has one silent handler from the first request on that asks for one. -/
lemma Makes.silentCount_eq (h : Makes registry root request next events)
    (hle : registry.silentCount name ≤ 1) : next.silentCount name =
      if request.silences name then 1 else registry.silentCount name := by
  have hpos (hmem : .silent ∈ registry.handlersOf name) : registry.silentCount name = 1 :=
    Nat.le_antisymm hle (List.count_pos_iff.mpr hmem)
  have hzero (hmem : .silent ∉ registry.handlersOf name) : registry.silentCount name = 0 :=
    List.count_eq_zero.mpr hmem
  cases h with
  | joined henabled => simp [Request.silences, henabled]
  | configured henabled =>
    simp only [Request.silences, henabled]
    exact (silentCount_addHandler ..).trans (by simp)
  | silent henabled hsilent =>
    by_cases hname : properName request.name = name
    · subst hname
      simp [hpos hsilent]
    · simp [Request.silences, hname]
  | silenced henabled hsilent =>
    rw [silentCount_addHandler]
    by_cases hname : properName request.name = name
    · subst hname
      simp [Request.silences, henabled, hzero hsilent]
    · simp [Request.silences, hname]

/-! ### Reporting -/

/-- The destinations that a report to a logger reaches. -/
def reachedDestinations (registry : Registry) (name : String) : List Destination :=
  (registry.reached name).filterMap Handler.destination?

lemma reachedDestinations_eq (registry : Registry) (name : String) :
    registry.reachedDestinations name = if name = rootName then registry.destinationsOf rootName
      else registry.destinationsOf name ++ registry.destinationsOf rootName := by
  unfold reachedDestinations reached destinationsOf
  by_cases h : name = rootName <;> simp [h]

/-- A report that reaches a handler is written to each destination that it reaches, and not to the
standard error stream instead. -/
theorem report_eq (hreached : registry.reached name ≠ [])
    (hthreshold : registry.reachedDestinations name ≠ [] → registry.threshold = .debug)
    (stamp : String) (content : Report) (traced : Bool) :
    registry.report stamp name content traced = (registry.reachedDestinations name).map fun place =>
      .wrote place (line stamp name content traced) := by
  have hwritten : (registry.reachedDestinations name).map (fun place =>
        Event.wrote place (line stamp name content traced)) =
      (registry.reached name).filterMap fun handler =>
        match handler with
        | .silent => none
        | .writer place => some (.wrote place (line stamp name content traced)) := by
    unfold reachedDestinations
    rw [List.map_filterMap]
    congr 1
    funext handler
    cases handler <;> rfl
  unfold report
  split
  next hbelow =>
    by_cases hnone : registry.reachedDestinations name = []
    · rw [hnone, List.map_nil]
    · rw [hthreshold hnone] at hbelow
      cases hlevel : content.level <;> simp [hlevel, Level.rank] at hbelow
  next =>
    split
    next hnil => exact absurd hnil hreached
    next => exact hwritten.symm

end Registry

/-! ### Settled registries -/

section Settled

variable {root : String} {registry next : Registry} {outlet : Option Destination}
  {request : Request} {events : List Event} {name : String}

/-- The root has a handler and reports to any logger go to the outlet only, or nowhere. -/
structure Settled (registry : Registry) (outlet : Option Destination) : Prop where
  handlersOf_root : registry.handlersOf rootName ≠ []
  destinationsOf_root : registry.destinationsOf rootName = outlet.toList
  destinationsOf_of_ne : ∀ {name : String}, name ≠ rootName → registry.destinationsOf name = []
  threshold_eq : outlet ≠ none → registry.threshold = .debug

namespace Settled

lemma reachedDestinations_eq (h : Settled registry outlet) (name : String) :
    registry.reachedDestinations name = outlet.toList := by
  rw [Registry.reachedDestinations_eq, h.destinationsOf_root]
  split
  · rfl
  next hname => rw [h.destinationsOf_of_ne hname, List.nil_append]

lemma reached_ne_nil (h : Settled registry outlet) (name : String) :
    registry.reached name ≠ [] := by
  unfold Registry.reached
  split
  · exact h.handlersOf_root
  · exact List.append_ne_nil_of_right_ne_nil _ h.handlersOf_root

theorem report_eq (h : Settled registry outlet) (stamp name : String) (content : Report)
    (traced : Bool) : registry.report stamp name content traced =
      outlet.toList.map fun place => .wrote place (Registry.line stamp name content traced) := by
  rw [Registry.report_eq (h.reached_ne_nil name), h.reachedDestinations_eq]
  intro hreached
  rw [h.reachedDestinations_eq] at hreached
  apply h.threshold_eq
  rintro rfl
  exact hreached rfl

lemma addHandler_silent (h : Settled registry outlet) (name : String) :
    Settled (registry.addHandler name .silent) outlet where
  handlersOf_root := by
    rw [Registry.handlersOf_addHandler]
    exact List.append_ne_nil_of_left_ne_nil h.handlersOf_root _
  destinationsOf_root := by
    rw [Registry.destinationsOf_addHandler, h.destinationsOf_root]
    simp [Handler.destination?]
  destinationsOf_of_ne hname := by
    rw [Registry.destinationsOf_addHandler, h.destinationsOf_of_ne hname]
    simp [Handler.destination?]
  threshold_eq := h.threshold_eq

theorem makes (h : Settled registry outlet) (hmakes : registry.Makes root request next events) :
    Settled next outlet ∧ events = [] := by
  cases hmakes with
  | joined | silent => exact ⟨h, rfl⟩
  | configured henabled hroot => exact absurd hroot h.handlersOf_root
  | silenced => exact ⟨h.addHandler_silent _, rfl⟩

end Settled

/-- The root has no handler, nothing writes, and each of the loggers has a handler. -/
structure Unsettled (registry : Registry) (loggers : List String) : Prop where
  handlersOf_root : registry.handlersOf rootName = []
  destinationsOf_eq : ∀ name, registry.destinationsOf name = []
  handlersOf_of_mem : ∀ name ∈ loggers, registry.handlersOf name ≠ []

namespace Unsettled

variable {loggers : List String}

lemma empty : Unsettled {} [] where
  handlersOf_root := rfl
  destinationsOf_eq _ := rfl
  handlersOf_of_mem := by simp

/-- A report to one of the loggers is not written, neither to the standard error stream. -/
theorem report_eq (h : Unsettled registry loggers) (hname : name ∈ loggers) (stamp : String)
    (content : Report) (traced : Bool) : registry.report stamp name content traced = [] := by
  have hhandlers := h.handlersOf_of_mem name hname
  have hne : name ≠ rootName := by
    rintro rfl
    exact hhandlers h.handlersOf_root
  have hdestinations : registry.reachedDestinations name = [] := by
    rw [Registry.reachedDestinations_eq, if_neg hne, h.destinationsOf_eq, h.destinationsOf_eq,
      List.append_nil]
  have hreached : registry.reached name ≠ [] := by
    simp [Registry.reached, hne, hhandlers]
  rw [Registry.report_eq hreached (absurd hdestinations), hdestinations, List.map_nil]

/-- A request that is not decisive is disabled and does not name the root. -/
theorem makes (h : Unsettled registry loggers) (hmakes : registry.Makes root request next events)
    (hrequest : ¬ request.IsDecisive) :
    Unsettled next (loggers ++ [properName request.name]) ∧ events = [] := by
  obtain ⟨hdisabled, hname⟩ := not_or.mp hrequest
  have hmem {registry : Registry} (hold : ∀ name ∈ loggers, registry.handlersOf name ≠ [])
      (hnew : .silent ∈ registry.handlersOf (properName request.name)) :
      ∀ name ∈ loggers ++ [properName request.name], registry.handlersOf name ≠ [] := by
    intro name hmem
    obtain hmem | hmem := List.mem_append.mp hmem
    · exact hold name hmem
    · rw [List.mem_singleton.mp hmem]
      exact List.ne_nil_of_mem hnew
  cases hmakes with
  | joined henabled | configured henabled => exact absurd henabled hdisabled
  | silent henabled hsilent =>
    exact ⟨⟨h.handlersOf_root, h.destinationsOf_eq, hmem h.handlersOf_of_mem hsilent⟩, rfl⟩
  | silenced =>
    refine ⟨⟨?_, fun name => ?_, hmem (fun name hname => ?_) ?_⟩, rfl⟩
    · rw [Registry.handlersOf_addHandler, h.handlersOf_root, if_neg hname, List.append_nil]
    · rw [Registry.destinationsOf_addHandler, h.destinationsOf_eq]
      simp [Handler.destination?]
    · rw [Registry.handlersOf_addHandler]
      exact List.append_ne_nil_of_left_ne_nil (h.handlersOf_of_mem name hname) _
    · rw [Registry.handlersOf_addHandler]
      simp

/-- An enabled logger sends all reports to its own destination from now on. -/
theorem makes_enabled (h : Unsettled registry loggers)
    (hmakes : registry.Makes root request next events) (henabled : request.enabled = true) :
    ∃ destination, Names root request.file destination ∧ Settled next (some destination) ∧
      events = destination.opened := by
  cases hmakes with
  | joined _ hroot => exact absurd h.handlersOf_root hroot
  | configured _ hroot hnames =>
    refine ⟨_, hnames, ⟨?_, ?_, fun {name} hname => ?_, fun _ => rfl⟩, rfl⟩
    · rw [Registry.handlersOf_threshold, Registry.handlersOf_addHandler]
      simp
    · refine (Registry.destinationsOf_addHandler ..).trans ?_
      simp [h.destinationsOf_eq, Handler.destination?]
    · refine (Registry.destinationsOf_addHandler ..).trans ?_
      rw [h.destinationsOf_eq, if_neg hname.symm, List.append_nil]
  | silent hdisabled | silenced hdisabled =>
    rw [henabled] at hdisabled
    cases hdisabled

/-- A disabled root has a silent handler, so that it cannot be set up any more. -/
theorem makes_root (h : Unsettled registry loggers)
    (hmakes : registry.Makes root request next events) (hdisabled : request.enabled = false)
    (hname : properName request.name = rootName) : Settled next none ∧ events = [] := by
  cases hmakes with
  | joined henabled | configured henabled =>
    rw [hdisabled] at henabled
    cases henabled
  | silent _ hsilent =>
    rw [hname, h.handlersOf_root] at hsilent
    cases hsilent
  | silenced =>
    refine ⟨⟨?_, ?_, fun {name} _ => ?_, absurd rfl⟩, rfl⟩
    · rw [Registry.handlersOf_addHandler, hname]
      simp
    all_goals
      rw [Registry.destinationsOf_addHandler, h.destinationsOf_eq]
      simp [Handler.destination?]

end Unsettled

end Settled

end TintedText.Log
