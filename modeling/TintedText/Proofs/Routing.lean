import TintedText.Proofs.Handling

/-!
# Where reports go

In a run of a logbook the disk may answer differently at each step. The run is told by its deeds,
the steps that succeed (`runs_afterAll`). Up to the first decisive request the logbook is unsettled
and nothing happens outside; from there on it is settled, and each report is written once to the
destination that this request names, if it was an enabled one (`events_of_decisive`).
-/
namespace TintedText.Log

/-- A step that succeeds: a logger is made by a program that is installed below `root`, or there is
a report to one that was made. -/
inductive Deed where
  | made (root : String) (request : Request)
  | reported (stamp name : String) (content : Report) (traced : Bool)
  deriving DecidableEq, Repr

namespace Deed

/-- The deed settles where reports go. -/
def IsDecisive : Deed → Prop
  | made _ request => request.IsDecisive
  | reported .. => False

/-- The deed gives a logger a silent handler, unless it has one. -/
def silences (name : String) : Deed → Bool
  | made _ request => request.silences name
  | reported .. => false

/-- What a deed writes when all reports go to one outlet, or nowhere. -/
def written (outlet : Option Destination) : Deed → List Event
  | made .. => []
  | reported stamp name content traced =>
    outlet.toList.map fun place => .wrote place (Registry.line stamp name content traced)

@[simp] lemma written_none (deed : Deed) : deed.written none = [] := by
  cases deed <;> rfl

end Deed

namespace Logbook

/-- A step as it is tried: its time and what the disk says to it. -/
structure Attempt (ε : Type) where
  stamp : String
  disk : Disk ε
  step : Step

variable {ε : Type} {logbook next last : Logbook} {deed : Deed} {history before later : List Deed}
  {root : String} {request : Request} {outlet : Option Destination} {name : String}

def after (logbook : Logbook) (attempt : Attempt ε) : Logbook :=
  (logbook.performOn attempt.disk attempt.stamp attempt.step).2

/-- The deed that an attempt is, if it succeeds. -/
def deed? (logbook : Logbook) (attempt : Attempt ε) : Option Deed :=
  match attempt.step with
  | .make request =>
    match logbook.registry.make request attempt.disk with
    | .ok _ => some (.made attempt.disk.root request)
    | .error _ => none
  | .report number content traced =>
    logbook.loggers[number]?.map (.reported attempt.stamp · content traced)

def afterAll (logbook : Logbook) (attempts : List (Attempt ε)) : Logbook :=
  attempts.foldl after logbook

def deeds (logbook : Logbook) : List (Attempt ε) → List Deed
  | [] => []
  | attempt :: attempts =>
    (logbook.deed? attempt).toList ++ (logbook.after attempt).deeds attempts

/-! ### Deeds -/

/-- What a deed makes of a logbook. -/
inductive Does (logbook : Logbook) : Deed → Logbook → Prop
  | made {root : String} {request : Request} {registry : Registry} {events : List Event}
      (hmakes : logbook.registry.Makes root request registry events) :
      Does logbook (.made root request)
        ⟨registry, logbook.loggers ++ [properName request.name], logbook.events ++ events⟩
  | reported {name : String} (hname : name ∈ logbook.loggers) (stamp : String) (content : Report)
      (traced : Bool) :
      Does logbook (.reported stamp name content traced)
        { logbook with
          events := logbook.events ++ logbook.registry.report stamp name content traced }

/-- An attempt does its deed, or it fails and leaves the logbook as it was. -/
theorem after_cases (logbook : Logbook) (attempt : Attempt ε) :
    (logbook.deed? attempt = none ∧ logbook.after attempt = logbook ∧
      ∃ error, (logbook.performOn attempt.disk attempt.stamp attempt.step).1 = .error error) ∨
    ∃ deed, logbook.deed? attempt = some deed ∧ Does logbook deed (logbook.after attempt) ∧
      ∃ answer, (logbook.performOn attempt.disk attempt.stamp attempt.step).1 = .ok answer := by
  obtain ⟨stamp, disk, step⟩ := attempt
  cases step with
  | make request =>
    cases hmake : logbook.registry.make request disk with
    | error error => simp [deed?, after, performOn, hmake]
    | ok made =>
      obtain ⟨name, registry, events⟩ := made
      obtain ⟨rfl, hmakes⟩ := Registry.makes_of_make hmake
      simp only [deed?, after, performOn, hmake]
      exact .inr ⟨_, rfl, .made hmakes, _, rfl⟩
  | report number content traced =>
    cases hname : logbook.loggers[number]? with
    | none => simp [deed?, after, performOn, hname]
    | some name =>
      simp only [deed?, after, performOn, hname]
      exact .inr ⟨_, rfl, .reported (List.mem_of_getElem? hname) stamp content traced, _, rfl⟩

/-- The deeds are exactly the attempts that succeed. -/
theorem deed?_eq_none_iff (logbook : Logbook) (attempt : Attempt ε) :
    logbook.deed? attempt = none ↔
      ∃ error, (logbook.performOn attempt.disk attempt.stamp attempt.step).1 = .error error := by
  obtain ⟨hdeed, -, herror⟩ | ⟨deed, hdeed, -, answer, hanswer⟩ := after_cases logbook attempt
  · simp [hdeed, herror]
  · simp [hdeed, hanswer]

/-- What a run of deeds makes of a logbook. -/
inductive Runs : Logbook → List Deed → Logbook → Prop
  | nil {logbook : Logbook} : Runs logbook [] logbook
  | cons {logbook next last : Logbook} {deed : Deed} {history : List Deed}
      (hdoes : Does logbook deed next) (hruns : Runs next history last) :
      Runs logbook (deed :: history) last

theorem runs_afterAll (logbook : Logbook) (attempts : List (Attempt ε)) :
    Runs logbook (logbook.deeds attempts) (logbook.afterAll attempts) := by
  induction attempts generalizing logbook with
  | nil => exact .nil
  | cons attempt attempts ih =>
    rw [afterAll, List.foldl_cons, deeds]
    obtain ⟨hdeed, hafter, -⟩ | ⟨deed, hdeed, hdoes, -⟩ := after_cases logbook attempt
    · rw [hdeed, hafter]
      exact ih logbook
    · rw [hdeed]
      exact .cons hdoes (ih _)

lemma Runs.exists_between (h : Runs logbook (before ++ later) last) :
    ∃ middle, Runs logbook before middle ∧ Runs middle later last := by
  induction before generalizing logbook with
  | nil => exact ⟨logbook, .nil, h⟩
  | cons deed before ih =>
    obtain _ | ⟨hdoes, hruns⟩ := h
    obtain ⟨middle, hbefore, hlater⟩ := ih hruns
    exact ⟨middle, .cons hdoes hbefore, hlater⟩

/-! ### Silent handlers -/

lemma Does.silentCount_eq (h : Does logbook deed next)
    (hle : logbook.registry.silentCount name ≤ 1) : next.registry.silentCount name =
      if deed.silences name then 1 else logbook.registry.silentCount name := by
  cases h with
  | made hmakes => exact hmakes.silentCount_eq hle
  | reported => rfl

theorem Runs.silentCount_eq (h : Runs logbook history last)
    (hle : logbook.registry.silentCount name ≤ 1) : last.registry.silentCount name =
      if history.any (·.silences name) then 1 else logbook.registry.silentCount name := by
  induction h with
  | nil => rfl
  | @cons logbook next last deed history hdoes hruns ih =>
    have hnext := hdoes.silentCount_eq hle
    rw [ih (by rw [hnext]; split <;> omega), hnext, List.any_cons]
    cases deed.silences name <;> simp

/-! ### Unsettled and settled logbooks -/

lemma Does.settled (h : Does logbook deed next) (hsettled : Settled logbook.registry outlet) :
    Settled next.registry outlet ∧ next.events = logbook.events ++ deed.written outlet := by
  cases h with
  | made hmakes =>
    obtain ⟨hnext, rfl⟩ := hsettled.makes hmakes
    exact ⟨hnext, rfl⟩
  | reported hname stamp content traced =>
    exact ⟨hsettled, by rw [hsettled.report_eq]; rfl⟩

theorem Runs.settled (h : Runs logbook history last) (hsettled : Settled logbook.registry outlet) :
    last.events = logbook.events ++ history.flatMap (·.written outlet) := by
  induction h with
  | nil => simp
  | cons hdoes hruns ih =>
    obtain ⟨hnext, hevents⟩ := hdoes.settled hsettled
    rw [ih hnext, hevents, List.append_assoc, List.flatMap_cons]

lemma Does.unsettled (h : Does logbook deed next)
    (hunsettled : Unsettled logbook.registry logbook.loggers) (hdeed : ¬ deed.IsDecisive) :
    Unsettled next.registry next.loggers ∧ next.events = logbook.events := by
  cases h with
  | made hmakes =>
    obtain ⟨hnext, rfl⟩ := hunsettled.makes hmakes hdeed
    exact ⟨hnext, List.append_nil _⟩
  | reported hname stamp content traced =>
    exact ⟨hunsettled, by rw [hunsettled.report_eq hname, List.append_nil]⟩

/-- As long as no request is decisive nothing happens outside. -/
theorem Runs.unsettled (h : Runs logbook history last)
    (hunsettled : Unsettled logbook.registry logbook.loggers)
    (hhistory : ∀ deed ∈ history, ¬ deed.IsDecisive) :
    Unsettled last.registry last.loggers ∧ last.events = logbook.events := by
  induction h with
  | nil => exact ⟨hunsettled, rfl⟩
  | cons hdoes hruns ih =>
    obtain ⟨hdeed, hhistory⟩ := List.forall_mem_cons.mp hhistory
    obtain ⟨hnext, hevents⟩ := hdoes.unsettled hunsettled hdeed
    rw [← hevents]
    exact ih hnext hhistory

/-- After the first decisive request the destination that it names is opened and gets all later
reports, or nothing ever happens outside because the request disabled the root. -/
theorem Runs.decided (h : Runs logbook (before ++ .made root request :: later) last)
    (hunsettled : Unsettled logbook.registry logbook.loggers)
    (hbefore : ∀ deed ∈ before, ¬ deed.IsDecisive) (hrequest : request.IsDecisive) :
    if request.enabled then ∃ destination, Names root request.file destination ∧
      last.events =
        logbook.events ++ destination.opened ++ later.flatMap (·.written (some destination))
    else last.events = logbook.events := by
  obtain ⟨middle, hmiddle, hruns⟩ := h.exists_between
  obtain ⟨hunsettled, hevents⟩ := hmiddle.unsettled hunsettled hbefore
  obtain _ | ⟨hdoes, hlater⟩ := hruns
  obtain ⟨hmakes⟩ := hdoes
  rw [← hevents]
  split
  next henabled =>
    obtain ⟨destination, hnames, hsettled, rfl⟩ := hunsettled.makes_enabled hmakes henabled
    exact ⟨destination, hnames, hlater.settled hsettled⟩
  next hdisabled =>
    have hname := hrequest.resolve_left hdisabled
    rw [Bool.not_eq_true] at hdisabled
    obtain ⟨hsettled, rfl⟩ := hunsettled.makes_root hmakes hdisabled hname
    rw [hlater.settled hsettled]
    simp

/-! ### Runs from the start -/

/-- Where the reports of a run go, whatever the disk says to its steps. Nothing happens outside
before the first decisive request. If it is enabled, the destination that its log file names is
opened and gets the line of each later report, in order; if it disables the root, nothing ever
happens. A logger has one silent handler if it was ever made disabled, and none otherwise. -/
theorem events_of_decisive (attempts : List (Attempt ε)) :
    ((∀ deed ∈ deeds {} attempts, ¬ deed.IsDecisive) → (afterAll {} attempts).events = []) ∧
    (∀ before root request later, deeds {} attempts = before ++ .made root request :: later →
      (∀ deed ∈ before, ¬ deed.IsDecisive) → request.IsDecisive →
      if request.enabled then ∃ destination, Names root request.file destination ∧
        (afterAll {} attempts).events =
          destination.opened ++ later.flatMap (·.written (some destination))
      else (afterAll {} attempts).events = []) ∧
    ∀ name, (afterAll {} attempts).registry.silentCount name =
      if (deeds {} attempts).any (·.silences name) then 1 else 0 := by
  have hruns := runs_afterAll {} attempts
  refine ⟨fun hdeeds => (hruns.unsettled .empty hdeeds).2,
    fun before root request later hattempts hbefore hrequest => ?_,
    fun name => hruns.silentCount_eq (Nat.zero_le 1)⟩
  rw [hattempts] at hruns
  exact hruns.decided .empty hbefore hrequest

/-- A disabled logger, the loss of its report, an enabled one whose log file cannot be opened,
another one that decides, a disabled root, and an enabled logger that comes too late for the default
log file. -/
theorem events_of_decisive_file :
    let disk : Disk String :=
      ⟨"/app", .ok (), fun file => if file = some "/gone/x.log" then .error "gone" else .ok ()⟩
    let attempts : List (Attempt String) :=
      [⟨"9:00", disk, .make ⟨"demo", false, none⟩⟩,
        ⟨"9:01", disk, .report 0 ⟨.error, "lost"⟩ false⟩,
        ⟨"9:02", disk, .make ⟨"gone", true, some "/gone/x.log"⟩⟩,
        ⟨"9:03", disk, .make ⟨"app", true, some "app.log"⟩⟩,
        ⟨"9:04", disk, .make ⟨"", false, none⟩⟩,
        ⟨"9:05", disk, .report 0 ⟨.debug, "kept"⟩ false⟩,
        ⟨"9:06", disk, .make ⟨"late", true, none⟩⟩,
        ⟨"9:07", disk, .report 2 ⟨.info, "too"⟩ false⟩]
    let before : List Deed :=
      [.made "/app" ⟨"demo", false, none⟩, .reported "9:01" "demo" ⟨.error, "lost"⟩ false]
    let later : List Deed :=
      [.made "/app" ⟨"", false, none⟩, .reported "9:05" "demo" ⟨.debug, "kept"⟩ false,
        .made "/app" ⟨"late", true, none⟩, .reported "9:07" "root" ⟨.info, "too"⟩ false]
    deeds {} attempts = before ++ .made "/app" ⟨"app", true, some "app.log"⟩ :: later ∧
      (∀ deed ∈ before, ¬ deed.IsDecisive) ∧ (afterAll {} attempts).events =
        [.created "app.log", .wrote (.file "app.log") "9:05 - demo - DEBUG - kept\n",
          .wrote (.file "app.log") "9:07 - root - INFO - too\n"] ∧
      (afterAll {} attempts).registry.silentCount "root" = 1 := by
  intro disk attempts before later
  have hdeeds : deeds {} attempts =
      before ++ .made "/app" ⟨"app", true, some "app.log"⟩ :: later := by
    decide +kernel
  have hbefore : ∀ deed ∈ before, ¬ deed.IsDecisive := by
    simp [before, Deed.IsDecisive, Request.IsDecisive, properName, rootName]
  obtain ⟨-, hdecided, hsilent⟩ := events_of_decisive attempts
  obtain ⟨destination, hnames, hevents⟩ := hdecided before _ _ later hdeeds hbefore (.inl rfl)
  obtain rfl : Destination.file "app.log" = destination := hnames.destination_eq
  refine ⟨hdeeds, hbefore, hevents.trans (by decide +kernel), ?_⟩
  rw [hsilent]
  decide +kernel

end Logbook

end TintedText.Log
