import TintedText.CommandLine.Session
import TintedText.Proofs.Handling
import TintedText.Proofs.Outcome

/-!
# Transcripts of a session

Each pattern that is delivered gets one reply, a printed line or a complaint (`answer_eq`), and so
the replies of a session stand in the order of the patterns, none missing and none too many
(`replies_converse`). What a reply writes is its line, or one report that goes where the log file
says (`report_of_start`). What ends a session has no say in what came before: an interrupt adds the
farewell to the acts of the session that ends for want of entries (`session_transcript`). A session
may also be held entry by entry, and nothing changes (`takeTurns_eq`).
-/
namespace TintedText

namespace CommandLine

variable {config : Config} {prompts : List Prompt.Asked}

/-- The reply to a pattern: its line, or a complaint that tells the pattern and the error. -/
inductive Replies (config : Config) (pattern : List Char) : Act → Prop
  | printed {styled : StyledText} (hformat : (Prompt.phrase config pattern).format = .ok styled) :
      Replies config pattern (.print styled)
  | complained {error : PatternError}
      (hformat : (Prompt.phrase config pattern).format = .error (.pattern error)) :
      Replies config pattern (.report sessionLogger (complaint pattern error))

/-- The act is a reply: a printed line, or an error report of the session. -/
def Act.isReply : Act → Bool
  | .print _ => true
  | .report logger content => logger == sessionLogger && content.level == .error
  | .farewell => false

/-- The patterns that prompts deliver, up to the first prompt that delivers none. -/
def delivered : List Prompt.Asked → List (List Char)
  | [] => []
  | asked :: rest =>
    match asked.delivery with
    | .pattern text => text :: delivered rest
    | .exhausted | .interrupted => []

/-- How the first prompt that delivers no pattern ends a session. -/
def endingOf : List Prompt.Asked → Ending
  | [] => .exhausted
  | asked :: rest =>
    match asked.delivery with
    | .pattern _ => endingOf rest
    | .exhausted => .exhausted
    | .interrupted => .interrupted

/-- A pattern is answered by a report of its formatting and one reply, without fail. -/
theorem answer_eq (config : Config) (pattern : List Char) : ∃ report reply,
    answer config pattern = ([.report sessionLogger report, reply], none) ∧
      report.level = .debug ∧ Replies config pattern reply := by
  obtain ⟨report, hbuild⟩ := (Prompt.phrase config pattern).exists_report
  have hlevel : report.level = .debug := Phrase.level_of_mem_reports (by rw [hbuild]; simp)
  cases hformat : (Prompt.phrase config pattern).format with
  | ok styled =>
    rw [hformat] at hbuild
    refine ⟨report, _, ?_, hlevel, .printed hformat⟩
    simp only [answer, hbuild, List.map_cons, List.map_nil, List.singleton_append]
  | error error =>
    obtain ⟨cause, rfl⟩ := Phrase.exists_pattern_error hformat
    rw [hformat] at hbuild
    refine ⟨report, _, ?_, hlevel, .complained hformat⟩
    simp only [answer, hbuild, List.map_cons, List.map_nil, List.singleton_append]

lemma Replies.isReply {pattern : List Char} {reply : Act} (h : Replies config pattern reply) :
    reply.isReply = true := by
  cases h <;> rfl

lemma filter_examined (reports : List Log.Report) :
    (reports.map (Act.report validatorLogger)).filter (·.isReply) = [] := by
  rw [List.filter_eq_nil_iff]
  intro act hact
  obtain ⟨report, -, rfl⟩ := List.mem_map.mp hact
  have hlogger : (validatorLogger == sessionLogger) = false := by decide
  simp [Act.isReply, hlogger]

/-- The replies of a session are those to the patterns that are delivered, in their order, and the
session ends as the prompts do. -/
theorem replies_converse (config : Config) (prompts : List Prompt.Asked) :
    List.Forall₂ (Replies config) (delivered prompts)
        ((converse config prompts).1.filter (·.isReply)) ∧
      (converse config prompts).2 = endingOf prompts := by
  induction prompts with
  | nil => exact ⟨.nil, rfl⟩
  | cons asked rest ih =>
    cases hdelivery : asked.delivery with
    | exhausted =>
      simp only [converse, delivered, endingOf, hdelivery, filter_examined]
      exact ⟨.nil, trivial⟩
    | interrupted =>
      simp only [converse, delivered, endingOf, hdelivery, List.filter_append, filter_examined]
      exact ⟨.nil, trivial⟩
    | pattern text =>
      obtain ⟨report, reply, hanswer, hlevel, hreply⟩ := answer_eq config text
      have hreport : (Act.report sessionLogger report).isReply = false := by
        simp [Act.isReply, hlevel]
      simp only [converse, delivered, endingOf, hdelivery, hanswer, List.filter_append,
        filter_examined, List.filter_cons, hreport, hreply.isReply]
      exact ⟨.cons hreply ih.1, ih.2⟩

lemma code_endingOf (prompts : List Prompt.Asked) : (endingOf prompts).code = 0 := by
  induction prompts with
  | nil => rfl
  | cons asked rest ih =>
    unfold endingOf
    split
    · exact ih
    · rfl
    · rfl

lemma converse_append {before rest : List Prompt.Asked}
    (h : ∀ asked ∈ before, ∃ text, asked.delivery = .pattern text) :
    converse config (before ++ rest) =
      ((converse config before).1 ++ (converse config rest).1, (converse config rest).2) := by
  induction before with
  | nil => rfl
  | cons asked before ih =>
    rw [List.forall_mem_cons] at h
    obtain ⟨⟨text, hdelivery⟩, hbefore⟩ := h
    obtain ⟨report, reply, hanswer, -⟩ := answer_eq config text
    simp only [List.cons_append, converse, hdelivery, hanswer, ih hbefore, List.append_assoc]

/-- An interrupt in place of the end of the entries adds the farewell, and nothing else changes. -/
lemma converse_interrupted {before : List Prompt.Asked} {last : Prompt.Asked}
    (h : ∀ asked ∈ before, ∃ text, asked.delivery = .pattern text)
    (hlast : last.delivery = .exhausted) :
    converse config (before ++ [{ last with delivery := .interrupted }]) =
      ((converse config (before ++ [last])).1 ++ [.farewell], .interrupted) := by
  simp only [converse_append h, converse, hlast, List.append_assoc]

end CommandLine

namespace Prompt

variable {config : Config} {validated : Bool}

/-- What is typed at the prompts, and nothing else. -/
def typedAll (texts : List (List Char)) : List Entry :=
  texts.map .typed

lemma ask_accepted {text : List Char} (h : (examine config text).verdict = .ok ())
    (rest : List Entry) : ask config true (.typed text :: rest) =
      ({ delivery := .pattern (Text.trim text), reports := (examine config text).reports },
        rest) := by
  simp only [ask, if_true, h]

lemma ask_refused {text : List Char} {refusal : Refusal}
    (h : (examine config text).verdict = .error refusal) (rest : List Entry) :
    ask config true (.typed text :: rest) =
      ((ask config true rest).1.afterRefusal ⟨text, refusal⟩ (examine config text).reports,
        (ask config true rest).2) := by
  simp only [ask, if_true, h]

/-- A prompt that is given texts delivers one of them and leaves the ones behind it, or refuses all
and then sees what comes next. -/
lemma ask_typedAll (texts : List (List Char)) (rest : List Entry) :
    (∃ asked text left, asked.delivery = .pattern text ∧ left.length < texts.length ∧
      ask config validated (typedAll texts) = (asked, typedAll left) ∧
      ask config validated (typedAll texts ++ .interrupt :: rest) =
        (asked, typedAll left ++ .interrupt :: rest)) ∨
    ∃ asked, asked.delivery = .exhausted ∧
      ask config validated (typedAll texts) = (asked, []) ∧
      ask config validated (typedAll texts ++ .interrupt :: rest) =
        ({ asked with delivery := .interrupted }, rest) := by
  induction texts with
  | nil => exact .inr ⟨_, rfl, rfl, rfl⟩
  | cons text texts ih =>
    cases validated with
    | false => exact .inl ⟨_, _, texts, rfl, Nat.lt_succ_self _, rfl, rfl⟩
    | true =>
      cases hverdict : (examine config text).verdict with
      | ok accepted =>
        have hask := ask_accepted hverdict
        exact .inl ⟨_, _, texts, by rfl, Nat.lt_succ_self _, hask _, hask _⟩
      | error refusal =>
        have hask := ask_refused hverdict
        obtain ⟨asked, pattern, left, hdelivery, hlt, halone, hbefore⟩ |
          ⟨asked, hdelivery, halone, hbefore⟩ := ih
        · refine .inl ⟨asked.afterRefusal ⟨text, refusal⟩ (examine config text).reports, pattern,
            left, hdelivery, hlt.trans (Nat.lt_succ_self _), ?_, ?_⟩
          · exact (hask (typedAll texts)).trans (by rw [halone])
          · exact (hask (typedAll texts ++ .interrupt :: rest)).trans (by rw [hbefore])
        · refine .inr ⟨asked.afterRefusal ⟨text, refusal⟩ (examine config text).reports,
            hdelivery, ?_, ?_⟩
          · exact (hask (typedAll texts)).trans (by rw [halone])
          · exact (hask (typedAll texts ++ .interrupt :: rest)).trans (by rw [hbefore]; rfl)

lemma askAll_eq (entries : List Entry) : askAll config validated entries =
    match (ask config validated entries).1.delivery with
    | .pattern _ => (ask config validated entries).1 ::
        askAll config validated (ask config validated entries).2
    | .exhausted | .interrupted => [(ask config validated entries).1] := by
  cases entries <;> exact askAll.eq_def ..

/-- A refused entry is told at the first of the prompts for the entries behind it. -/
lemma askAll_refused {text : List Char} {refusal : Refusal}
    (h : (examine config text).verdict = .error refusal) (rest : List Entry) :
    ∃ first others, askAll config true rest = first :: others ∧
      askAll config true (.typed text :: rest) =
        first.afterRefusal ⟨text, refusal⟩ (examine config text).reports :: others := by
  rw [askAll_eq, askAll_eq (.typed text :: rest), ask_refused h]
  cases hdelivery : (ask config true rest).1.delivery with
  | pattern text => exact ⟨_, _, rfl, by simp [Asked.afterRefusal, hdelivery]⟩
  | exhausted | interrupted => exact ⟨_, _, rfl, by simp [Asked.afterRefusal, hdelivery]⟩

/-- Prompts that are given texts deliver patterns until there are no more texts; an interrupt behind
the texts changes how the last prompt ends, and nothing else. -/
lemma askAll_typedAll (config : Config) (validated : Bool) (texts : List (List Char))
    (rest : List Entry) : ∃ before last,
    (∀ asked ∈ before, ∃ text, asked.delivery = .pattern text) ∧ last.delivery = .exhausted ∧
      askAll config validated (typedAll texts) = before ++ [last] ∧
      askAll config validated (typedAll texts ++ .interrupt :: rest) =
        before ++ [{ last with delivery := .interrupted }] := by
  induction hlength : texts.length using Nat.strong_induction_on generalizing texts with
  | _ length ih =>
    obtain ⟨asked, text, left, hdelivery, hlt, halone, hbefore⟩ |
      ⟨asked, hdelivery, halone, hbefore⟩ := ask_typedAll texts rest
    · obtain ⟨before, last, hall, hlast, hleft, hleft'⟩ := ih left.length (hlength ▸ hlt) left rfl
      refine ⟨asked :: before, last, List.forall_mem_cons.mpr ⟨⟨text, hdelivery⟩, hall⟩, hlast,
        ?_, ?_⟩
      · rw [askAll_eq, halone]
        simp only [hdelivery, hleft, List.cons_append]
      · rw [askAll_eq, hbefore]
        simp only [hdelivery, hleft', List.cons_append]
    · refine ⟨[], asked, by simp, hdelivery, ?_, ?_⟩
      · rw [askAll_eq, halone]
        simp only [hdelivery, List.nil_append]
      · rw [askAll_eq, hbefore]
        rfl

end Prompt

namespace CommandLine

/-! ### Entry by entry -/

/-- Take entry after entry, up to one that ends the session. -/
def takeTurns (config : Config) (validated : Bool) :
    List Prompt.Entry → List Prompt.Rejection × List Act × Ending
  | [] => ([], [], .exhausted)
  | entry :: rest =>
    let turn := turn config validated entry
    match turn.ending with
    | some ending => (turn.rejected, turn.acts, ending)
    | none =>
      let (rejected, acts, ending) := takeTurns config validated rest
      (turn.rejected ++ rejected, turn.acts ++ acts, ending)

/-- What the validator reports of a refused entry comes before the acts of its prompt. -/
lemma converse_afterRefusal (asked : Prompt.Asked) (rejection : Prompt.Rejection)
    (reports : List Log.Report) (rest : List Prompt.Asked) :
    converse config (asked.afterRefusal rejection reports :: rest) =
      (reports.map (.report validatorLogger) ++ (converse config (asked :: rest)).1,
        (converse config (asked :: rest)).2) := by
  cases hdelivery : asked.delivery with
  | exhausted | interrupted => simp [converse, Prompt.Asked.afterRefusal, hdelivery]
  | pattern text =>
    obtain ⟨report, reply, hanswer, -⟩ := answer_eq config text
    simp [converse, Prompt.Asked.afterRefusal, hdelivery, hanswer]

lemma turn_of_delivered {validated : Bool} {entry : Prompt.Entry} {asked : Prompt.Asked}
    {text : List Char} (hask : Prompt.ask config validated [entry] = (asked, []))
    (hdelivery : asked.delivery = .pattern text) (rest : List Prompt.Asked) :
    (turn config validated entry).rejected = asked.rejected ∧
      (turn config validated entry).ending = none ∧
      converse config (asked :: rest) =
        ((turn config validated entry).acts ++ (converse config rest).1,
          (converse config rest).2) := by
  obtain ⟨report, reply, hanswer, -⟩ := answer_eq config text
  simp [turn, hask, converse, hdelivery, hanswer, Ending.final?]

/-- A session that is held entry by entry is the one that is held prompt by prompt. -/
theorem takeTurns_eq (config : Config) (validated : Bool) (entries : List Prompt.Entry) :
    takeTurns config validated entries =
      ((Prompt.askAll config validated entries).flatMap (·.rejected),
        converse config (Prompt.askAll config validated entries)) := by
  induction entries with
  | nil => simp [takeTurns, Prompt.askAll, converse]
  | cons entry rest ih =>
    have hdelivered : ∀ {asked : Prompt.Asked} {text : List Char},
        Prompt.ask config validated [entry] = (asked, []) →
        Prompt.ask config validated (entry :: rest) = (asked, rest) →
        asked.delivery = .pattern text →
        takeTurns config validated (entry :: rest) =
          ((Prompt.askAll config validated (entry :: rest)).flatMap (·.rejected),
            converse config (Prompt.askAll config validated (entry :: rest))) := by
      intro asked text halone hask hdelivery
      obtain ⟨hrejected, hending, hconverse⟩ := turn_of_delivered halone hdelivery
        (Prompt.askAll config validated rest)
      rw [Prompt.askAll_eq, hask]
      simp only [hdelivery, takeTurns, hending, ih, List.flatMap_cons, hrejected, hconverse]
    cases entry with
    | interrupt =>
      rw [Prompt.askAll_eq]
      simp [takeTurns, turn, Prompt.ask, converse, Ending.final?]
    | typed text =>
      cases validated with
      | false => exact hdelivered rfl rfl rfl
      | true =>
        cases hverdict : (Prompt.examine config text).verdict with
        | ok accepted =>
          have hask := Prompt.ask_accepted hverdict
          exact hdelivered (hask []) (hask rest) rfl
        | error refusal =>
          have hask : Prompt.ask config true [.typed text] = _ := Prompt.ask_refused hverdict []
          have hturn : turn config true (.typed text) = ⟨[⟨text, refusal⟩],
              (Prompt.examine config text).reports.map (.report validatorLogger) ++ [], none⟩ := by
            simp only [turn, hask, converse_afterRefusal]
            rfl
          obtain ⟨first, others, hrest, hall⟩ := Prompt.askAll_refused hverdict rest
          simp only [takeTurns, hturn, ih, hrest, hall, converse_afterRefusal, List.flatMap_cons,
            List.append_nil]
          rfl

/-! ### What a session writes -/

variable {ε : Type} {system : System ε} {arguments : List (List Char)} {registry : Log.Registry}
  {events : List Log.Event}

/-- A session is opened when its options can be read and its logger can be made. -/
lemma exists_make_of_start (h : start system arguments = .session config registry events) :
    ∃ options, parse arguments = .ok options ∧ ∃ name rest,
      initialRegistry.make ⟨sessionLogger, options.logging, options.logFile⟩ system.disk =
        .ok (name, registry, rest) := by
  unfold start at h
  split at h
  · cases h
  · cases h
  next options hparse =>
    split at h
    · cases h
    next name made rest hmake =>
      split at h
      · split at h <;> cases h
      · cases h
        exact ⟨options, hparse, name, rest, hmake⟩

/-- What a session and its validator report is written once to the destination that the log file
names, if there is to be logging, and else nowhere. -/
theorem report_of_start (h : start system arguments = .session config registry events) :
    ∃ options, parse arguments = .ok options ∧ ∃ outlet : Option Log.Destination,
      (if options.logging then ∃ destination, outlet = some destination ∧
          Log.Names system.disk.root options.logFile destination
        else outlet = none) ∧
      ∀ logger ∈ [validatorLogger, sessionLogger], ∀ stamp content,
        registry.report stamp logger content false = outlet.toList.map fun place =>
          .wrote place (Log.Registry.line stamp logger content false) := by
  obtain ⟨options, hparse, name, rest, hmake⟩ := exists_make_of_start h
  obtain ⟨-, hmakes⟩ := Log.Registry.makes_of_make hmake
  have hordinary : ∀ logger ∈ [validatorLogger, sessionLogger],
      Log.properName logger ≠ Log.rootName := by
    decide
  have hinitial : Log.Unsettled initialRegistry [validatorLogger] := by
    have hmakes : Log.Registry.Makes {} "" ⟨validatorLogger, false, none⟩ initialRegistry [] :=
      .silenced rfl (by decide)
    exact (Log.Unsettled.empty.makes hmakes (by
      simpa [Log.Request.IsDecisive] using hordinary validatorLogger (by simp))).1
  refine ⟨options, hparse, ?_⟩
  cases hlogging : options.logging with
  | true =>
    obtain ⟨destination, hnames, hsettled, -⟩ := hinitial.makes_enabled hmakes hlogging
    exact ⟨some destination, by simpa using hnames,
      fun logger _ stamp content => hsettled.report_eq stamp logger content false⟩
  | false =>
    obtain ⟨hunsettled, -⟩ := hinitial.makes hmakes (by
      simpa [Log.Request.IsDecisive, hlogging] using hordinary sessionLogger (by simp))
    exact ⟨none, rfl,
      fun logger hlogger stamp content => hunsettled.report_eq hlogger stamp content false⟩

/-- In every session:
* the replies are those to the patterns that were delivered, in their order: the printed line of
  each one that can be formatted, and a complaint with the pattern and the error for each other one;
* no failure ends the session, but the first prompt without a pattern does;
* an interrupt in place of the end of the entries, or between them, adds a farewell to what was
  printed and reported before, of which nothing changes;
* a printed line is written to the output, a complaint as one line to where the session's logger
  writes, if anywhere;
* and so the program exits with code zero, having carried out all acts of the session, which are the
  same when it is held entry by entry. -/
theorem session_transcript (config : Config) :
    (∀ prompts, List.Forall₂ (Replies config) (delivered prompts)
        ((converse config prompts).1.filter (·.isReply)) ∧
      (converse config prompts).2 = endingOf prompts) ∧
    (∀ before last, (∀ asked ∈ before, ∃ text, asked.delivery = Prompt.Delivery.pattern text) →
      last.delivery = Prompt.Delivery.exhausted →
        converse config (before ++ [{ last with delivery := .interrupted }]) =
          ((converse config (before ++ [last])).1 ++ [.farewell], .interrupted)) ∧
    (∀ validated texts rest,
      let session := converse config (Prompt.askAll config validated (Prompt.typedAll texts))
      session.2 = .exhausted ∧
        converse config (Prompt.askAll config validated
            (Prompt.typedAll texts ++ .interrupt :: rest)) =
          (session.1 ++ [.farewell], .interrupted)) ∧
    ∀ {ε : Type} (system : System ε) arguments registry events,
      start system arguments = .session config registry events →
      (∃ outlet : Option Log.Destination, ∀ stamp,
        (∀ styled, (Act.print styled).events system.console registry stamp =
          [.wrote .output (String.ofList (Ansi.ofStyled styled system.console ++ ['\n']))]) ∧
        ∀ pattern error,
          (Act.report sessionLogger (complaint pattern error)).events system.console registry
              stamp =
            outlet.toList.map fun place => .wrote place (Log.Registry.line stamp sessionLogger
              ⟨.error, "Could not format " ++ Text.quoted pattern ++ ": " ++ error.message⟩
              false)) ∧
      ∀ stamp validated entries, ∃ run,
        runOn system stamp arguments validated entries = .ok run ∧
        run.code = 0 ∧ run.events = events ++
          (converse config (Prompt.askAll config validated entries)).1.flatMap
            (Act.events system.console registry stamp) ∧
        takeTurns config validated entries =
          (run.rejected, converse config (Prompt.askAll config validated entries)) := by
  refine ⟨replies_converse config, fun before last => converse_interrupted,
    fun validated texts rest => ?_,
    fun system arguments registry events hstart => ⟨?_, fun stamp validated entries => ?_⟩⟩
  · obtain ⟨before, last, hall, hlast, halone, hbefore⟩ :=
      Prompt.askAll_typedAll config validated texts rest
    rw [halone, hbefore]
    refine ⟨?_, converse_interrupted hall hlast⟩
    rw [converse_append hall]
    simp only [converse, hlast]
  · obtain ⟨options, -, outlet, -, hreport⟩ := report_of_start hstart
    exact ⟨outlet, fun stamp => ⟨fun styled => rfl, fun pattern error =>
      hreport sessionLogger (by simp) stamp (complaint pattern error)⟩⟩
  · refine ⟨_, by rw [runOn, hstart], ?_, rfl, takeTurns_eq config validated entries⟩
    rw [(replies_converse config _).2, code_endingOf]

/-- A session of a pattern that cannot be formatted and one that can, which is interrupted. -/
theorem session_transcript_interrupted :
    let config : Config := { separator := .pair '<' '>' }
    let system : System Empty := ⟨⟨"", .ok (), fun _ => .ok ()⟩, .wide⟩
    let before : List Prompt.Asked :=
      [{ delivery := .pattern ['<'] }, { delivery := .pattern ['a'] }]
    ∃ complaint line registry events run,
      (converse config before).1.filter (·.isReply) = [complaint, line] ∧
      Replies config ['<'] complaint ∧ Replies config ['a'] line ∧
      converse config (before ++ [{ delivery := .interrupted }]) =
        ((converse config (before ++ [{ delivery := .exhausted }])).1 ++ [.farewell],
          .interrupted) ∧
      start system [] = .session config registry events ∧
      runOn system "now" [] true [.typed ['<'], .interrupt] = .ok run ∧ run.code = 0 := by
  intro config system before
  have hstart : ∃ registry events, start system [] = .session config registry events :=
    ⟨_, _, rfl⟩
  obtain ⟨registry, events, hstart⟩ := hstart
  obtain ⟨hreplies, hinterrupted, -, hsession⟩ := session_transcript config
  obtain ⟨-, hrun⟩ := hsession system [] registry events hstart
  obtain ⟨run, hok, hcode, -⟩ := hrun "now" true [.typed ['<'], .interrupt]
  have hdelivers : ∀ asked ∈ before, ∃ text, asked.delivery = Prompt.Delivery.pattern text := by
    simp [before]
  obtain ⟨replies, heq, hall⟩ : ∃ replies, (converse config before).1.filter (·.isReply) = replies ∧
      List.Forall₂ (Replies config) [['<'], ['a']] replies := ⟨_, rfl, (hreplies before).1⟩
  obtain _ | ⟨hcomplaint, _ | ⟨hline, _ | _⟩⟩ := hall
  exact ⟨_, _, registry, events, run, heq, hcomplaint, hline,
    hinterrupted before { delivery := .exhausted } hdelivers rfl, hstart, hok, hcode⟩

end CommandLine

end TintedText
