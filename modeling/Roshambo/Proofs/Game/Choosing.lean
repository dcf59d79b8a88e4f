import Roshambo.Proofs.Game.Transcript

/-! # Choosing a move when anything may fail

However the reads, writes and flushes of a question go, the question takes line after line, and each
line that it leaves behind has been rejected and noted. It ends at the first line that settles the
choice, or with a fault before it comes to that line. `Asked` is an account of a whole question,
which tells as well what was printed and of how many rejected lines the player was told: of all, or
of all but the last one, and of all but the last one only if the writing of that complaint failed
(`readMove_asked`). Where that does not matter, `Course` says what the lines taken, the log and the
result have to do with each other (`readMove_course`).
-/

namespace Roshambo.Action

/-- Why a line with bytes in it picks no move, if it picks none. -/
def rejection? : Except Fault (List UInt8) → Option Rejection
  | .error _ => none
  | .ok line =>
    if line = [] then none
    else
      match Move.ofTyped (Text.decode line) with
      | .ok _ => none
      | .error rejection => some rejection

/-- What is noted of a number of lines that are rejected. -/
def rejections (script : Script) (count : Nat) : List LogEntry :=
  (List.range count).filterMap fun place => (rejection? (script.line place)).map .rejected

/-- What is noted of the line that settles the choice. -/
def settling : Except GameError Move → List LogEntry
  | .ok move => [.chosen move]
  | .error _ => []

theorem rejections_one (script : Script) :
    rejections script 1 = ((rejection? (script.line 0)).map .rejected).toList := by
  cases found : rejection? (script.line 0) <;> simp [rejections, List.range_succ, found]

theorem rejections_add (script : Script) (first second : Nat) :
    rejections script (first + second) =
      rejections script first ++ rejections (script.after first) second := by
  have later : (fun place => (rejection? (script.line place)).map LogEntry.rejected) ∘ (first + ·) =
      fun place => (rejection? ((script.after first).line place)).map .rejected := by
    funext place
    rw [Function.comp_apply, Script.line_add]
  rw [rejections, List.range_add, List.filterMap_append, List.filterMap_map, later]
  rfl

/-- Some lines were read and rejected, and nothing else was taken of the input or noted. -/
structure Rejected (before : Console) (count : Nat) (after : Console) : Prop where
  lines : ∀ place < count, verdict? (before.input.line place) = none
  input : after.input = before.input.after count
  log : after.log = before.log ++ rejections before.input count

private theorem rejected_zero {before after : Console} (input : after.input = before.input)
    (log : after.log = before.log) : Rejected before 0 after where
  lines place early := absurd early (Nat.not_lt_zero place)
  input := input
  log := by rw [log]; exact (List.append_nil _).symm

theorem Rejected.trans {before middle after : Console} {first second : Nat}
    (front : Rejected before first middle) (back : Rejected middle second after) :
    Rejected before (first + second) after where
  lines place early := by
    by_cases inFront : place < first
    · exact front.lines place inFront
    · have later := back.lines (place - first) (by omega)
      rwa [front.input, ← Script.line_add, Nat.add_sub_cancel' (Nat.le_of_not_lt inFront)] at later
  input := by rw [back.input, front.input, Script.after_add]
  log := by rw [back.log, front.log, front.input, List.append_assoc, rejections_add]

section Parts

variable (console : Console)

/-- How printing a text ends. -/
theorem print_cases (text : String) :
    print text console = (.ok (), { console with device := console.device.carried text 0 }) ∧
        (console.device.write (Text.encode text)).1 = .ok () ∨
      ∃ fault shown, print text console =
          (.error (.io fault), { console with device := console.device.take shown }) ∧
        (console.device.write (Text.encode text)).1 = .error fault ∧
        shown <+: Text.encode text ∧ shown ≠ Text.encode text := by
  rcases console.device.write_cases (Text.encode text) with
    whole | ⟨fault, shown, cut, isPrefix, isCut⟩
  · refine .inl ⟨?_, by rw [whole]⟩
    rw [print, whole]
    rfl
  · refine .inr ⟨fault, shown, ?_, by rw [cut], isPrefix, isCut⟩
    rw [print, cut]
    rfl

/-- How asking for a line ends: the prompt does not come through, or the next line is read. -/
theorem ask_cases (prompt : String) :
    (∃ fault device shown, ask prompt console = (.error (.io fault), { console with device }) ∧
        device.output = console.device.output ++ shown ∧ shown <+: Text.encode prompt) ∨
      ask prompt console = ((console.input.line 0).mapError .io,
        { console with
          device := console.device.carried prompt 1, input := console.input.after 1 }) := by
  rw [ask, bind_apply]
  rcases print_cases console prompt with ⟨printed, _⟩ | ⟨fault, shown, cut, _, isPrefix, _⟩
  · rw [printed]
    simp only [bind_apply, flush, Device.flush_eq]
    cases (console.device.carried prompt 0).flushResult with
    | ok => exact .inr rfl
    | error fault =>
      exact .inl ⟨fault, _, _, rfl, console.device.output_carried prompt 1, List.prefix_refl _⟩
  · rw [cut]
    exact .inl ⟨fault, _, shown, rfl, Device.output_take _ _, isPrefix⟩

end Parts

/-- What is printed for a number of lines that are rejected. -/
def exchanges (settings : Settings) (count : Nat) : String :=
  String.join (List.replicate count (settings.prompt ++ settings.complaint ++ "\n"))

private theorem dialogue_eq (settings : Settings) (count : Nat) :
    dialogue settings count = exchanges settings count ++ settings.prompt := rfl

theorem exchanges_succ (settings : Settings) (count : Nat) :
    exchanges settings (count + 1) =
      settings.prompt ++ settings.complaintLine ++ exchanges settings count := by
  have line : settings.prompt ++ settings.complaint ++ "\n" =
      settings.prompt ++ settings.complaintLine := String.append_assoc
  rw [exchanges, exchanges, List.replicate_succ, String.join_cons, line]

section Account

variable {settings : Settings}

/-- A line was asked for, read and rejected, and the player was told. -/
structure Exchanged (settings : Settings) (before after : Console) : Prop
    extends Rejected before 1 after where
  told : ((before.device.carried settings.prompt 1).write
    (Text.encode settings.complaintLine)).1 = .ok ()
  device : after.device = before.device.carried (settings.prompt ++ settings.complaintLine) 1

/-- How a single question ends: without the prompt, with a line that settles the choice, or with one
that is rejected, told of or not. -/
inductive Tried (settings : Settings) (before : Console) :
    Except GameError (Option Move) → Console → Prop
  | unasked {fault : Fault} {device : Device} {shown : List UInt8}
      (output : device.output = before.device.output ++ shown)
      (isPrefix : shown <+: Text.encode settings.prompt) :
      Tried settings before (.error (.io fault)) { before with device }
  | settled {verdict : Except GameError Move} {result : Except GameError (Option Move)}
      (settles : verdict? (before.input.line 0) = some verdict)
      (ends : result = verdict.map some) :
      Tried settings before result
        { device := before.device.carried settings.prompt 1
          input := before.input.after 1
          log := before.log ++ settling verdict }
  | told {after : Console} (exchanged : Exchanged settings before after) :
      Tried settings before (.ok none) after
  | untold {fault : Fault} {cut : List UInt8} {after : Console}
      (rejected : Rejected before 1 after)
      (failed : ((before.device.carried settings.prompt 1).write
        (Text.encode settings.complaintLine)).1 = .error fault)
      (device : after.device = (before.device.carried settings.prompt 1).take cut)
      (isPrefix : cut <+: Text.encode settings.complaintLine)
      (isCut : cut ≠ Text.encode settings.complaintLine) :
      Tried settings before (.error (.io fault)) after

/-- A line with bytes in it picks a move, or it is rejected before the player is told. -/
private theorem judge_tried {line : List UInt8} (nonempty : line ≠ []) {console : Console}
    (first : console.input.line 0 = .ok line) {asked : Console}
    (ask_eq : asked = { console with
      device := console.device.carried settings.prompt 1, input := console.input.after 1 }) :
    Tried settings console (judge settings line asked).1 (judge settings line asked).2 := by
  subst ask_eq
  cases typed : Move.ofTyped (Text.decode line) with
  | ok move =>
    have settles : verdict? (console.input.line 0) = some (.ok move) := by
      simp only [first, verdict?, if_neg nonempty, typed]
    simp only [judge, if_neg nonempty, typed]
    exact .settled settles rfl
  | error rejection =>
    have rejected {device : Device} : Rejected console 1 { console with
        device, input := console.input.after 1, log := console.log ++ [.rejected rejection] } := by
      refine ⟨?_, rfl, ?_⟩
      · intro place early
        simp only [Nat.lt_one_iff.mp early, first, verdict?, if_neg nonempty, typed]
      · simp only [rejections_one, first, rejection?, if_neg nonempty, typed, Option.map_some,
          Option.toList_some]
    simp only [judge, if_neg nonempty, typed, bind_apply, remark]
    rcases print_cases
        { device := console.device.carried settings.prompt 1
          input := console.input.after 1
          log := console.log ++ [.rejected rejection] } settings.complaintLine with
      ⟨printed, told⟩ | ⟨fault, cut, printed, failed, isPrefix, isCut⟩
    · rw [printed]
      exact .told ⟨rejected, told, Device.carried_carried ..⟩
    · rw [printed]
      exact .untold rejected failed rfl isPrefix isCut

theorem attempt_tried (settings : Settings) (console : Console) :
    Tried settings console (attempt settings console).1 (attempt settings console).2 := by
  -- A line that ends the question with an error is noted nowhere.
  have refused {error : GameError}
      (settles : verdict? (console.input.line 0) = some (.error error)) :
      Tried settings console (.error error) { console with
        device := console.device.carried settings.prompt 1, input := console.input.after 1 } := by
    have tried : Tried settings console _ _ := .settled settles rfl
    rwa [settling, List.append_nil] at tried
  rw [attempt, bind_apply]
  rcases ask_cases console settings.prompt with
    ⟨fault, device, shown, unasked, output, isPrefix⟩ | asked
  · rw [unasked]
    exact .unasked output isPrefix
  rw [asked]
  cases first : console.input.line 0 with
  | error fault => exact refused (by rw [first]; rfl)
  | ok line =>
    by_cases empty : line = []
    · simp only [Except.mapError, judge, if_pos empty]
      exact refused (by rw [first]; exact if_pos empty)
    · exact judge_tried empty first rfl

/-- What was printed last, behind some exchanges: the prompt, as far as it came through, or the
prompt and a part of a complaint. -/
inductive Reached (settings : Settings) (device : Device) :
    (rejected told : Nat) → Except GameError Move → List UInt8 → Prop
  | prompt {count : Nat} {result : Except GameError Move} {shown : List UInt8}
      (isPrefix : shown <+: Text.encode settings.prompt)
      (whole : result.isOk → shown = Text.encode settings.prompt) :
      Reached settings device count count result shown
  | complaint {count : Nat} {fault : Fault} {cut : List UInt8}
      (failed : (device.write (Text.encode settings.complaintLine)).1 = .error fault)
      (isPrefix : cut <+: Text.encode settings.complaintLine)
      (isCut : cut ≠ Text.encode settings.complaintLine) :
      Reached settings device (count + 1) count (.error (.io fault))
        (Text.encode settings.prompt ++ cut)

/-- An account of a question: the lines that were rejected, what became of the next one, and of how
many rejected lines the player was told. -/
structure Asked (settings : Settings) (before : Console) (rejected told : Nat)
    (result : Except GameError Move) (after : Console) : Prop where
  lines : ∀ place < rejected, verdict? (before.input.line place) = none
  taken : (∃ fault, result = .error (.io fault)) ∧ after.input = before.input.after rejected ∨
    verdict? (before.input.line rejected) = some result ∧
      after.input = before.input.after (rejected + 1)
  log : after.log = before.log ++ (rejections before.input rejected ++ settling result)
  complained : ∀ place < told, ((before.device.carried (dialogue settings place) (place + 1)).write
    (Text.encode settings.complaintLine)).1 = .ok ()
  output : ∃ shown,
    after.device.output = before.device.output ++ Text.encode (exchanges settings told) ++ shown ∧
      Reached settings (before.device.carried (dialogue settings told) (told + 1)) rejected told
        result shown

theorem Reached.succ {device : Device} {rejected told : Nat} {result : Except GameError Move}
    {shown : List UInt8} (reached : Reached settings device rejected told result shown) :
    Reached settings device (rejected + 1) (told + 1) result shown := by
  cases reached with
  | prompt isPrefix whole => exact .prompt isPrefix whole
  | complaint failed isPrefix isCut => exact .complaint failed isPrefix isCut

/-- One exchange more on a device, and then what is printed up to a complaint. -/
theorem Exchanged.carried_dialogue {before middle : Console}
    (exchanged : Exchanged settings before middle) (place : Nat) :
    middle.device.carried (dialogue settings place) (place + 1) =
      before.device.carried (dialogue settings (place + 1)) (place + 1 + 1) := by
  have longer : settings.prompt ++ settings.complaintLine ++ dialogue settings place =
      dialogue settings (place + 1) := by
    simp only [dialogue_eq, exchanges_succ, String.append_assoc]
  rw [exchanged.device, Device.carried_carried, Nat.add_comm 1, longer]

/-- A question that goes on behind an exchange has one rejected line more to account for. -/
theorem Asked.behind {before middle after : Console} {rejected told : Nat}
    {result : Except GameError Move} (exchanged : Exchanged settings before middle)
    (asked : Asked settings middle rejected told result after) :
    Asked settings before (rejected + 1) (told + 1) result after := by
  have both : Rejected before (rejected + 1)
      { middle with
        input := middle.input.after rejected
        log := middle.log ++ rejections middle.input rejected } := by
    rw [Nat.add_comm]
    exact exchanged.toRejected.trans ⟨asked.lines, rfl, rfl⟩
  have later (count : Nat) : middle.input.after count = before.input.after (count + 1) := by
    rw [exchanged.input, Nat.add_comm, ← Script.after_add]
  refine ⟨both.lines, ?_, ?_, ?_, ?_⟩
  · rcases asked.taken with ⟨broken, input⟩ | ⟨settles, input⟩
    · exact .inl ⟨broken, input.trans (later rejected)⟩
    · rw [exchanged.input, ← Script.line_add, Nat.add_comm] at settles
      exact .inr ⟨settles, input.trans (later (rejected + 1))⟩
  · rw [asked.log, ← List.append_assoc, ← List.append_assoc]
    exact congrArg (· ++ settling result) both.log
  · intro place early
    cases place with
    | zero =>
      rw [dialogue_zero]
      exact exchanged.told
    | succ place =>
      rw [← exchanged.carried_dialogue]
      exact asked.complained place (Nat.lt_of_succ_lt_succ early)
  · obtain ⟨shown, output, reached⟩ := asked.output
    rw [exchanged.carried_dialogue] at reached
    refine ⟨shown, ?_, reached.succ⟩
    rw [output, exchanged.device, Device.output_carried, exchanges_succ]
    simp only [Text.encode_append, List.append_assoc]

/-- A question that is not asked again has at most one rejected line to account for. -/
theorem Tried.asked {before after : Console} (verdict : Except GameError Move)
    (tried : Tried settings before (verdict.map some) after) :
    ∃ rejected, Asked settings before rejected 0 verdict after := by
  have nowhere {fact : Nat → Prop} : ∀ place < 0, fact place :=
    fun place early => absurd early (Nat.not_lt_zero place)
  generalize ended : verdict.map some = result at tried
  cases tried with
  | unasked output isPrefix =>
    cases verdict with
    | ok move => cases ended
    | error error =>
      cases ended
      refine ⟨0, nowhere, .inl ⟨⟨_, rfl⟩, rfl⟩, (List.append_nil _).symm, nowhere, _, ?_,
        .prompt isPrefix ?_⟩
      · exact output.trans (congrArg (· ++ _) (List.append_nil _).symm)
      · exact fun succeeds => by cases succeeds
  | @settled other _ settles ends =>
    have same : verdict = other := by
      rw [ends] at ended
      cases verdict <;> cases other <;> cases ended <;> rfl
    subst same
    refine ⟨0, nowhere, .inr ⟨settles, rfl⟩, rfl, nowhere, _, ?_,
      .prompt (List.prefix_refl _) fun _ => rfl⟩
    rw [Device.output_carried]
    exact congrArg (· ++ _) (List.append_nil _).symm
  | told => cases verdict <;> cases ended
  | untold rejected failed device isPrefix isCut =>
    cases verdict with
    | ok move => cases ended
    | error error =>
      cases ended
      refine ⟨1, rejected.lines, .inl ⟨⟨_, rfl⟩, rejected.input⟩, ?_, nowhere, _, ?_,
        .complaint ?_ isPrefix isCut⟩
      · rw [rejected.log]
        exact congrArg (before.log ++ ·) (List.append_nil _).symm
      · rw [device, Device.output_take, Device.output_carried, List.append_assoc]
        exact congrArg (· ++ _) (List.append_nil _).symm
      · rw [dialogue_zero]
        exact failed

/-- An attempt that picks no move is a whole exchange. -/
theorem Tried.exchanged {before after : Console} (tried : Tried settings before (.ok none) after) :
    Exchanged settings before after := by
  cases tried with
  | @settled verdict _ _ ends => cases verdict <;> cases ends
  | told exchanged => exact exchanged

/-- Whatever fails, a question for a move can be accounted for. -/
theorem readMove_asked (settings : Settings) (console : Console) :
    ∃ rejected told, Asked settings console rejected told (readMove settings console).1
      (readMove settings console).2 := by
  fun_induction readMove settings console with
  | case1 console move after ended =>
    have tried := attempt_tried settings console
    rw [ended] at tried
    obtain ⟨rejected, asked⟩ := Tried.asked (.ok move) tried
    exact ⟨rejected, 0, asked⟩
  | case2 console after ended ih =>
    have tried := attempt_tried settings console
    rw [ended] at tried
    obtain ⟨rejected, told, asked⟩ := ih
    -- What the later questions account for stands behind one more exchange.
    exact ⟨rejected + 1, told + 1, asked.behind tried.exchanged⟩
  | case3 console error after ended =>
    have tried := attempt_tried settings console
    rw [ended] at tried
    obtain ⟨rejected, asked⟩ := Tried.asked (.error error) tried
    exact ⟨rejected, 0, asked⟩

end Account

/-- How a question for a move ends: a write or a flush fails behind some rejected lines, or the
first line that is not rejected settles the choice. -/
inductive Course (before : Console) : Except GameError Move → Console → Prop
  | broken {count : Nat} {fault : Fault} {after : Console}
      (rejected : Rejected before count after) : Course before (.error (.io fault)) after
  | settled {count : Nat} {verdict : Except GameError Move} {after : Console}
      (lines : ∀ place < count, verdict? (before.input.line place) = none)
      (settles : verdict? (before.input.line count) = some verdict)
      (input : after.input = before.input.after (count + 1))
      (log : after.log = before.log ++ (rejections before.input count ++ settling verdict)) :
      Course before verdict after

/-- A question that goes on behind rejected lines ends as what is left of it. -/
theorem Course.behind {before middle after : Console} {count : Nat}
    {result : Except GameError Move} (front : Rejected before count middle)
    (course : Course middle result after) : Course before result after := by
  cases course with
  | broken rejected => exact .broken (front.trans rejected)
  | @settled more verdict _ lines settles input log =>
    have rejected : Rejected before (count + more)
        { middle with
          input := middle.input.after more
          log := middle.log ++ rejections middle.input more } :=
      front.trans ⟨lines, rfl, rfl⟩
    refine .settled rejected.lines ?_ ?_ ?_
    · rw [Script.line_add, ← front.input]
      exact settles
    · rw [input, front.input, Nat.add_assoc, ← Script.after_add]
    · rw [log, ← List.append_assoc, ← List.append_assoc]
      exact congrArg (· ++ settling result) rejected.log

/-- An account with its counts left out. -/
theorem Asked.course {settings : Settings} {before after : Console} {rejected told : Nat}
    {result : Except GameError Move} (asked : Asked settings before rejected told result after) :
    Course before result after := by
  rcases asked.taken with ⟨⟨fault, rfl⟩, input⟩ | ⟨settles, input⟩
  · refine .broken ⟨asked.lines, input, ?_⟩
    rw [asked.log]
    exact congrArg (before.log ++ ·) (List.append_nil _)
  · exact .settled asked.lines settles input asked.log

/-- Whatever fails, a question for a move ends at the first line that settles the choice or with a
fault before it. -/
theorem readMove_course (settings : Settings) (console : Console) :
    Course console (readMove settings console).1 (readMove settings console).2 := by
  obtain ⟨rejected, told, asked⟩ := readMove_asked settings console
  exact asked.course

private theorem verdict?_closed {line : Except Fault (List UInt8)}
    (closed : verdict? line = some (.error .inputClosed)) : line = .ok [] := by
  cases line with
  | error fault => cases closed
  | ok bytes =>
    by_cases empty : bytes = []
    · rw [empty]
    · cases typed : Move.ofTyped (Text.decode bytes) <;>
        simp only [verdict?, if_neg empty, typed] at closed <;> cases closed

/-- A question finds the input closed only where the first line that is not rejected has no
bytes. -/
theorem Course.closed {before after : Console}
    (course : Course before (.error .inputClosed) after) :
    ∃ count, (∀ place < count, verdict? (before.input.line place) = none) ∧
      before.input.line count = .ok [] ∧ after.input = before.input.after (count + 1) := by
  cases course with
  | @settled count _ _ lines settles input => exact ⟨count, lines, verdict?_closed settles, input⟩

/-- A choice is a question behind the greeting, unless the greeting does not come through. -/
theorem choose_cases (settings : Settings) (console : Console) :
    Game.choose settings console = readMove settings
        { console with device := console.device.carried (Game.greeting settings) 0 } ∨
      ∃ fault shown, Game.choose settings console =
          (.error (.io fault), { console with device := console.device.take shown }) ∧
        shown <+: Text.encode (Game.greeting settings) := by
  rcases print_cases console settings.banner with ⟨printed, _⟩ | ⟨fault, shown, cut, _, isPrefix, _⟩
  · refine .inl ?_
    rw [Game.choose, welcome, bind_apply, printed]
    rfl
  · refine .inr ⟨fault, shown, ?_, isPrefix⟩
    rw [Game.choose, welcome, bind_apply, cut]

/-- The greeting takes nothing of the input and is not noted, so the choice goes on as without
it. -/
theorem choose_course (settings : Settings) (console : Console) :
    Course console (Game.choose settings console).1 (Game.choose settings console).2 := by
  rcases choose_cases settings console with greeted | ⟨fault, shown, cut, _⟩
  · rw [greeted]
    have silent : Rejected console 0
        { console with device := console.device.carried (Game.greeting settings) 0 } :=
      rejected_zero rfl rfl
    exact (readMove_course settings _).behind silent
  · rw [cut]
    exact .broken (rejected_zero rfl rfl)

/-- Whether an action never finds the input closed. -/
def NeverCloses {α : Type} (action : Action α) : Prop :=
  ∀ console, (action console).1 ≠ .error .inputClosed

section NeverCloses

variable {α β : Type}

private theorem neverCloses_pure (value : α) : (pure value : Action α).NeverCloses :=
  fun _ same => by cases same

private theorem neverCloses_remark (entries : List LogEntry) : (remark entries).NeverCloses :=
  fun _ same => by cases same

theorem neverCloses_print (text : String) : (print text).NeverCloses := by
  intro console
  rcases print_cases console text with ⟨printed, _⟩ | ⟨fault, shown, cut, _⟩
  · rw [printed]
    exact fun same => by cases same
  · rw [cut]
    exact fun same => by cases same

theorem NeverCloses.bind {first : Action α} {next : α → Action β} (head : first.NeverCloses)
    (tail : ∀ value, (next value).NeverCloses) : (first >>= next).NeverCloses := by
  intro console
  have opened := head console
  rw [bind_apply]
  rcases ended : first console with ⟨result, after⟩
  rw [ended] at opened
  cases result with
  | ok value => exact tail value after
  | error error =>
    intro same
    cases same
    exact opened rfl

private theorem neverCloses_ask (prompt : String) : (ask prompt).NeverCloses := by
  intro console
  rcases ask_cases console prompt with ⟨fault, device, shown, unasked, _⟩ | asked
  · rw [unasked]
    exact fun same => by cases same
  · rw [asked]
    cases console.input.line 0 <;> exact fun same => by cases same

theorem neverCloses_waitForClose (settings : Settings) : (waitForClose settings).NeverCloses := by
  apply (neverCloses_ask _).bind
  intro line
  split
  · exact neverCloses_remark _
  · exact neverCloses_pure _

theorem neverCloses_conclude (settings : Settings) (round : Round) :
    (Game.conclude settings round).NeverCloses :=
  (neverCloses_remark _).bind fun _ => (neverCloses_print _).bind fun _ =>
    (neverCloses_waitForClose settings).bind fun _ => neverCloses_pure round

/-- A whole game finds the input closed only while a move is chosen. -/
theorem play_closed {settings : Settings} {opponent : Opponent} {console : Console}
    (closed : (Game.play settings opponent console).1 = .error .inputClosed) :
    Course console (.error .inputClosed) (Game.play settings opponent console).2 := by
  have course := choose_course settings console
  rw [Game.play, bind_apply] at closed ⊢
  rcases chosen : Game.choose settings console with ⟨result, after⟩
  rw [chosen] at closed course
  cases result with
  | error error =>
    cases closed
    exact course
  | ok player =>
    have concluded := (neverCloses_remark (opponent.remarks opponent.play.1)).bind fun _ =>
      neverCloses_conclude settings (Round.ofMoves player opponent.play.1)
    exact absurd closed (concluded after)

end NeverCloses

end Roshambo.Action
