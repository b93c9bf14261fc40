import LetLang.Proofs.Report
import LetLang.Proofs.Session.History
import LetLang.Proofs.Session.Series
import LetLang.Shell

/-! # Journals of shells

What a shell answers to a line as a list of entries, told without printing and without a session
that runs statements. The text that the shell prints is that of its journal, so that results and
reports can be told apart in it.
-/
namespace LetLang

namespace Session

theorem Reachable.runStatements {s : Session} (h : s.Reachable) (room : Nat) (line : Option Int)
    (statements : List Text) : (s.runStatements room line statements).session.Reachable := by
  induction statements generalizing s with
  | nil => exact h
  | cons statement rest ih =>
    have added : (s.add room statement line).2.Reachable := h.after (.add room statement line)
    rw [Session.runStatements]
    rcases ran : s.add room statement line with ⟨e | ⟨⟩, next⟩
    · rw [ran] at added
      exact added
    · rw [ran] at added
      exact ih (added.after .report)

theorem reachable_typed (handler : Handler) (showEnv : Bool) :
    (typed handler showEnv).Reachable :=
  @Reachable.new handler inputPath true showEnv _ rfl

end Session

namespace Shell

open Statement (series)

inductive Entry where
  | result (out : Output) (left : Env)
  | report (location : Option Location) (failure : Failure)
  | bindings (env : Env)
  | help
  | lineEnd
  deriving DecidableEq, Repr

def Entry.text (style : Style) (showEnv : Bool) : Entry → Text
  | .result out left => (Session.typed .initial showEnv).printed (out, left)
  | .report location failure => Handler.report style ⟨false, location⟩ (failure.reported style)
  | .bindings env => Session.envLines { Session.typed .initial showEnv with env } |>.flatMap Text.line
  | .help => Text.line helpText
  | .lineEnd => ['\n']

def unknown (name : Text) : Failure :=
  .complaint ⟨.generic, "unknown directive '" ++ Template.slot ++ "'", [.text name], 0, none, false,
    false⟩

def ran (location : Option Location) (s : Series) : List Entry :=
  s.outputs.map (fun out => .result out.1 out.2) ++
    match s.error with
    | some e => [.report location e.failure]
    | none => []

def directed (sh : Shell) (name : Text) : List Entry :=
  if name = "#env" then [.bindings sh.session.env]
  else if name = "#help" then [.help]
  else if name = "#quit" ∨ name = "#reset" then []
  else [.report sh.session.handler.location (unknown name)]

def completed (room : Nat) (sh : Shell) (line : Text) : List Entry :=
  ran sh.session.handler.location (series room sh.session.env (sh.session.complete line).1)

def commanded (style : Style) (room : Nat) (sh : Shell) (line : Text) : List Entry :=
  if sh.takesDirective line then
    let r := sh.directive style (cutDirective line).1
    sh.directed (cutDirective line).1 ++
      if r.halts then []
      else if (cutDirective line).2 = [] then []
      else
        match room with
        | 0 => []
        | room + 1 => r.shell.commanded style room (cutDirective line).2
  else sh.completed room line

def atEnd (sh : Shell) : List Entry :=
  .lineEnd ::
    if sh.session.pending.isEmpty then []
    else [.report sh.session.handler.location
      (StatementError.unterminated (Text.strip sh.session.pending)).failure]

def journal (style : Style) (room : Nat) (sh : Shell) (line : Text) : List Entry :=
  if Text.strip line = [] then []
  else if Text.strip line = endLine then sh.atEnd
  else sh.commanded style room (Text.strip line)

/-- A shell that waits for a line. -/
structure Settled (showEnv : Bool) (sh : Shell) : Prop where
  typed : sh.session.interactive = true
  shown : sh.session.showEnv = showEnv
  forgiving : sh.session.handler.fatal = false
  read : sh.session.results = []
  reached : sh.session.Reachable

theorem settled_new (handler : Handler) (showEnv : Bool) : (Shell.new handler showEnv).Settled showEnv :=
  ⟨rfl, rfl, rfl, rfl, Session.reachable_typed handler showEnv⟩

variable (style : Style) {room : Nat} {showEnv : Bool} {sh : Shell}

theorem Settled.idle (h : sh.Settled showEnv) : sh.session.Idle :=
  ⟨h.read, fun file => absurd (h.typed.symm.trans file) (by decide)⟩

/-- A reply that prints the entries, and whose shell waits for a line again. -/
structure Answers (style : Style) (showEnv : Bool) (entries : List Entry) (r : Reply) : Prop where
  out : r.out = entries.flatMap (Entry.text style showEnv)
  settled : r.shell.Settled showEnv

theorem Entry.text_report {handler : Handler} (forgiving : handler.fatal = false)
    (failure : Failure) :
    (Entry.report handler.location failure).text style showEnv =
      handler.report style (failure.reported style) := by
  obtain ⟨fatal, location⟩ := handler
  cases forgiving
  rfl

theorem Entry.text_result {s : Session} (shown : s.showEnv = showEnv) :
    (fun out : Output × Env => (Entry.result out.1 out.2).text style showEnv) = s.printed := by
  obtain ⟨path, interactive, show', handler, env, results, pending⟩ := s
  cases shown
  rfl

theorem answers_guard {p : Session.Progress} {entries : List Entry}
    (out : p.out = entries.flatMap (Entry.text style showEnv))
    (settled : Settled showEnv { sh with session := p.session }) :
    Answers style showEnv
      (entries ++ match p.failure with
        | some failure => [.report p.session.handler.location failure]
        | none => [])
      (sh.guard style p) := by
  cases failed : p.failure with
  | none =>
    have reply : sh.guard style p = ⟨p.out, .ok, false, { sh with session := p.session }⟩ := by
      simp only [Shell.guard, failed]
    rw [reply]
    refine ⟨?_, settled⟩
    simp only [out, List.append_nil]
  | some failure =>
    have kept : p.session.handler.fatal = false := settled.forgiving
    have reply : sh.guard style p =
        ⟨p.out ++ p.session.handler.report style (failure.reported style), failure.ending style,
          false, { sh with session := { p.session with handler := p.session.handler.forget } }⟩ := by
      simp only [Shell.guard, failed, Handler.settle_failed, kept, Bool.false_eq_true, if_false]
    rw [reply]
    refine ⟨?_, settled.typed, settled.shown, kept, settled.read, settled.reached.handled _⟩
    simp only [out, List.flatMap_append, List.flatMap_singleton, Entry.text_report style kept]

theorem Settled.directive (h : sh.Settled showEnv) (name : Text) :
    Answers style showEnv (sh.directed name) (sh.directive style name) := by
  unfold Shell.directive directed
  by_cases quit : name = "#quit"
  · simp only [quit, if_true]
    exact ⟨rfl, h⟩
  by_cases env : name = "#env"
  · simp only [env, if_true]
    exact ⟨(List.flatMap_singleton _ _).symm, h⟩
  by_cases reset : name = "#reset"
  · simp only [reset, if_true]
    exact ⟨rfl, h.typed, h.shown, h.forgiving, h.read, h.reached.after .reset⟩
  by_cases help : name = "#help"
  · simp only [help, if_true]
    exact ⟨(List.flatMap_singleton _ _).symm, h⟩
  · simp only [quit, env, reset, help, if_false, or_self]
    exact @answers_guard style showEnv sh ⟨[], sh.session, some (unknown name)⟩ [] rfl h

theorem Settled.runStatements_eq (h : sh.Settled showEnv) (room : Nat) (line : Text) :
    (sh.session.complete line).2.runStatements room none (sh.session.complete line).1 =
      let s := series room sh.session.env (sh.session.complete line).1
      ⟨s.outputs.flatMap sh.session.printed, { (sh.session.complete line).2 with env := s.left },
        s.error.map StatementError.failure⟩ := by
  have idle : (sh.session.complete line).2.Idle := ⟨h.idle.results, h.idle.location⟩
  have typed : (sh.session.complete line).2.interactive = true := h.typed
  simp only [idle.runStatements_eq, Session.marked_typed typed, ite_self]
  rfl

theorem Settled.behind (h : sh.Settled showEnv) (room : Nat) (line prompt : Text) :
    Settled showEnv
      ⟨{ (sh.session.complete line).2 with
          env := (series room sh.session.env (sh.session.complete line).1).left }, prompt⟩ := by
  have next : (sh.session.complete line).2.Reachable := h.reached.after (.complete line)
  have run := next.runStatements room none (sh.session.complete line).1
  rw [h.runStatements_eq] at run
  exact ⟨h.typed, h.shown, h.forgiving, h.read, run⟩

theorem Settled.statements (h : sh.Settled showEnv) (room : Nat) (line : Text) :
    Answers style showEnv (sh.completed room line) (sh.statements style room line) := by
  have behind := h.behind room line
  unfold Shell.statements completed ran
  simp only [h.runStatements_eq]
  -- the prompt depends on what waits, but nothing that is printed depends on the prompt
  generalize series room sh.session.env (sh.session.complete line).1 = s at behind ⊢
  have printed : s.outputs.flatMap sh.session.printed =
      (s.outputs.map fun out => Entry.result out.1 out.2).flatMap (Entry.text style showEnv) := by
    rw [List.flatMap_map, Entry.text_result style h.shown]
  have guarded (prompt : Text) := @answers_guard style showEnv { sh with prompt }
    ⟨s.outputs.flatMap sh.session.printed,
      { (sh.session.complete line).2 with env := s.left }, s.error.map StatementError.failure⟩ _
    printed (behind prompt)
  cases error : s.error with
  | none =>
    rw [error] at guarded
    exact guarded _
  | some e =>
    rw [error] at guarded
    exact guarded _

theorem commanded_of_done {line : Text} (takes : sh.takesDirective line = true)
    (done : (sh.directive style (cutDirective line).1).halts = true ∨ (cutDirective line).2 = []) :
    sh.commanded style room line = sh.directed (cutDirective line).1 := by
  rw [commanded.eq_def, if_pos takes]
  rcases done with halts | none
  · simp only [halts, if_true, List.append_nil]
  · simp only [none, if_true, ite_self, List.append_nil]

theorem commanded_of_more {line : Text} (takes : sh.takesDirective line = true)
    (goes : ¬ (sh.directive style (cutDirective line).1).halts = true)
    (more : ¬ (cutDirective line).2 = []) :
    sh.commanded style (room + 1) line = sh.directed (cutDirective line).1 ++
      (sh.directive style (cutDirective line).1).shell.commanded style room (cutDirective line).2 := by
  rw [commanded.eq_def, if_pos takes]
  simp only [if_neg goes, if_neg more]

/-- Without room for one call more the line is left there. -/
theorem commanded_of_spent {line : Text} (takes : sh.takesDirective line = true) :
    sh.commanded style 0 line = sh.directed (cutDirective line).1 := by
  rw [commanded.eq_def, if_pos takes]
  simp only [ite_self, List.append_nil]

theorem commanded_of_statements {line : Text} (plain : ¬ sh.takesDirective line = true) :
    sh.commanded style room line = sh.completed room line := by
  rw [commanded.eq_def, if_neg plain]

/-- Directives print what is said about them, and the statements behind them their series. -/
theorem Settled.command (h : sh.Settled showEnv) (room : Nat) (line : Text) :
    Answers style showEnv (sh.commanded style room line) (sh.command style room line) := by
  fun_induction Shell.command style room sh line with
  | case1 room sh line takes r halts =>
    rw [commanded_of_done style takes (.inl halts)]
    exact h.directive style (cutDirective line).1
  | case2 room sh line takes r goes none =>
    rw [commanded_of_done style takes (.inr none)]
    exact h.directive style (cutDirective line).1
  | case3 sh line takes r goes more =>
    rw [commanded_of_spent style takes]
    have only := h.directive style (cutDirective line).1
    exact ⟨only.out, only.settled⟩
  | case4 sh line takes r goes more room ih =>
    have first := h.directive style (cutDirective line).1
    have later := ih first.settled
    rw [commanded_of_more style takes goes more]
    refine ⟨?_, later.settled⟩
    rw [List.flatMap_append, ← first.out, ← later.out]
    rfl
  | case5 room sh line plain =>
    rw [commanded_of_statements style plain]
    exact h.statements style room line

theorem Settled.endInput (h : sh.Settled showEnv) (room : Nat) :
    Answers style showEnv sh.atEnd (sh.endInput style room) := by
  have flushed : Settled showEnv { sh with session := sh.session.flush.2 } :=
    ⟨h.typed, h.shown, h.forgiving, h.read, h.reached.after .flush⟩
  unfold Shell.endInput atEnd
  cases empty : sh.session.pending.isEmpty with
  | true =>
    simp only [Session.flush, empty, if_true]
    exact ⟨rfl, flushed⟩
  | false =>
    have added := Session.add_flush room h.reached.tidy.unterminated none
    rw [Session.marked_typed h.typed, Session.flush] at added
    simp only [Session.flush, empty, added]
    have guarded := @answers_guard style showEnv { sh with session := sh.session.flush.2 }
      ⟨[], sh.session.flush.2,
        some (StatementError.unterminated (Text.strip sh.session.pending)).failure⟩ [] rfl flushed
    refine ⟨?_, guarded.settled⟩
    rw [List.flatMap_cons]
    exact congrArg (Text.line [] ++ ·) guarded.out

theorem Settled.feed (h : sh.Settled showEnv) (room : Nat) (line : Text) :
    Answers style showEnv (sh.journal style room line) (sh.feed style room line) := by
  unfold journal Shell.feed
  by_cases empty : Text.strip line = []
  · simp only [empty, if_true]
    exact ⟨rfl, h⟩
  by_cases last : Text.strip line = endLine
  · simp only [if_neg empty, if_pos last]
    exact h.endInput style room
  · simp only [empty, last, if_false]
    exact h.command style room _

def after (style : Style) (room : Nat) (sh : Shell) (lines : List Text) : Shell :=
  lines.foldl (fun sh line => (sh.feed style room line).shell) sh

def prints (style : Style) (room : Nat) (sh : Shell) : List Text → Text
  | [] => []
  | line :: rest => (sh.feed style room line).out ++ (sh.feed style room line).shell.prints style room rest

def journals (style : Style) (room : Nat) (sh : Shell) : List Text → List Entry
  | [] => []
  | line :: rest => sh.journal style room line ++ (sh.feed style room line).shell.journals style room rest

theorem Settled.after (h : sh.Settled showEnv) (room : Nat) (lines : List Text) :
    (sh.after style room lines).Settled showEnv := by
  induction lines generalizing sh with
  | nil => exact h
  | cons line rest ih => exact ih (h.feed style room line).settled

theorem Settled.prints_eq (h : sh.Settled showEnv) (room : Nat) (lines : List Text) :
    sh.prints style room lines = (sh.journals style room lines).flatMap (Entry.text style showEnv) := by
  induction lines generalizing sh with
  | nil => rfl
  | cons line rest ih =>
    rw [prints, journals, List.flatMap_append, (h.feed style room line).out, ih (h.feed style room line).settled]

theorem prints_append (room : Nat) (sh : Shell) (lines more : List Text) :
    sh.prints style room (lines ++ more) =
      sh.prints style room lines ++ (sh.after style room lines).prints style room more := by
  induction lines generalizing sh with
  | nil => rfl
  | cons line rest ih =>
    rw [List.cons_append, prints, prints, ih, List.append_assoc]
    rfl

theorem journals_append (room : Nat) (sh : Shell) (lines more : List Text) :
    sh.journals style room (lines ++ more) =
      sh.journals style room lines ++ (sh.after style room lines).journals style room more := by
  induction lines generalizing sh with
  | nil => rfl
  | cons line rest ih =>
    rw [List.cons_append, journals, journals, ih, List.append_assoc]
    rfl

end Shell

end LetLang
