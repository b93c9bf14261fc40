import LetLang.Proofs.Cutting
import LetLang.Session

/-! # Series of statements

Statements run one after the other in one environment, up to the first that fails, told without a
session: the outputs, the environment that is left, and the error. A session that runs statements
prints and leaves what their series says.
-/
namespace LetLang

/-- What statements come to: the outputs, each with the environment behind it, what is left, and the
error of the statement behind those with outputs. -/
structure Series where
  outputs : List (Output × Env)
  left : Env
  error : Option StatementError
  deriving DecidableEq, Repr

/-- What statements come to that pass, with others behind them. -/
def Series.append (s later : Series) : Series := { later with outputs := s.outputs ++ later.outputs }

def Statement.series (room : Nat) (env : Env) : List Text → Series
  | [] => ⟨[], env, none⟩
  | statement :: rest =>
    match run room statement env with
    | (.error e, left) => ⟨[], left, some e⟩
    | (.ok out, left) =>
      let later := series room left rest
      { later with outputs := (out, left) :: later.outputs }

namespace Statement

variable {room : Nat}

theorem series_of_error {statement : Text} {env left : Env} {e : StatementError}
    (h : run room statement env = (.error e, left)) (rest : List Text) :
    series room env (statement :: rest) = ⟨[], left, some e⟩ := by
  rw [series, h]

theorem series_of_ok {statement : Text} {env left : Env} {out : Output}
    (h : run room statement env = (.ok out, left)) (rest : List Text) :
    series room env (statement :: rest) =
      { series room left rest with outputs := (out, left) :: (series room left rest).outputs } := by
  rw [series, h]

theorem run_congr {statement statement' : Text} (h : body statement = body statement')
    (env : Env) : run room statement env = run room statement' env := by
  unfold run
  rw [h]

theorem series_congr {statements statements' : List Text}
    (h : statements.map body = statements'.map body) (env : Env) :
    series room env statements = series room env statements' := by
  induction statements generalizing statements' env with
  | nil =>
    cases statements' with
    | nil => rfl
    | cons _ _ => cases h
  | cons statement rest ih =>
    cases statements' with
    | nil => cases h
    | cons statement' rest' =>
      simp only [List.map_cons, List.cons.injEq] at h
      rcases first : run room statement env with ⟨e | out, left⟩
      · rw [series_of_error first, series_of_error ((run_congr h.1 env).symm.trans first)]
      · rw [series_of_ok first, series_of_ok ((run_congr h.1 env).symm.trans first), ih h.2]

/-- Statements behind one that fails are not run. -/
theorem series_append_of_error {statements : List Text} {env : Env} {e : StatementError}
    (h : (series room env statements).error = some e) (more : List Text) :
    series room env (statements ++ more) = series room env statements := by
  induction statements generalizing env with
  | nil => cases h
  | cons statement rest ih =>
    rcases first : run room statement env with ⟨e' | out, left⟩
    · rw [List.cons_append, series_of_error first, series_of_error first]
    · rw [series_of_ok first] at h
      rw [List.cons_append, series_of_ok first, series_of_ok first, ih h]

theorem series_append_of_none {statements : List Text} {env : Env}
    (h : (series room env statements).error = none) (more : List Text) :
    series room env (statements ++ more) =
      (series room env statements).append (series room (series room env statements).left more) := by
  induction statements generalizing env with
  | nil => rfl
  | cons statement rest ih =>
    rcases first : run room statement env with ⟨e' | out, left⟩
    · rw [series_of_error first] at h
      cases h
    · rw [series_of_ok first] at h
      rw [List.cons_append, series_of_ok first, series_of_ok first, ih h]
      rfl

theorem length_outputs (room : Nat) (env : Env) (statements : List Text) :
    match (series room env statements).error with
    | some _ => (series room env statements).outputs.length < statements.length
    | none => (series room env statements).outputs.length = statements.length := by
  induction statements generalizing env with
  | nil => rfl
  | cons statement rest ih =>
    rcases first : run room statement env with ⟨e | out, left⟩
    · rw [series_of_error first]
      exact Nat.succ_pos _
    · rw [series_of_ok first]
      have later := ih left
      cases failed : (series room left rest).error with
      | none =>
        rw [failed] at later
        exact congrArg Nat.succ later
      | some e =>
        rw [failed] at later
        exact Nat.succ_lt_succ later

end Statement

namespace Session

def marked (s : Session) (line : Option Int) : Handler :=
  if s.interactive then s.handler else s.handler.locate ⟨s.path, line⟩

/-- What is printed about an output and the environment behind it. -/
def printed (s : Session) (out : Output × Env) : Text :=
  Text.line out.1.text ++ if s.showEnv then envListing { s with env := out.2 } else []

theorem add_of_error {room : Nat} {s : Session} {statement : Text} {left : Env} {e : StatementError}
    (h : Statement.run room statement s.env = (.error e, left)) (line : Option Int) :
    s.add room statement line = (.error e.failure, { s with env := left, handler := s.marked line }) := by
  simp only [add, Statement.evaluate, h]
  rfl

theorem add_of_ok {room : Nat} {s : Session} {statement : Text} {left : Env} {out : Output}
    (h : Statement.run room statement s.env = (.ok out, left)) (line : Option Int) :
    s.add room statement line =
      (.ok (), { s with
        env := left
        handler := if s.interactive then s.handler else s.handler.forget
        results := s.results ++ [out.text] }) := by
  have evaluated : Statement.evaluate room statement s.env = (.ok out.text, left) := by
    rw [Statement.evaluate, h]
    rfl
  simp only [add, evaluated]
  cases s.interactive <;> rfl

/-- A session between two statements: all results are read, and no statement is located. -/
structure Idle (s : Session) : Prop where
  results : s.results = []
  location : s.interactive = false → s.handler.location = none

theorem Idle.handler_eq {s : Session} (h : s.Idle) :
    (if s.interactive then s.handler else s.handler.forget) = s.handler := by
  obtain ⟨path, interactive, showEnv, ⟨fatal, location⟩, env, results, pending⟩ := s
  cases interactive with
  | true => rfl
  | false =>
    have unlocated : location = none := h.location rfl
    rw [unlocated]
    rfl

/-- A session runs the series of the statements, and remembers the place where it fails. -/
theorem Idle.runStatements_eq (room : Nat) {s : Session} (h : s.Idle) (line : Option Int)
    (statements : List Text) :
    s.runStatements room line statements =
      let series := Statement.series room s.env statements
      ⟨series.outputs.flatMap s.printed,
        { s with env := series.left, handler := if series.error.isSome then s.marked line else s.handler },
        series.error.map StatementError.failure⟩ := by
  induction statements generalizing s with
  | nil => rfl
  | cons statement rest ih =>
    rcases first : Statement.run room statement s.env with ⟨e | out, left⟩
    · rw [runStatements, add_of_error first, Statement.series_of_error first]
      rfl
    · -- reporting reads the result, so that the next statement finds the session idle again
      have idle : ({ s with env := left } : Session).Idle := ⟨h.results, h.location⟩
      have reported : (report { s with env := left, results := [out.text] }) =
          (s.printed (out, left), { s with env := left }) := by
        simp only [report, printed, List.flatMap_singleton, h.results]
        rfl
      have later := ih idle
      rw [runStatements, add_of_ok first, Statement.series_of_ok first, h.handler_eq, h.results]
      simp only [List.nil_append, reported, later]
      simp only [Progress.after, List.flatMap_cons, h.results]
      rfl

theorem marked_typed {s : Session} (typed : s.interactive = true) (line : Option Int) :
    s.marked line = s.handler := by
  rw [marked, if_pos typed]

theorem add_flush (room : Nat) {s : Session} (h : Statement.Unterminated s.pending) (line : Option Int) :
    s.flush.2.add room s.flush.1 line =
      (.error (StatementError.unterminated (Text.strip s.pending)).failure,
        { s.flush.2 with handler := s.marked line }) := by
  have short : Statement.run room s.pending s.env =
      (.error (.unterminated (Text.strip s.pending)), s.env) := by
    rw [Statement.run, Statement.body_unterminated h]
  exact add_of_error (s := s.flush.2) short line

end Session

end LetLang
