import LetLang.Proofs.Session.History
import LetLang.Proofs.Session.Series

/-! # Delivery of results

A session keeps the printed form of an output until it is popped or reported. Whatever is done to
the session in between, and in whatever order, each output is handed out once and in its turn. The
main statement also says what each operation leaves as it is.
-/
namespace LetLang.Session

open Statement (run)

def afterAll (s : Session) (ops : List Operation) : Session := ops.foldl after s

/-- The results that an operation hands out, oldest first. -/
def handedOut (s : Session) : Operation → List Text
  | .pop => match s.pop.1 with
    | .ok result => [result]
    | .error _ => []
  | .report => s.results
  | .complete _ | .flush | .add .. | .envLines | .reset => []

def rendered (s : Session) : Operation → List Text
  | .add room statement _ => match (run room statement s.env).1 with
    | .ok out => [out.text]
    | .error _ => []
  | .complete _ | .flush | .pop | .report | .envLines | .reset => []

/-- What operations come to, each in the session that those before it leave. -/
def gather (what : Session → Operation → List Text) (s : Session) : List Operation → List Text
  | [] => []
  | op :: rest => what s op ++ gather what (s.after op) rest

/-- What an operation makes of adding a statement: its output is the last result, or else nothing
has changed for those who read results and for those who type statements. -/
theorem add_cases (room : Nat) (s : Session) (statement : Text) (line : Option Int) :
    match (s.add room statement line).1 with
    | .ok () => ∃ out, (run room statement s.env).1 = .ok out ∧
        s.rendered (.add room statement line) = [out.text] ∧
        (s.add room statement line).2.results = s.results ++ [out.text]
    | .error _ => s.rendered (.add room statement line) = [] ∧
        (s.add room statement line).2.results = s.results ∧
        (s.add room statement line).2.pending = s.pending := by
  rcases ran : run room statement s.env with ⟨e | out, left⟩
  · rw [add_of_error ran]
    refine ⟨?_, rfl, rfl⟩
    rw [rendered, ran]
  · rw [add_of_ok ran]
    refine ⟨out, rfl, ?_, rfl⟩
    rw [rendered, ran]

/-- What has been handed out and what is unread grow by the output of each operation, if it has
one. -/
theorem handedOut_append_results (s : Session) (op : Operation) :
    s.handedOut op ++ (s.after op).results = s.results ++ s.rendered op := by
  cases op with
  | complete line => exact (List.append_nil _).symm
  | flush => exact (List.append_nil _).symm
  | add room statement line =>
    have told := s.add_cases room statement line
    show (s.add room statement line).2.results = _
    split at told
    · obtain ⟨out, _, output, results⟩ := told
      rw [results, output]
    · obtain ⟨none, results, _⟩ := told
      rw [results, none, List.append_nil]
  | pop =>
    cases unread : s.results with
    | nil => simp [handedOut, after, pop, rendered, unread]
    | cons first later => simp [handedOut, after, pop, rendered, unread]
  | report => rfl
  | envLines => exact (List.append_nil _).symm
  | reset => exact (List.append_nil _).symm

theorem pop_of_empty {s : Session} (empty : s.results = []) :
    s.pop = (.error (.crash .emptyQueue), s) := by
  rw [pop, empty]

/-- Text waits or is dropped only where lines are read or all is forgotten. -/
theorem eq_of_pending_ne {s : Session} {op : Operation} (changed : (s.after op).pending ≠ s.pending) :
    (∃ line, op = .complete line) ∨ op = .flush ∨ op = .reset := by
  cases op with
  | complete line => exact .inl ⟨line, rfl⟩
  | flush => exact .inr (.inl rfl)
  | reset => exact .inr (.inr rfl)
  | add room statement line => exact absurd (pending_add room s statement line) changed
  | pop => exact absurd (pending_pop s) changed
  | report => exact absurd rfl changed
  | envLines => exact absurd rfl changed

theorem env_pop (s : Session) : s.pop.2.env = s.env := by
  unfold pop
  split <;> rfl

/-- Bindings are made where statements are run, and lost where all is forgotten. -/
theorem eq_of_env_ne {s : Session} {op : Operation} (changed : (s.after op).env ≠ s.env) :
    (∃ room statement line, op = .add room statement line) ∨ op = .reset := by
  cases op with
  | add room statement line => exact .inl ⟨room, statement, line, rfl⟩
  | reset => exact .inr rfl
  | complete line => exact absurd rfl changed
  | flush => exact absurd rfl changed
  | pop => exact absurd (env_pop s) changed
  | report => exact absurd rfl changed
  | envLines => exact absurd rfl changed

theorem gather_append_results (s : Session) (ops : List Operation) :
    gather handedOut s ops ++ (s.afterAll ops).results = s.results ++ gather rendered s ops := by
  induction ops generalizing s with
  | nil => exact (List.append_nil _).symm
  | cons op rest ih =>
    have later := ih (s.after op)
    calc gather handedOut s (op :: rest) ++ (s.afterAll (op :: rest)).results
        = s.handedOut op ++ (gather handedOut (s.after op) rest ++
            ((s.after op).afterAll rest).results) := List.append_assoc ..
      _ = (s.handedOut op ++ (s.after op).results) ++ gather rendered (s.after op) rest := by
          rw [later, List.append_assoc]
      _ = s.results ++ gather rendered s (op :: rest) := by
          rw [handedOut_append_results, List.append_assoc]
          rfl

/-- No result of a session is lost, handed out twice or handed out before an older one: whatever
has been done, what has been handed out and then what is unread are the outputs in the order in
which they were made. Reporting prints what it hands out. A statement that fails and a pop of no
result leave the results and the waiting text as they are; only reading lines, dropping what waits
and forgetting all touch the waiting text, and only adding a statement and forgetting all touch the
environment. -/
theorem results_are_delivered_in_order {handler : Handler} {path : Text}
    {interactive showEnv : Bool} {start : Session}
    (new : Session.new handler path interactive showEnv = .ok start) (ops : List Operation) :
    let s := start.afterAll ops
    gather handedOut start ops ++ s.results = gather rendered start ops ∧
      s.report.1 = (s.handedOut .report).flatMap (fun result =>
        Text.line result ++ if s.showEnv then s.envListing else []) ∧
      (∀ room statement line, match (s.add room statement line).1 with
        | .ok () => ∃ out, (run room statement s.env).1 = .ok out ∧
            s.rendered (.add room statement line) = [out.text]
        | .error _ => s.rendered (.add room statement line) = [] ∧
            (s.add room statement line).2.results = s.results ∧
            (s.add room statement line).2.pending = s.pending) ∧
      (s.results = [] → s.pop = (.error (.crash .emptyQueue), s)) ∧
      ∀ op, ((s.after op).pending ≠ s.pending →
          (∃ line, op = .complete line) ∨ op = .flush ∨ op = .reset) ∧
        ((s.after op).env ≠ s.env →
          (∃ room statement line, op = .add room statement line) ∨ op = .reset) := by
  intro s
  have delivered := gather_append_results start ops
  rw [(new_blank new).2.1, List.nil_append] at delivered
  refine ⟨delivered, rfl, ?_, pop_of_empty, fun op => ⟨eq_of_pending_ne, eq_of_env_ne⟩⟩
  intro room statement line
  have told := s.add_cases room statement line
  split at told
  · obtain ⟨out, ok, output, _⟩ := told
    exact ⟨out, ok, output⟩
  · exact told

/-- A division by zero and a pop too many stand between the first result and the next two. -/
theorem results_around_failures :
    let start := typed .initial false
    let ops : List Operation := [.add 0 "1;;" none, .add 0 "1 / 0;;" none, .pop, .pop, .complete "2",
      .add 0 "let x = 3;;" none, .add 0 "x;;" none, .report, .add 0 "4;;" none]
    Session.new .initial inputPath true false = .ok start ∧
      gather handedOut start ops =
        ["- : int = 1".toList, "val x : int = 3".toList, "- : int = 3".toList] ∧
      (start.afterAll ops).results = ["- : int = 4".toList] ∧
      gather rendered start ops = ["- : int = 1".toList, "val x : int = 3".toList,
        "- : int = 3".toList, "- : int = 4".toList] := by
  intro start ops
  have new : Session.new .initial inputPath true false = .ok start := rfl
  have handed : gather handedOut start ops =
      ["- : int = 1".toList, "val x : int = 3".toList, "- : int = 3".toList] := by decide +kernel
  have unread : (start.afterAll ops).results = ["- : int = 4".toList] := by decide +kernel
  obtain ⟨delivered, _⟩ := results_are_delivered_in_order new ops
  rw [handed, unread] at delivered
  exact ⟨new, handed, unread, delivered.symm⟩

end LetLang.Session
