import LetLang.Program
import LetLang.Proofs.Report
import LetLang.Proofs.Session.Collecting
import LetLang.Proofs.Session.Series

/-! # Files as one text

A file is run line by line, yet its run is told by its text as a whole: by the series of the
statements into which the joined lines fall, and by the line of the terminator where it stops.
-/
namespace LetLang

open Statement (Unterminated Cuts ended series body terminator)

/-- Text that is read up to a terminator ends in a line, numbered from one. -/
def EndsIn (front : Text) (lines : List Text) (read : Text) (number : Nat) : Prop :=
  ∃ before own behind after, lines = before ++ (own ++ terminator ++ behind) :: after ∧
    number = before.length + 1 ∧ read = front ++ before.flatMap Text.line ++ own ++ terminator

theorem EndsIn.cons {front line rest read : Text} {lines : List Text} {number : Nat}
    (h : EndsIn (rest ++ ['\n']) lines read number) {done : Text} (whole : done ++ rest = front ++ line) :
    EndsIn front (line :: lines) (done ++ read) (number + 1) := by
  obtain ⟨before, own, behind, after, rfl, rfl, rfl⟩ := h
  refine ⟨line :: before, own, behind, after, rfl, rfl, ?_⟩
  simp only [List.flatMap_cons, Text.line, ← List.append_assoc, whole]

theorem endsIn_of_cuts {front line rest : Text} {pieces : List Text}
    (apart : Unterminated (front ++ [';'])) (h : Cuts (front ++ line) pieces rest) {k : Nat}
    (bound : k < pieces.length) (lines : List Text) :
    EndsIn front (line :: lines) ((pieces.take (k + 1)).flatMap ended) 1 := by
  have split : pieces = pieces.take k ++ pieces[k] :: pieces.drop (k + 1) := by
    rw [← List.drop_eq_getElem_cons bound, List.take_append_drop]
  rw [split] at h
  obtain ⟨own, behind, text, start⟩ := h.starts_behind apart
  refine ⟨[], own, behind, lines, ?_, rfl, ?_⟩
  · rw [text]
    rfl
  · rw [List.take_succ_eq_append_getElem bound, List.flatMap_append, List.flatMap_singleton, ended,
      ← List.append_assoc, start, List.flatMap_nil, List.append_nil]

namespace Session

variable {room : Nat}

abbrev told (room : Nat) (s : Session) (pieces : List Text) : Series :=
  series room s.env (pieces.map ended)

theorem length_told_of_error {s : Session} {pieces : List Text} {e : StatementError}
    (h : (s.told room pieces).error = some e) :
    (s.told room pieces).outputs.length < pieces.length := by
  have bound := Statement.length_outputs room s.env (pieces.map ended)
  rw [h, List.length_map] at bound
  exact bound

theorem length_told_of_none {s : Session} {pieces : List Text}
    (h : (s.told room pieces).error = none) :
    (s.told room pieces).outputs.length = pieces.length := by
  have all := Statement.length_outputs room s.env (pieces.map ended)
  rw [h, List.length_map] at all
  exact all

/-- What running lines comes to, told by the pieces of their text. -/
structure Tells (room : Nat) (s : Session) (number : Nat) (front : Text) (lines : List Text)
    (pieces : List Text) (rest : Text) (p : Progress) : Prop where
  cuts : Cuts (front ++ Text.join ['\n'] lines) pieces rest
  out : p.out = (s.told room pieces).outputs.flatMap s.printed
  failure : p.failure = (s.told room pieces).error.map StatementError.failure
  located {e} : (s.told room pieces).error = some e → ∃ n,
    EndsIn front lines ((pieces.take ((s.told room pieces).outputs.length + 1)).flatMap ended) n ∧
    p.session.handler = s.handler.locate ⟨s.path, some (number + n : Nat)⟩
  waiting : (s.told room pieces).error = none → p.session.Keeps rest ∧ p.session.Tidy
  session : (s.told room pieces).error = none →
    p.session = { s with env := (s.told room pieces).left, pending := p.session.pending }

theorem tells_line {s : Session} {front : Text} (opens : s.Opens front) (idle : s.Idle)
    (file : s.interactive = false) (apart : Unterminated (front ++ [';'])) (number : Nat)
    (line : Text) :
    ∃ pieces rest, s.Tells room number front [line] pieces rest
      ((s.complete line).2.runStatements room (some (number + 1)) (s.complete line).1) := by
  obtain ⟨pieces, rest, cuts, bodies, keeps⟩ := opens.complete line
  have same : series room s.env (s.complete line).1 = s.told room pieces :=
    Statement.series_congr (bodies.trans (map_body_ended cuts.unterminated_piece).symm) s.env
  have tidy := tidy_complete s line
  obtain ⟨pending, waits⟩ : ∃ pending, (s.complete line).2 = { s with pending } := ⟨_, rfl⟩
  have idle' : ({ s with pending } : Session).Idle := ⟨idle.results, idle.location⟩
  rw [waits] at keeps tidy ⊢
  rw [idle'.runStatements_eq room, same]
  refine ⟨pieces, rest, ?_, rfl, rfl, ?_, fun _ => ⟨keeps, tidy.of_pending rfl⟩, ?_⟩
  · rw [Text.join_singleton]
    exact cuts
  · intro e error
    refine ⟨1, endsIn_of_cuts apart cuts (length_told_of_error error) [], ?_⟩
    simp only [error, Option.isSome_some, if_true, marked, file]
    rfl
  · intro error
    simp only [error, Option.isSome_none, Bool.false_eq_true, if_false]

/-- Lines behind a failure are not run, but fall into pieces all the same. -/
theorem Tells.stop {s : Session} {number : Nat} {front line rest : Text} {pieces : List Text}
    {p : Progress} (h : s.Tells room number front [line] pieces rest p) {e : StatementError}
    (error : (s.told room pieces).error = some e) (next : Text) (lines : List Text) :
    ∃ pieces' rest', s.Tells room number front (line :: next :: lines) pieces' rest' p := by
  obtain ⟨later, left, more, _⟩ :=
    Statement.exists_cuts (rest ++ '\n' :: Text.join ['\n'] (next :: lines))
  have cuts := h.cuts.append more
  have same : s.told room (pieces ++ later) = s.told room pieces := by
    rw [told, List.map_append, Statement.series_append_of_error error]
  refine ⟨pieces ++ later, left, ?_, ?_, ?_, ?_, ?_, ?_⟩
  · rw [Text.join_singleton, List.append_assoc] at cuts
    rw [Text.join_cons_cons, List.append_assoc]
    exact cuts
  · rw [same]
    exact h.out
  · rw [same]
    exact h.failure
  · intro e' error'
    obtain ⟨n, ⟨before, own, behind, after, lines', number', read⟩, handler⟩ := h.located error
    rw [same, List.take_append_of_le_length (length_told_of_error error)]
    cases before with
    | nil =>
      cases lines'
      exact ⟨n, ⟨[], own, behind, next :: lines, rfl, number', read⟩, handler⟩
    | cons _ _ => simp at lines'
  · rw [same, error]
    intro passed
    cases passed
  · rw [same, error]
    intro passed
    cases passed

theorem Tells.go {s : Session} {number : Nat} {front line next rest left : Text}
    {pieces later lines : List Text} {p q : Progress}
    (h : s.Tells room number front [line] pieces rest p)
    (passed : (s.told room pieces).error = none)
    (more : p.session.Tells room (number + 1) (rest ++ ['\n']) (next :: lines) later left q) :
    s.Tells room number front (line :: next :: lines) (pieces ++ later) left (q.after p.out) := by
  have cuts := h.cuts
  rw [Text.join_singleton] at cuts
  have behind := more.cuts
  rw [List.append_assoc] at behind
  have env : p.session.env = (s.told room pieces).left := by rw [h.session passed]
  have count := length_told_of_none passed
  have same : s.told room (pieces ++ later) =
      (s.told room pieces).append (p.session.told room later) := by
    rw [told, List.map_append, Statement.series_append_of_none passed, ← env]
  refine ⟨?_, ?_, ?_, ?_, ?_, ?_⟩
  · rw [Text.join_cons_cons, List.append_assoc, ← List.append_assoc]
    exact cuts.append behind
  · have printed : p.session.printed = s.printed := by
      rw [h.session passed]
      rfl
    rw [same, Series.append, List.flatMap_append, ← h.out, ← printed, ← more.out]
    rfl
  · rw [same]
    exact more.failure
  · intro e error
    rw [same] at error ⊢
    obtain ⟨n, ends, handler⟩ := more.located error
    refine ⟨n + 1, ?_, ?_⟩
    · have whole : pieces.flatMap ended ++ rest = front ++ line := cuts.flatMap_ended
      have here := ends.cons whole
      rw [Series.append, List.length_append, count, Nat.add_assoc, List.take_length_add_append,
        List.flatMap_append]
      exact here
    · rw [Nat.add_comm n 1, ← Nat.add_assoc]
      have handler' := handler
      rw [h.session passed] at handler'
      exact handler'
  · rw [same]
    exact more.waiting
  · rw [same]
    intro last
    have behind := more.session last
    rw [h.session passed] at behind
    simp only [told, env]
    exact behind

theorem runLines_cons {s : Session} {number : Nat} {line : Text} {p : Progress}
    (h : (s.complete line).2.runStatements room (some (number + 1)) (s.complete line).1 = p)
    (lines : List Text) :
    s.runLines room number (line :: lines) =
      match p.failure with
      | some _ => p
      | none => (p.session.runLines room (number + 1) lines).after p.out := by
  rw [← h]
  rfl

theorem tells_lines (room : Nat) {s : Session} {front : Text} (opens : s.Opens front)
    (idle : s.Idle) (file : s.interactive = false) (apart : Unterminated (front ++ [';']))
    (number : Nat) (line : Text) (lines : List Text) :
    ∃ pieces rest, s.Tells room number front (line :: lines) pieces rest
      (s.runLines room number (line :: lines)) := by
  obtain ⟨pieces, rest, first⟩ := tells_line opens idle file apart number line
  generalize result : (s.complete line).2.runStatements room (some (number + 1)) (s.complete line).1 = p
    at first
  -- the front of the next line is what the line before it left, known up to blank text only
  induction lines generalizing s front number line pieces rest p with
  | nil =>
    have ran : s.runLines room number [line] = p := by
      rw [runLines_cons result]
      rcases p with ⟨out, session, _ | failure⟩
      · simp [runLines, Progress.after]
      · rfl
    rw [ran]
    exact ⟨pieces, rest, first⟩
  | cons next lines ih =>
    rw [runLines_cons result, first.failure]
    cases error : (s.told room pieces).error with
    | some e => exact first.stop error next lines
    | none =>
      have opens' : p.session.Opens (rest ++ ['\n']) := (first.waiting error).1.opens
      have idle' : p.session.Idle := by
        rw [first.session error]
        exact ⟨idle.results, idle.location⟩
      have file' : p.session.interactive = false := by
        rw [first.session error]
        exact file
      have cuts := first.cuts
      have apart' := cuts.unterminated_rest.append_lineFeed
      obtain ⟨pieces', rest', second⟩ := tells_line opens' idle' file' apart' (number + 1) next
      obtain ⟨later, left, behind⟩ :=
        ih opens' idle' file' apart' (number + 1) next pieces' rest' _ rfl second
      exact ⟨pieces ++ later, left, first.go error behind⟩

theorem Keeps.isEmpty_pending {s : Session} {rest : Text} (h : s.Keeps rest) (tidy : s.Tidy) :
    s.pending.isEmpty = Text.blank rest := by
  obtain ⟨gap, blank, rfl⟩ := h
  rw [tidy.isEmpty_pending, Text.blank_append, blank, Bool.true_and]

theorem Keeps.add_pending {s : Session} {rest : Text} (h : s.Keeps rest) (tidy : s.Tidy)
    (room : Nat) (line : Option Int) :
    s.flush.2.add room s.flush.1 line =
      (.error (StatementError.unterminated (Text.strip rest)).failure,
        { s.flush.2 with handler := s.marked line }) := by
  rw [add_flush room tidy.unterminated, h.strip_eq]

/-- How running lines ends, told by their pieces. -/
inductive Ends (room : Nat) (s : Session) (lines pieces : List Text) (rest : Text)
    (p : Progress) : Prop
  | failed {e : StatementError} {n : Nat} : (s.told room pieces).error = some e →
      EndsIn [] lines ((pieces.take ((s.told room pieces).outputs.length + 1)).flatMap ended) n →
      p.failure = some e.failure → p.session.handler = s.handler.locate ⟨s.path, some n⟩ →
      Ends room s lines pieces rest p
  | short : (s.told room pieces).error = none → Text.blank rest = false →
      p.failure = some (StatementError.unterminated (Text.strip rest)).failure →
      p.session.handler = s.handler.locate ⟨s.path, some lines.length⟩ →
      Ends room s lines pieces rest p
  | done : (s.told room pieces).error = none → Text.blank rest = true → p.failure = none →
      p.session.env = (s.told room pieces).left → Ends room s lines pieces rest p

theorem runText_told (room : Nat) {s : Session} (idle : s.Idle)
    (file : s.interactive = false) (empty : s.pending = []) (text : Text) :
    ∃ pieces rest, Cuts (Text.join ['\n'] (Text.fileLines text)) pieces rest ∧
      (s.runText room text).out = (s.told room pieces).outputs.flatMap s.printed ∧
      s.Ends room (Text.fileLines text) pieces rest (s.runText room text) := by
  cases lines : Text.fileLines text with
  | nil =>
    have ran : s.runText room text = ⟨[], { s with pending := [] }, none⟩ := by
      simp only [runText, lines, runLines, flush, empty]
      rfl
    rw [ran]
    exact ⟨[], [], .rest Statement.unterminated_nil, rfl, .done rfl rfl rfl rfl⟩
  | cons line lines' =>
    have opens : s.Opens [] := ⟨[], rfl, by simp [opening, empty]⟩
    obtain ⟨pieces, rest, tells⟩ :=
      tells_lines room opens idle file (Statement.unterminated_singleton ';') 0 line lines'
    refine ⟨pieces, rest, tells.cuts, ?_⟩
    generalize result : s.runLines room 0 (line :: lines') = p at tells
    have failure := tells.failure
    cases error : (s.told room pieces).error with
    | some e =>
      rw [error] at failure
      have ran : s.runText room text = p := by
        simp only [runText, lines, result, failure, Option.map_some]
      obtain ⟨n, ends, handler⟩ := tells.located error
      rw [Nat.zero_add] at handler
      rw [ran]
      exact ⟨tells.out, .failed error ends failure handler⟩
    | none =>
      rw [error] at failure
      obtain ⟨keeps, tidy⟩ := tells.waiting error
      have session := tells.session error
      have waits := keeps.isEmpty_pending tidy
      cases blank : Text.blank rest with
      | true =>
        have ran : s.runText room text = ⟨p.out, p.session.flush.2, none⟩ := by
          simp only [runText, lines, result, failure, Option.map_none, flush, waits, blank, if_true]
        rw [ran]
        refine ⟨tells.out, .done error blank rfl ?_⟩
        rw [flush, session]
      | false =>
        have ran : s.runText room text = ⟨p.out,
            { p.session.flush.2 with handler := p.session.marked (some (line :: lines').length) },
            some (StatementError.unterminated (Text.strip rest)).failure⟩ := by
          have added := keeps.add_pending tidy room (some ((line :: lines').length : Nat))
          rw [flush] at added
          simp only [runText, lines, result, failure, Option.map_none, flush, waits, blank, added,
            Bool.false_eq_true, if_false]
        rw [ran]
        refine ⟨tells.out, .short error blank rfl ?_⟩
        rw [session]
        simp only [marked, file]
        rfl

def opened (path : Text) (showEnv : Bool) : Session :=
  ⟨path, false, showEnv, .initial, .empty, [], []⟩

theorem new_opened {path : Text} (named : path ≠ inputPath) (showEnv : Bool) :
    Session.new .initial path false showEnv = .ok (opened path showEnv) := by
  simp only [new, opened, if_neg named, Bool.false_eq_true, if_false]

theorem idle_opened (path : Text) (showEnv : Bool) : (opened path showEnv).Idle :=
  ⟨rfl, fun _ => rfl⟩

theorem printed_hidden {s : Session} (hidden : s.showEnv = false) :
    s.printed = fun out => Text.line out.1.text := by
  funext out
  simp only [printed, hidden, Bool.false_eq_true, if_false, List.append_nil]

end Session

namespace Program

def boundaryLine (style : Style) (t : Text) : Text :=
  style.alert "Error: " ++ ("'" ++ style.bold t ++ "' must end with ';;'")

theorem report_unterminated (style : Style) (t : Text) :
    Handler.initial.report style ((StatementError.unterminated t).failure.reported style) =
      Text.line (boundaryLine style t) := by
  have lines : Handler.initial.reportLines style
      ((StatementError.unterminated t).failure.reported style) = [boundaryLine style t] := rfl
  rw [Handler.report, lines, Text.join_singleton]

variable {limit : Nat}

theorem runFile_of_done {path : Text} (named : path ≠ Session.inputPath) (style : Style)
    {showEnv : Bool} {text : Text} {p : Session.Progress}
    (ran : (Session.opened path showEnv).runText (fileRoom limit) (Text.unifyLineEnds text) = p)
    (done : p.failure = none) : runFile limit style path showEnv (some text) = (p.out, .ok) := by
  simp only [runFile, Session.new_opened named, Session.runFile, ran, done]

/-- The handler of a file is fatal: a failure is reported at its line and ends the program. -/
theorem runFile_of_failure {path : Text} (named : path ≠ Session.inputPath) (style : Style)
    {showEnv : Bool} {text : Text} {p : Session.Progress} {failure : Failure} {l : Location}
    (ran : (Session.opened path showEnv).runText (fileRoom limit) (Text.unifyLineEnds text) = p)
    (failed : p.failure = some failure)
    (located : p.session.handler = Handler.initial.locate l) :
    runFile limit style path showEnv (some text) =
      (p.out ++ (Text.line l.text ++ Handler.initial.report style (failure.reported style)),
        .exit 1) := by
  have settled : p.session.handler.settle style (.failed failure) =
      (Text.line l.text ++ Handler.initial.report style (failure.reported style),
        Handler.initial.locate l, .exit 1) := by
    rw [located, Handler.settle_failed]
    exact Prod.ext (Handler.report_located style true l _) rfl
  simp only [runFile, Session.new_opened named, Session.runFile, ran, failed, settled]

/-- A file is run as the series of the pieces of its text: their outputs are printed, and then
there is one report if a piece fails or the text does not end in a terminator. -/
theorem runFile_eq_series (limit : Nat) {path : Text} (named : path ≠ Session.inputPath)
    (style : Style) (text : Text) :
    let lines := Text.fileLines (Text.unifyLineEnds text)
    ∃ pieces rest, Cuts (Text.join ['\n'] lines) pieces rest ∧
      let s := series (fileRoom limit) .empty (pieces.map ended)
      let printed := s.outputs.flatMap fun out => Text.line out.1.text
      match s.error with
      | some e => ∃ n, EndsIn [] lines ((pieces.take (s.outputs.length + 1)).flatMap ended) n ∧
          runFile limit style path false (some text) =
            (printed ++ (Text.line (Location.text ⟨path, some n⟩) ++
              Handler.initial.report style (e.failure.reported style)), .exit 1)
      | none => runFile limit style path false (some text) =
          if Text.blank rest then (printed, .ok)
          else (printed ++ (Text.line (Location.text ⟨path, some lines.length⟩) ++
            Text.line (boundaryLine style (Text.strip rest))), .exit 1) := by
  intro lines
  obtain ⟨pieces, rest, cuts, out, ends⟩ :=
    Session.runText_told (fileRoom limit) (Session.idle_opened path false) rfl rfl
      (Text.unifyLineEnds text)
  refine ⟨pieces, rest, cuts, ?_⟩
  intro s printed
  generalize ran : (Session.opened path false).runText (fileRoom limit) (Text.unifyLineEnds text) = p
    at out ends
  rw [Session.printed_hidden rfl] at out
  cases ends with
  | @failed e n error ends failure handler =>
    have failed : s.error = some e := error
    simp only [failed]
    refine ⟨n, ends, ?_⟩
    rw [runFile_of_failure named style ran failure handler, out]
    rfl
  | short error visible failure handler =>
    have passed : s.error = none := error
    simp only [passed]
    rw [runFile_of_failure named style ran failure handler, out, report_unterminated,
      if_neg (by simp [visible])]
    rfl
  | done error blank failure env =>
    have passed : s.error = none := error
    simp only [passed]
    rw [runFile_of_done named style ran failure, out, if_pos blank]
    rfl

/-- The name stands on the second line, its terminator on the third. -/
theorem unbound_at_third_line :
    let text : Text := ['1', ';', ';', '\n', 'x', '\n', ';', ';', '2', ';', ';']
    let lines : List Text := [['1', ';', ';'], ['x'], [';', ';', '2', ';', ';']]
    ['f'] ≠ Session.inputPath ∧
      (∃ pieces rest, Cuts (Text.join ['\n'] lines) pieces rest ∧
        (series (fileRoom callLimit) .empty (pieces.map ended)).error = some (.eval (.unbound ['x'])) ∧
        ∃ n, EndsIn [] lines ((pieces.take 2).flatMap ended) n ∧
          (runFile callLimit .plain ['f'] false (some text)).2 = .exit 1) ∧
      runFile callLimit .plain ['f'] false (some text) =
        (Text.line "- : int = 1" ++ (Text.line "File 'f', line 3:" ++
          Text.line "Error: unbound value 'x'"), .exit 1) := by
  intro text lines
  have named : (['f'] : Text) ≠ Session.inputPath := by decide
  refine ⟨named, ?_, by decide +kernel⟩
  obtain ⟨pieces, rest, cuts, ends⟩ := runFile_eq_series callLimit named .plain text
  have split : Text.fileLines (Text.unifyLineEnds text) = lines := by decide +kernel
  rw [split] at cuts ends
  have found : pieces.map ended = [ended ['1'], ended ['\n', 'x', '\n'], ended ['2']] :=
    (congrArg Prod.fst (Statement.split_of_cuts cuts)).symm.trans (by decide +kernel)
  have error : (series (fileRoom callLimit) .empty (pieces.map ended)).error =
      some (.eval (.unbound ['x'])) := by
    rw [found]
    decide +kernel
  have count : (series (fileRoom callLimit) .empty (pieces.map ended)).outputs.length = 1 := by
    rw [found]
    decide +kernel
  simp only [error, count] at ends
  obtain ⟨n, ends, ran⟩ := ends
  exact ⟨pieces, rest, cuts, error, n, ends, by rw [ran]⟩

end Program

end LetLang
