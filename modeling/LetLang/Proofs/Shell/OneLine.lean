import LetLang.Program
import LetLang.Proofs.Shell.Lines

/-! # Several statements on one line

A line is under guard as a whole, so the first statement that fails is the last one of its line that
is run. The main statement is that a line of whole statements comes to what its statements up to the
first failure come to on lines of their own, and that it loses those behind it.
-/
namespace LetLang

open Statement (Unterminated Cuts body ended series run)

namespace Statement

/-- A statement as it may be typed: its terminator stands at its end and nowhere else in it, and it
has no hash sign. -/
structure Typed (statement : Text) : Prop where
  whole : ∃ piece, statement = ended piece ∧ Unterminated (piece ++ [';'])
  noHash : '#' ∉ statement

/-- The statements up to the first one that fails. -/
def untilFailure (room : Nat) (env : Env) : List Text → List Text
  | [] => []
  | statement :: rest =>
    match run room statement env with
    | (.error _, _) => [statement]
    | (.ok _, left) => statement :: untilFailure room left rest

variable {room : Nat}

theorem untilFailure_of_error {statement : Text} {env left : Env} {e : StatementError}
    (h : run room statement env = (.error e, left)) (rest : List Text) :
    untilFailure room env (statement :: rest) = [statement] := by
  rw [untilFailure, h]

theorem untilFailure_of_ok {statement : Text} {env left : Env} {out : Output}
    (h : run room statement env = (.ok out, left)) (rest : List Text) :
    untilFailure room env (statement :: rest) = statement :: untilFailure room left rest := by
  rw [untilFailure, h]

theorem untilFailure_prefix (room : Nat) (env : Env) (statements : List Text) :
    untilFailure room env statements <+: statements := by
  induction statements generalizing env with
  | nil => exact List.prefix_rfl
  | cons statement rest ih =>
    rcases first : run room statement env with ⟨e | out, left⟩
    · rw [untilFailure_of_error first]
      exact ⟨rest, rfl⟩
    · rw [untilFailure_of_ok first]
      exact List.prefix_cons_inj statement |>.mpr (ih left)

theorem cuts_flatten {statements : List Text} (typed : ∀ s ∈ statements, Typed s) :
    ∃ pieces, statements = pieces.map ended ∧ Cuts statements.flatten pieces [] := by
  induction statements with
  | nil => exact ⟨[], rfl, .rest unterminated_nil⟩
  | cons statement rest ih =>
    obtain ⟨first, later⟩ := List.forall_mem_cons.mp typed
    obtain ⟨piece, rfl, none⟩ := first.whole
    obtain ⟨pieces, rfl, cuts⟩ := ih later
    exact ⟨piece :: pieces, rfl, .piece none cuts⟩

theorem typed_ended {piece : Text} (noMark : ';' ∉ piece) (noHash : '#' ∉ piece) :
    Typed (ended piece) := by
  refine ⟨⟨piece, rfl, ?_⟩, ?_⟩
  · exact unterminated_semicolon noMark
  · rw [ended, List.mem_append, not_or]
    exact ⟨noHash, by decide⟩

theorem Typed.cuts {statement : Text} (h : Typed statement) :
    ∃ piece, statement = ended piece ∧ Cuts statement [piece] [] := by
  obtain ⟨piece, rfl, none⟩ := h.whole
  have cuts : Cuts (piece ++ terminator ++ []) [piece] [] := .piece none (.rest unterminated_nil)
  rw [List.append_nil] at cuts
  exact ⟨piece, rfl, cuts⟩

theorem hash_not_mem_flatten {statements : List Text} (typed : ∀ s ∈ statements, Typed s) :
    '#' ∉ statements.flatten := by
  intro member
  obtain ⟨statement, listed, within⟩ := List.mem_flatten.mp member
  exact (typed statement listed).noHash within

end Statement

open Statement (Typed untilFailure)

/-- A session in which nothing waits completes the statements of a line, up to the blanks around
them, and nothing waits behind it. -/
theorem Session.complete_strip {s : Session} (fresh : s.pending = []) {line : Text}
    {pieces : List Text} (cuts : Cuts line pieces []) :
    (s.complete (Text.strip line)).1.map body = (pieces.map ended).map body ∧
      (s.complete (Text.strip line)).2 = s := by
  obtain ⟨front, back, split, blankFront, blankBack⟩ := Text.exists_strip line
  have opens : s.Opens front := ⟨front, blankFront, by simp [opening, fresh]⟩
  obtain ⟨others, rest, cuts', bodies, gap, _, keeps⟩ := opens.complete (Text.strip line)
  -- blanks behind the last terminator do not matter, as the line has nothing else there
  have noMark : ';' ∉ back := semicolon_not_mem blankBack
  have behind : Unterminated (rest ++ back) :=
    cuts'.unterminated_rest.append_of_head (Statement.unterminated_of_not_mem noMark) fun head =>
      noMark (List.mem_of_mem_head? head)
  have whole := cuts'.append (.rest behind)
  rw [List.append_assoc, ← split, List.append_nil] at whole
  obtain ⟨rfl, none⟩ := whole.unique cuts
  have waits : (s.complete (Text.strip line)).2.pending = [] :=
    (List.append_eq_nil_iff.mp (keeps.symm.trans (List.append_eq_nil_iff.mp none).1)).2
  refine ⟨?_, ?_⟩
  · rw [bodies, map_body_ended cuts.unterminated_piece]
  · have same : (s.complete (Text.strip line)).2 =
        { s with pending := (s.complete (Text.strip line)).2.pending } := rfl
    rw [same, waits, ← fresh]

namespace Shell

variable (style : Style) {room : Nat} {showEnv : Bool} {sh : Shell}

def past (sh : Shell) (s : Series) : Shell :=
  ⟨{ sh.session with
      env := s.left
      handler := if s.error.isSome then sh.session.handler.forget else sh.session.handler },
    newPrompt⟩

theorem Settled.feed_whole (h : sh.Settled showEnv) (fresh : sh.session.pending = []) {line : Text}
    {pieces : List Text} (cuts : Cuts line pieces []) (some : pieces ≠ []) (noHash : '#' ∉ line) :
    let s := series room sh.session.env (pieces.map ended)
    sh.journal style room line = ran sh.session.handler.location s ∧
      (sh.feed style room line).shell = sh.past s := by
  intro s
  obtain ⟨bodies, session⟩ := Session.complete_strip fresh cuts
  have same : series room sh.session.env (sh.session.complete (Text.strip line)).1 = s :=
    Statement.series_congr bodies _
  have completes : (sh.session.complete (Text.strip line)).1 ≠ [] := by
    intro none
    rw [none] at bodies
    exact some (List.map_eq_nil_iff.mp (List.map_eq_nil_iff.mp bodies.symm))
  have visible : ¬ Text.strip line = [] := by
    intro blank
    rw [blank, Session.complete, fresh] at completes
    exact completes rfl
  have goesOn : ¬ Text.strip line = endLine := by
    intro last
    rw [last, Session.complete, fresh] at completes
    exact completes rfl
  obtain ⟨fed, told⟩ := @feed_ordinary style room sh line ⟨noHash, goesOn⟩ visible
  refine ⟨?_, ?_⟩
  · rw [told, completed, same]
  · have progress := h.runStatements_eq room (Text.strip line)
    rw [same, session] at progress
    simp only [fed, Shell.statements, session, fresh, progress, Shell.guard, past]
    cases s.error with
    | none => rfl
    | some e =>
      simp only [Option.map_some, Handler.settle_failed, h.forgiving]
      rfl

theorem Settled.feed_typed (h : sh.Settled showEnv) (fresh : sh.session.pending = [])
    {statement : Text} (typed : Typed statement) :
    let s := series room sh.session.env [statement]
    sh.journal style room statement = ran sh.session.handler.location s ∧
      (sh.feed style room statement).shell = sh.past s := by
  obtain ⟨piece, rfl, cuts⟩ := typed.cuts
  exact h.feed_whole style fresh cuts (List.cons_ne_nil piece []) typed.noHash

theorem Settled.feed_untilFailure (h : sh.Settled showEnv) (fresh : sh.session.pending = [])
    {statements : List Text} (typed : ∀ s ∈ statements, Typed s) (some : statements ≠ []) :
    let s := series room sh.session.env statements
    let lines := untilFailure room sh.session.env statements
    sh.journals style room lines = ran sh.session.handler.location s ∧
      sh.after style room lines = sh.past s := by
  induction statements generalizing sh with
  | nil => exact absurd rfl some
  | cons statement rest ih =>
    obtain ⟨here, later⟩ := List.forall_mem_cons.mp typed
    obtain ⟨journal, shell⟩ := h.feed_typed style fresh here
    have settled : (sh.feed style room statement).shell.Settled showEnv :=
      (h.feed style room statement).settled
    rcases first : run room statement sh.session.env with ⟨e | out, left⟩
    · rw [Statement.series_of_error first] at journal shell
      rw [Statement.series_of_error first, Statement.untilFailure_of_error first]
      refine ⟨?_, shell⟩
      rw [journals, journal]
      exact List.append_nil _
    · have alone : series room sh.session.env [statement] = ⟨[(out, left)], left, none⟩ :=
        Statement.series_of_ok first []
      have whole : series room sh.session.env (statement :: rest) =
          Series.append ⟨[(out, left)], left, none⟩ (series room left rest) :=
        Statement.series_of_ok first rest
      rw [alone] at journal shell
      rw [shell] at settled
      rw [whole, Statement.untilFailure_of_ok first]
      by_cases last : rest = []
      · subst last
        refine ⟨?_, shell⟩
        rw [untilFailure, journals, journal]
        exact List.append_nil _
      · -- nothing waits behind the statement either, so the rest is run from a shell like this one
        obtain ⟨journal_rest, shell_rest⟩ := ih settled fresh later last
        refine ⟨?_, ?_⟩
        · rw [journals, journal, shell, ran_append rfl]
          exact congrArg _ journal_rest
        · have next : sh.after style room (statement :: untilFailure room left rest) =
              (sh.feed style room statement).shell.after style room (untilFailure room left rest) := rfl
          rw [next, shell]
          exact shell_rest

/-- Every statement that is fed is answered with a line, its result or the report of its failure. -/
theorem Settled.prints_ne_nil (h : sh.Settled showEnv) (fresh : sh.session.pending = [])
    {statement : Text} (typed : Typed statement) (rest : List Text) :
    sh.prints style room (statement :: rest) ≠ [] := by
  have visible (t u : Text) : Text.line t ++ u ≠ [] := by simp [Text.line]
  have out := (h.feed style room statement).out
  rw [(h.feed_typed style fresh typed).1] at out
  rw [prints, out]
  rcases first : run room statement sh.session.env with ⟨e | result, left⟩
  · rw [Statement.series_of_error first]
    simp only [ran, List.map_nil, List.nil_append, List.flatMap_singleton, Entry.text,
      Handler.report]
    exact visible _ _
  · rw [Statement.series_of_ok first]
    simp only [ran, Statement.series, List.map_cons, List.map_nil, List.append_nil,
      List.flatMap_singleton, Entry.text, Session.printed, List.append_assoc]
    exact visible _ _

/-- Statements on one line come to what they come to on lines of their own up to the first that
fails: the same is printed, and the same shell is left. Those behind it are lost, and each of them
would have been answered, so nothing is lost exactly if only the last statement fails, or none. -/
theorem one_line_runs_untilFailure (room : Nat) (h : sh.Settled showEnv)
    (fresh : sh.session.pending = [])
    {statements : List Text} (typed : ∀ s ∈ statements, Typed s) :
    let line := statements.flatten
    let lines := untilFailure room sh.session.env statements
    sh.prints style room [line] = sh.prints style room lines ∧
      sh.after style room [line] = sh.after style room lines ∧
      (sh.after style room [line]).session.pending = [] ∧
      (sh.prints style room [line] = sh.prints style room statements ↔ lines = statements) := by
  intro line lines
  by_cases none : statements = []
  · subst none
    exact ⟨rfl, rfl, fresh, iff_of_true rfl rfl⟩
  obtain ⟨pieces, ended, cuts⟩ := Statement.cuts_flatten typed
  have some : pieces ≠ [] := by
    rintro rfl
    exact none ended
  obtain ⟨journal, shell⟩ :=
    h.feed_whole style fresh cuts some (Statement.hash_not_mem_flatten typed)
  rw [← ended] at journal shell
  obtain ⟨journal_lines, shell_lines⟩ := h.feed_untilFailure style fresh typed none
  have prints : sh.prints style room [line] = sh.prints style room lines := by
    have alone : sh.journals style room [line] = sh.journal style room line := List.append_nil _
    rw [h.prints_eq, h.prints_eq, alone, journal, journal_lines]
  have after : sh.after style room [line] = sh.after style room lines := shell.trans shell_lines.symm
  have left : (sh.after style room lines).session.pending = [] := by
    rw [shell_lines]
    exact fresh
  refine ⟨prints, after, after ▸ left, ?_⟩
  obtain ⟨lost, whole⟩ := Statement.untilFailure_prefix room sh.session.env statements
  have split : statements = lines ++ lost := whole.symm
  rw [prints]
  constructor
  · intro same
    rw [split, prints_append] at same
    have silent : (sh.after style room lines).prints style room lost = [] :=
      List.self_eq_append_right.mp same
    cases lost with
    | nil => rw [split, List.append_nil]
    | cons statement rest =>
      have listed : statement ∈ statements := split ▸ by simp
      exact absurd silent
        ((h.after style room lines).prints_ne_nil style left (typed statement listed) rest)
  · intro same
    rw [same]

theorem typed_division : ∀ s ∈ [ended "1 / 0", ended " 2"], Typed s := by
  intro s listed
  rcases List.mem_cons.mp listed with rfl | later
  · exact Statement.typed_ended (by decide) (by decide)
  · rw [List.mem_singleton.mp later]
    exact Statement.typed_ended (by decide) (by decide)

theorem division_ends_line :
    let room := Program.shellRoom Program.callLimit
    let sh := Shell.new .initial false
    let statements := [ended "1 / 0", ended " 2"]
    sh.Settled false ∧ sh.session.pending = [] ∧ (∀ s ∈ statements, Typed s) ∧
      sh.prints .plain room [statements.flatten] = sh.prints .plain room [ended "1 / 0"] ∧
      sh.prints .plain room [statements.flatten] ≠ sh.prints .plain room statements := by
  intro room sh statements
  have settled : sh.Settled false := settled_new .initial false
  have first : untilFailure room sh.session.env statements = [ended "1 / 0"] := by decide +kernel
  obtain ⟨prints, _, _, kept⟩ := one_line_runs_untilFailure .plain room settled rfl typed_division
  rw [first] at prints kept
  refine ⟨settled, rfl, typed_division, prints, ?_⟩
  rw [Ne, kept]
  decide

/-- A statement behind one that fails on its line is read but not run. -/
theorem statement_behind_failure_is_lost :
    let room := Program.shellRoom Program.callLimit
    ¬ ∀ (style : Style) (showEnv : Bool) (sh : Shell) (statements : List Text),
      sh.Settled showEnv → sh.session.pending = [] →
      (∀ s ∈ statements, Typed s ∧ (∀ c ∈ s, Text.endsFileLine c = false) ∧
        ∀ digits, digits <:+: s → (∀ c ∈ digits, c.isDigit = true) →
          digits.length ≤ Numeral.maxDigits) →
      sh.prints style room [statements.flatten] = sh.prints style room statements ∧
        (sh.after style room [statements.flatten]).session.env =
          (sh.after style room statements).session.env ∧
        (sh.after style room [statements.flatten]).session.pending =
          (sh.after style room statements).session.pending := by
  intro room kept
  have oneLine : ∀ s ∈ [ended "1 / 0", ended " 2"],
      s.all (fun c => !Text.endsFileLine c) = true := by decide
  have short : ∀ s ∈ [ended "1 / 0", ended " 2"], s.length ≤ Numeral.maxDigits := by decide
  have same := kept .plain false (Shell.new .initial false) [ended "1 / 0", ended " 2"]
    (settled_new .initial false) rfl fun s listed =>
      ⟨typed_division s listed,
        fun c within => Bool.not_eq_true' _ ▸ List.all_eq_true.mp (oneLine s listed) c within,
        fun digits within _ => Nat.le_trans within.length_le (short s listed)⟩
  have differ : (Shell.new .initial false).prints .plain room [[ended "1 / 0", ended " 2"].flatten] ≠
      (Shell.new .initial false).prints .plain room [ended "1 / 0", ended " 2"] := by decide +kernel
  exact differ same.1

end Shell

end LetLang
