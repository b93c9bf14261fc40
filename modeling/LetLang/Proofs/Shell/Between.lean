import LetLang.Program
import LetLang.Proofs.Failing
import LetLang.Proofs.Shell.Journal

/-! # Shells between lines

A shell that has answered a line is told by its bindings and by the text that waits: its prompt
follows from the text, and all else is as it was when the shell was new. The main statements are
that this holds behind any lines, of which only the end of the input and a directive to quit stop
the shell, and that a reset makes the shell a new one.
-/
namespace LetLang

open Statement (Unterminated terminator series)

theorem Session.shortRuns_complete {s : Session} {line : Text} (waiting : s.pending.ShortRuns)
    (short : line.ShortRuns) :
    (∀ statement ∈ (s.complete line).1, statement.ShortRuns) ∧
      (s.complete line).2.pending.ShortRuns := by
  have whole : (s.opening ++ line).ShortRuns := by
    unfold opening
    split
    · exact short
    · rw [List.append_assoc]
      exact waiting.append_cons (by decide) short
  obtain ⟨statements, rest⟩ := s.infix_of_complete line
  exact ⟨fun statement member => whole.of_infix (statements statement member), whole.of_infix rest⟩

namespace Shell

/-- The name of a directive at the front of a line, and the line behind it. -/
inductive Directs (line : Text) : Text → Text → Prop
  | alone : Unterminated line → Directs line (Text.strip line) []
  | ended {front behind} : line = front ++ terminator ++ behind → Unterminated (front ++ [';']) →
      Directs line (Text.strip front) (Text.strip behind)

/-- A stripped line of directives that comes to the one that quits, with room for the calls by which
it is reached. -/
inductive Quits : Nat → Text → Prop
  | here {room line rest} : line.head? = some '#' → Directs line "#quit" rest → Quits room line
  | behind {room line name rest} : line.head? = some '#' → Directs line name rest →
      Quits room rest → Quits (room + 1) line

/-- A stripped line with more behind its directives than there is room to go on with. -/
inductive Exceeds : Nat → Text → Prop
  | here {line name rest} : line.head? = some '#' → Directs line name rest → name ≠ "#quit" →
      rest ≠ [] → Exceeds 0 line
  | behind {room line name rest} : line.head? = some '#' → Directs line name rest →
      name ≠ "#quit" → Exceeds room rest → Exceeds (room + 1) line

theorem directs_cutDirective (line : Text) :
    Directs line (cutDirective line).1 (cutDirective line).2 := by
  unfold cutDirective
  cases cut : Statement.cut? line with
  | none => exact .alone (Statement.unterminated_of_cut?_eq_none cut)
  | some parts =>
    obtain ⟨split, first⟩ := Statement.cut?_eq_some_iff.mp cut
    exact .ended split first

theorem Directs.cutDirective_eq {line name rest : Text} (h : Directs line name rest) :
    cutDirective line = (name, rest) := by
  unfold cutDirective
  cases h with
  | alone none => rw [Statement.cut?_eq_none none]
  | ended split first => rw [Statement.cut?_eq_some_iff.mpr ⟨split, first⟩]

theorem Directs.parts {line name rest : Text} (h : Directs line name rest) :
    name <:+: line ∧ rest <:+: line := by
  cases h with
  | alone => exact ⟨Text.infix_strip line, List.nil_infix⟩
  | @ended front behind split =>
    have front_part : front <:+: line := by
      rw [split, List.append_assoc]
      exact (List.prefix_append front _).isInfix
    have behind_part : behind <:+: line := by
      rw [split]
      exact (List.suffix_append _ behind).isInfix
    exact ⟨(Text.infix_strip front).trans front_part, (Text.infix_strip behind).trans behind_part⟩

/-- What a line of directives comes to is told by its first directive. -/
theorem quits_iff {room : Nat} {line : Text} (hash : line.head? = some '#') :
    Quits room line ↔ (cutDirective line).1 = "#quit" ∨
      ∃ less, room = less + 1 ∧ Quits less (cutDirective line).2 := by
  constructor
  · intro quits
    cases quits with
    | here _ directs => exact .inl (by rw [directs.cutDirective_eq])
    | behind _ directs later => exact .inr ⟨_, rfl, by rwa [directs.cutDirective_eq]⟩
  · rintro (quit | ⟨less, rfl, later⟩)
    · have directs := directs_cutDirective line
      rw [quit] at directs
      exact .here hash directs
    · exact .behind hash (directs_cutDirective line) later

theorem Quits.head {room : Nat} {line : Text} (h : Quits room line) : line.head? = some '#' := by
  cases h <;> assumption

theorem Exceeds.head {room : Nat} {line : Text} (h : Exceeds room line) : line.head? = some '#' := by
  cases h <;> assumption

/-- The shell between two lines that has these bindings and in which this text waits. -/
def between (showEnv : Bool) (env : Env) (pending : Text) : Shell :=
  ⟨⟨Session.inputPath, true, showEnv, ⟨false, none⟩, env, [], pending⟩,
    if pending.isEmpty then newPrompt else waitingPrompt⟩

/-- A shell that has come about and stands between two lines. -/
structure Waits (showEnv : Bool) (sh : Shell) : Prop where
  reached : sh.session.Reachable
  told : sh = between showEnv sh.session.env sh.session.pending

theorem waits_new (fatal showEnv : Bool) : (Shell.new ⟨fatal, none⟩ showEnv).Waits showEnv :=
  ⟨Session.reachable_typed ⟨fatal, none⟩ showEnv, rfl⟩

variable (style : Style) {room : Nat} {showEnv : Bool} {sh : Shell}

theorem Waits.settled (h : sh.Waits showEnv) : sh.Settled showEnv := by
  refine ⟨?_, ?_, ?_, ?_, h.reached⟩ <;> rw [h.told] <;> rfl

theorem takesDirective_iff {line : Text} :
    sh.takesDirective line = true ↔ sh.session.pending = [] ∧ line.head? = some '#' := by
  rw [takesDirective, Bool.and_eq_true, List.isEmpty_iff, beq_iff_eq]

theorem Waits.prompt_iff (h : sh.Waits showEnv) :
    sh.prompt = waitingPrompt ↔ sh.session.pending ≠ [] := by
  have prompt : sh.prompt = if sh.session.pending.isEmpty then newPrompt else waitingPrompt :=
    congrArg Shell.prompt h.told
  rw [prompt]
  cases sh.session.pending with
  | nil => exact ⟨fun same => absurd same (by decide), fun some => absurd rfl some⟩
  | cons c pending => exact ⟨fun _ => List.cons_ne_nil c pending, fun _ => rfl⟩

theorem Waits.location (h : sh.Waits showEnv) : sh.session.handler.location = none := by
  rw [h.told]
  rfl

theorem Waits.statements (h : sh.Waits showEnv) (room : Nat) (line : Text) {s : Series}
    (comes : series room sh.session.env (sh.session.complete line).1 = s) :
    (sh.statements style room line).stop = false ∧
      (sh.statements style room line).ending = s.error.elim .ok (fun e => e.failure.ending style) ∧
      (sh.statements style room line).shell =
        between showEnv s.left (sh.session.complete line).2.pending := by
  have ran := h.settled.runStatements_eq room line
  rw [comes] at ran
  obtain ⟨_, told⟩ := h
  generalize sh.session.env = env, sh.session.pending = pending at told
  subst told
  unfold Shell.statements
  simp only [ran]
  obtain ⟨outputs, left, _ | e⟩ := s
  · exact ⟨rfl, rfl, rfl⟩
  · simp only [guard, Option.map_some, Handler.settle_failed]
    exact ⟨trivial, rfl, rfl⟩

theorem diagnostic_unknown (name : Text) :
    (unknown name).diagnostic style =
      .ok ⟨.generic, "unknown directive '" ++ name ++ "'",
        "unknown directive '" ++ style.bold name ++ "'", name, 0, name.length, false, false⟩ := rfl

/-- Of the directives one stops the shell, and another one makes it new. -/
theorem Waits.directive (h : sh.Waits showEnv) (empty : sh.session.pending = []) (name : Text) :
    (sh.directive style name).stop = decide (name = "#quit") ∧
      (sh.directive style name).ending = .ok ∧
      (sh.directive style name).shell =
        if name = "#reset" then between showEnv .empty [] else sh := by
  obtain ⟨_, told⟩ := h
  rw [empty] at told
  generalize sh.session.env = env at told
  subst told
  unfold Shell.directive
  by_cases quit : name = "#quit"
  · simp only [quit]
    exact ⟨rfl, rfl, rfl⟩
  by_cases bindings : name = "#env"
  · simp only [bindings]
    exact ⟨rfl, rfl, rfl⟩
  by_cases reset : name = "#reset"
  · simp only [reset]
    exact ⟨rfl, rfl, rfl⟩
  by_cases help : name = "#help"
  · simp only [help]
    exact ⟨rfl, rfl, rfl⟩
  · have ending := Failure.ending_of_diagnostic (diagnostic_unknown style name)
    simp only [quit, bindings, reset, help, if_false, guard, Handler.settle_failed]
    exact ⟨rfl, ending, rfl⟩

theorem Waits.of_eq {env : Env} {pending : Text} (reached : sh.session.Reachable)
    (told : sh = between showEnv env pending) : sh.Waits showEnv := by
  subst told
  exact ⟨reached, rfl⟩

theorem Waits.after_statements (h : sh.Waits showEnv) (room : Nat) (line : Text) :
    (sh.statements style room line).shell.Waits showEnv := by
  obtain ⟨_, _, told⟩ := h.statements style room line rfl
  exact .of_eq (h.settled.statements style room line).settled.reached told

theorem Waits.after_directive (h : sh.Waits showEnv) (empty : sh.session.pending = [])
    (name : Text) : (sh.directive style name).shell.Waits showEnv := by
  obtain ⟨_, _, told⟩ := h.directive style empty name
  rw [told]
  split
  · exact waits_new false showEnv
  · exact h

theorem Waits.halts_directive (h : sh.Waits showEnv) (empty : sh.session.pending = [])
    (name : Text) : (sh.directive style name).halts = decide (name = "#quit") := by
  obtain ⟨stop, ending, _⟩ := h.directive style empty name
  rw [Reply.halts, stop, ending, bne_self_eq_false, Bool.or_false]

theorem Waits.ne_quit (h : sh.Waits showEnv) (empty : sh.session.pending = []) {name : Text}
    (goes : ¬ (sh.directive style name).halts = true) : ¬ name = "#quit" := by
  rwa [h.halts_directive style empty, decide_eq_true_iff] at goes

theorem pending_directive (empty : sh.session.pending = []) (name : Text) :
    (sh.directive style name).shell.session.pending = [] := by
  unfold directive
  split
  · exact empty
  split
  · exact empty
  split
  · rfl
  split
  · exact empty
  · exact empty

theorem shortRuns_directive (empty : sh.session.pending = []) (name : Text) :
    (sh.directive style name).shell.session.pending.ShortRuns := by
  rw [pending_directive style empty]
  exact Text.shortRuns_nil

theorem Waits.command (h : sh.Waits showEnv) (room : Nat) (line : Text) :
    ((sh.command style room line).stop = true ↔ sh.session.pending = [] ∧ Quits room line) ∧
      (sh.command style room line).shell.Waits showEnv := by
  -- one directive after the other: nothing waits behind any of them, so that the next is one as well
  fun_induction Shell.command style room sh line with
  | case1 room sh line takes r halts =>
    obtain ⟨empty, hash⟩ := takesDirective_iff.mp takes
    have quit : (cutDirective line).1 = "#quit" :=
      of_decide_eq_true ((h.halts_directive style empty _).symm.trans halts)
    obtain ⟨stop, _⟩ := h.directive style empty (cutDirective line).1
    rw [stop, decide_eq_true_iff, quits_iff hash]
    exact ⟨⟨fun _ => ⟨empty, .inl quit⟩, fun _ => quit⟩, h.after_directive style empty _⟩
  | case2 room sh line takes r goes none =>
    obtain ⟨empty, hash⟩ := takesDirective_iff.mp takes
    have other := h.ne_quit style empty goes
    obtain ⟨stop, _⟩ := h.directive style empty (cutDirective line).1
    have last (less : Nat) : ¬ Quits less (cutDirective line).2 := fun quits => by
      rw [none] at quits
      exact absurd quits.head (by decide)
    rw [stop, decide_eq_true_iff, quits_iff hash]
    refine ⟨⟨fun quit => absurd quit other, ?_⟩, h.after_directive style empty _⟩
    rintro ⟨_, quit | ⟨less, _, quits⟩⟩
    · exact absurd quit other
    · exact absurd quits (last less)
  | case3 sh line takes r goes more =>
    obtain ⟨empty, hash⟩ := takesDirective_iff.mp takes
    have other := h.ne_quit style empty goes
    obtain ⟨stop, _⟩ := h.directive style empty (cutDirective line).1
    refine ⟨?_, h.after_directive style empty _⟩
    have goes' : ¬ r.stop = true := by rwa [stop, decide_eq_true_iff]
    refine iff_of_false goes' ?_
    rw [quits_iff hash, or_iff_right other]
    rintro ⟨_, less, spent, _⟩
    cases spent
  | case4 sh line takes r goes more room ih =>
    obtain ⟨empty, hash⟩ := takesDirective_iff.mp takes
    have other := h.ne_quit style empty goes
    have waits : r.shell.Waits showEnv := h.after_directive style empty _
    have still : r.shell.session.pending = [] := pending_directive style empty _
    obtain ⟨stop, later⟩ := ih waits
    refine ⟨?_, later⟩
    rw [quits_iff hash, or_iff_right other]
    refine stop.trans ?_
    rw [and_iff_right still, and_iff_right empty]
    constructor
    · intro quits
      exact ⟨room, rfl, quits⟩
    · rintro ⟨less, same, quits⟩
      cases same
      exact quits
  | case5 room sh line plain =>
    obtain ⟨stop, _, _⟩ := h.statements style room line rfl
    refine ⟨?_, h.after_statements style room line⟩
    rw [stop]
    refine ⟨fun stops => absurd stops Bool.false_ne_true, ?_⟩
    rintro ⟨empty, quits⟩
    exact absurd (takesDirective_iff.mpr ⟨empty, quits.head⟩) plain

/-- A line with short runs of digits lets a crash escape only if it has more directives than there
is room for, and no long runs come about in what waits. -/
theorem Waits.command_short (h : sh.Waits showEnv) (room : Nat) {line : Text}
    (waiting : sh.session.pending.ShortRuns) (short : line.ShortRuns) :
    ((sh.command style room line).ending = .ok ∨
        (sh.command style room line).ending = .crashed .recursion ∧ sh.session.pending = [] ∧
          Exceeds room line) ∧
      (sh.command style room line).shell.session.pending.ShortRuns := by
  fun_induction Shell.command style room sh line with
  | case1 room sh line takes r halts | case2 room sh line takes r goes none =>
    obtain ⟨empty, _⟩ := takesDirective_iff.mp takes
    obtain ⟨_, ending, _⟩ := h.directive style empty (cutDirective line).1
    exact ⟨.inl ending, shortRuns_directive style empty _⟩
  | case3 sh line takes r goes more =>
    obtain ⟨empty, hash⟩ := takesDirective_iff.mp takes
    have other := h.ne_quit style empty goes
    exact ⟨.inr ⟨rfl, empty, .here hash (directs_cutDirective line) other more⟩,
      shortRuns_directive style empty _⟩
  | case4 sh line takes r goes more room ih =>
    obtain ⟨empty, hash⟩ := takesDirective_iff.mp takes
    have other := h.ne_quit style empty goes
    have nothing : r.shell.session.pending.ShortRuns := shortRuns_directive style empty _
    have directs := directs_cutDirective line
    obtain ⟨ending, later⟩ :=
      ih (h.after_directive style empty _) nothing (short.of_infix directs.parts.2)
    refine ⟨ending.imp_right ?_, later⟩
    rintro ⟨crashed, _, exceeds⟩
    exact ⟨crashed, empty, .behind hash directs other exceeds⟩
  | case5 room sh line plain =>
    obtain ⟨parts, rest⟩ := Session.shortRuns_complete waiting short
    obtain ⟨_, ending, told⟩ := h.statements style room line rfl
    refine ⟨.inl ?_, told ▸ rest⟩
    rw [ending]
    cases error : (series room sh.session.env (sh.session.complete line).1).error with
    | none => rfl
    | some e =>
      obtain ⟨statement, member, _, fails⟩ := Statement.fails_of_series error
      exact fails.ending style (parts statement member)

theorem Waits.endInput (h : sh.Waits showEnv) (room : Nat) :
    (sh.endInput style room).stop = true ∧ (sh.endInput style room).ending = .ok := by
  unfold Shell.endInput
  cases empty : sh.session.pending.isEmpty with
  | true =>
    simp only [Session.flush, empty, if_true, and_self]
  | false =>
    have settled := h.settled
    have added := Session.add_flush room h.reached.tidy.unterminated none
    rw [Session.marked_typed settled.typed, Session.flush] at added
    have ending := Failure.ending_of_diagnostic
      (StatementError.diagnostic_unterminated style (Text.strip sh.session.pending))
    simp only [Session.flush, empty, added, guard, Handler.settle_failed, settled.forgiving, ending]
    exact ⟨rfl, rfl⟩

def goesOn (style : Style) (room : Nat) (sh : Shell) : List Text → Bool
  | [] => true
  | line :: rest => !(sh.feed style room line).stop && (sh.feed style room line).shell.goesOn style room rest

def replies (style : Style) (room : Nat) (sh : Shell) : List Text → List Reply
  | [] => []
  | line :: rest => sh.feed style room line :: (sh.feed style room line).shell.replies style room rest

theorem Waits.feed (h : sh.Waits showEnv) (room : Nat) (line : Text) :
    ((sh.feed style room line).stop = true ↔
        Text.strip line = endLine ∨ sh.session.pending = [] ∧ Quits room (Text.strip line)) ∧
      ((sh.feed style room line).stop = false → (sh.feed style room line).shell.Waits showEnv) := by
  unfold Shell.feed
  by_cases blank : Text.strip line = []
  · have last : ¬ Text.strip line = endLine := by
      rw [blank]
      decide
    have goes : ¬ Quits room (Text.strip line) := fun quits => by
      rw [blank] at quits
      exact absurd quits.head (by decide)
    simp only [if_pos blank, say, last, goes, and_false, or_false]
    exact ⟨by decide, fun _ => h⟩
  by_cases last : Text.strip line = endLine
  · obtain ⟨stop, _⟩ := h.endInput style room
    simp only [if_neg blank, if_pos last, stop]
    exact ⟨⟨fun _ => .inl last, fun _ => trivial⟩, fun goes => nomatch goes⟩
  · obtain ⟨stop, waits⟩ := h.command style room (Text.strip line)
    simp only [if_neg blank, if_neg last]
    exact ⟨stop.trans (or_iff_right last).symm, fun _ => waits⟩

theorem Waits.feed_short (h : sh.Waits showEnv) (room : Nat) {line : Text}
    (waiting : sh.session.pending.ShortRuns) (short : line.ShortRuns) :
    ((sh.feed style room line).ending = .ok ∨
        (sh.feed style room line).ending = .crashed .recursion ∧ sh.session.pending = [] ∧
          Exceeds room (Text.strip line)) ∧ ((sh.feed style room line).stop = false →
      (sh.feed style room line).shell.session.pending.ShortRuns) := by
  unfold Shell.feed
  by_cases blank : Text.strip line = []
  · simp only [if_pos blank]
    exact ⟨.inl rfl, fun _ => waiting⟩
  by_cases last : Text.strip line = endLine
  · obtain ⟨stop, ending⟩ := h.endInput style room
    simp only [if_neg blank, if_pos last, stop]
    exact ⟨.inl ending, fun goes => nomatch goes⟩
  · obtain ⟨ending, later⟩ :=
      h.command_short style room waiting (short.of_infix (Text.infix_strip line))
    simp only [if_neg blank, if_neg last]
    exact ⟨ending, fun _ => later⟩

theorem Waits.after (h : sh.Waits showEnv) {lines : List Text}
    (goes : sh.goesOn style room lines = true) : (sh.after style room lines).Waits showEnv := by
  induction lines generalizing sh with
  | nil => exact h
  | cons line rest ih =>
    rw [goesOn, Bool.and_eq_true, Bool.not_eq_true'] at goes
    exact ih ((h.feed style room line).2 goes.1) goes.2

theorem Waits.after_short (h : sh.Waits showEnv) {lines : List Text}
    (goes : sh.goesOn style room lines = true) (waiting : sh.session.pending.ShortRuns)
    (short : ∀ line ∈ lines, line.ShortRuns) :
    (sh.after style room lines).session.pending.ShortRuns := by
  induction lines generalizing sh with
  | nil => exact waiting
  | cons line rest ih =>
    rw [goesOn, Bool.and_eq_true, Bool.not_eq_true'] at goes
    obtain ⟨here, later⟩ := List.forall_mem_cons.mp short
    have waiting' := (h.feed_short style room waiting here).2 goes.1
    exact ih ((h.feed style room line).2 goes.1) goes.2 waiting' later

/-- Whatever lines a new shell is fed, unless a run of digits in them is too long to be read, no
crash escapes but the one of a line with more directives than there is room for. A line stops the
shell only if it ends the input, or if nothing waits and its directives come to the one that quits.
Behind any other line the prompt tells whether text waits, the text has no terminator and is not
blank, all results are read, and the handler has no location and is not fatal. -/
theorem line_leaves_shell_between (style : Style) (room : Nat) (fatal showEnv : Bool)
    {earlier : List Text} {line : Text}
    (goes : (Shell.new ⟨fatal, none⟩ showEnv).goesOn style room earlier = true)
    (short : ∀ l ∈ earlier ++ [line], l.ShortRuns) :
    let sh := (Shell.new ⟨fatal, none⟩ showEnv).after style room earlier
    let r := sh.feed style room line
    (r.ending = .ok ∨ r.ending = .crashed .recursion ∧ sh.session.pending = [] ∧
        Exceeds room (Text.strip line)) ∧
      (r.stop = true ↔
        Text.strip line = endLine ∨ sh.session.pending = [] ∧ Quits room (Text.strip line)) ∧
      (r.stop = false →
        (r.shell.prompt = waitingPrompt ↔ r.shell.session.pending ≠ []) ∧
        Unterminated r.shell.session.pending ∧
        (r.shell.session.pending ≠ [] → ∃ c ∈ r.shell.session.pending, Text.isBlank c = false) ∧
        r.shell.session.results = [] ∧ r.shell.session.handler.location = none ∧
        r.shell.session.handler.fatal = false) := by
  intro sh r
  obtain ⟨before, last⟩ := List.forall_mem_append.mp short
  have nothing : Text.ShortRuns [] := Text.shortRuns_of_length (Nat.zero_le _)
  have waits : sh.Waits showEnv := (waits_new fatal showEnv).after style goes
  have waiting := (waits_new fatal showEnv).after_short style goes nothing before
  obtain ⟨ending, _⟩ := waits.feed_short style room waiting (last line List.mem_cons_self)
  obtain ⟨stop, next⟩ := waits.feed style room line
  refine ⟨ending, stop, fun goes => ?_⟩
  have waits' : r.shell.Waits showEnv := next goes
  obtain ⟨unterminated, visible⟩ := waits'.reached.tidy
  refine ⟨waits'.prompt_iff, unterminated, visible.resolve_left, waits'.settled.read,
    waits'.location, waits'.settled.forgiving⟩

/-- A failing statement is passed, an unknown directive too, and text waits behind them. -/
theorem waiting_behind_failures :
    let room := Program.shellRoom Program.callLimit
    let sh := Shell.new ⟨true, none⟩ true
    let earlier : List Text := ["#foo;; #env;; 1 / 0;; 2;;", "x;;"]
    let line : Text := "let x = 1;; let y ="
    sh.goesOn .plain room earlier = true ∧ (∀ l ∈ earlier ++ [line], l.ShortRuns) ∧
      ((sh.after .plain room earlier).feed .plain room line).ending = .ok ∧
      ((sh.after .plain room earlier).feed .plain room line).stop = false ∧
      ((sh.after .plain room earlier).feed .plain room line).shell.session.pending = " let y =" ∧
      ((sh.after .plain room earlier).feed .plain room line).shell.prompt = waitingPrompt := by
  intro room sh earlier line
  have goes : sh.goesOn .plain room earlier = true := by decide +kernel
  have short : ∀ l ∈ earlier ++ [line], l.ShortRuns := by
    intro l member
    have lengths : (earlier ++ [line]).all (fun l => l.length ≤ 30) = true := by decide
    have here := of_decide_eq_true (List.all_eq_true.mp lengths l member)
    exact Text.shortRuns_of_length (Nat.le_trans here (by decide))
  have stop : ((sh.after .plain room earlier).feed .plain room line).stop = false := by decide +kernel
  have waits :
      ((sh.after .plain room earlier).feed .plain room line).shell.session.pending = " let y =" := by
    decide +kernel
  obtain ⟨ending, _, behind⟩ := line_leaves_shell_between .plain room true true goes short
  have few : ¬ Exceeds room (Text.strip line) := fun exceeds => absurd exceeds.head (by decide)
  have prompt := (behind stop).1.mpr (by rw [waits]; decide)
  exact ⟨goes, short, ending.resolve_right fun crashed => few crashed.2.2, stop, waits, prompt⟩

/-- The prompt is not reset, but it is that of a new shell already where nothing waits. -/
theorem Waits.feed_reset (h : sh.Waits showEnv) (room : Nat) (empty : sh.session.pending = []) :
    sh.feed style room "#reset;;" = (between showEnv .empty []).say [] := by
  have takes : sh.takesDirective "#reset;;" = true := takesDirective_iff.mpr ⟨empty, rfl⟩
  have cut : cutDirective "#reset;;" = (("#reset" : Text), []) := rfl
  have told := h.told
  rw [empty] at told
  have directed : sh.directive style "#reset" = (between showEnv .empty []).say [] := by
    rw [told]
    rfl
  have fed : sh.feed style room "#reset;;" = sh.command style room "#reset;;" := rfl
  rw [fed, Shell.command, if_pos takes]
  simp only [cut, directed, if_true, ite_self]

/-- Feeding #reset;; to a shell in which nothing waits makes it a new shell, whatever it was fed
before: what it answers to any further lines, and all that it keeps, is the same as if they were
the first. -/
theorem reset_forgets (style : Style) (room : Nat) (fatal fatal' showEnv : Bool) {earlier : List Text}
    (goes : (Shell.new ⟨fatal, none⟩ showEnv).goesOn style room earlier = true)
    (done : ((Shell.new ⟨fatal, none⟩ showEnv).after style room earlier).session.pending = [])
    (more : List Text) :
    let r := ((Shell.new ⟨fatal, none⟩ showEnv).after style room earlier).feed style room "#reset;;"
    r.out = [] ∧ r.ending = .ok ∧ r.stop = false ∧
      r.shell.replies style room more = (Shell.new ⟨fatal', none⟩ showEnv).replies style room more := by
  intro r
  have waits := (waits_new fatal showEnv).after style goes
  have fed : r = (between showEnv .empty []).say [] := waits.feed_reset style room done
  rw [fed]
  exact ⟨rfl, rfl, rfl, rfl⟩

/-- Behind a reset a name that a line has bound is unbound again. -/
theorem failing_lines_are_forgotten :
    let room := Program.shellRoom Program.callLimit
    let sh := Shell.new ⟨true, none⟩ false
    let earlier : List Text := ["let a = 1 / 0;; 2", ";;", "let b = 2;;"]
    sh.goesOn .plain room earlier = true ∧ (sh.after .plain room earlier).session.pending = [] ∧
      (sh.after .plain room earlier).session.env ≠ .empty ∧
      ((sh.after .plain room earlier).feed .plain room "#reset;;").shell.replies .plain room
          ["b;;", "1", ";;"] =
        sh.replies .plain room ["b;;", "1", ";;"] := by
  intro room sh earlier
  have goes : sh.goesOn .plain room earlier = true := by decide +kernel
  have done : (sh.after .plain room earlier).session.pending = [] := by decide +kernel
  obtain ⟨_, _, _, same⟩ := reset_forgets .plain room true true false goes done ["b;;", "1", ";;"]
  exact ⟨goes, done, by decide +kernel, same⟩

end Shell

end LetLang
