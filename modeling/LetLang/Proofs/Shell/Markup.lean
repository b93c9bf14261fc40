import LetLang.Proofs.Markup.Errors
import LetLang.Proofs.Room
import LetLang.Proofs.Shell.Between
import LetLang.Proofs.Shell.Range

/-! # Shells with and without colours

A shell that marks up what it prints goes through the same states as one that does not, and prints
the same but for the markup. The main statement says so of all lines without markup of their own,
and of the messages of all complaints whose templates show their subjects whole.
-/
namespace LetLang

open Text (Bare)
open Style (Erases erases_bare)
open Statement (series ended)

theorem Statement.bare_series (room : Nat) {env : Env} (h : env.Sound) (statements : List Text) :
    ∀ out ∈ (series room env statements).outputs, out.1.text.Bare ∧ out.2.Sound := by
  induction statements generalizing env with
  | nil => exact fun out member => absurd member List.not_mem_nil
  | cons statement rest ih =>
    rcases ran : run room statement env with ⟨e | out, left⟩
    · rw [series_of_error ran]
      exact fun out member => absurd member List.not_mem_nil
    · have sound : left.Sound := by
        have both := (sound_run room h statement).1
        rwa [ran] at both
      rw [series_of_ok ran]
      exact List.forall_mem_cons.mpr ⟨⟨bare_of_run ran, sound⟩, ih sound⟩

theorem Text.Bare.line {t : Text} (h : t.Bare) : (Text.line t).Bare :=
  Text.bare_append.mpr ⟨h, by decide⟩

theorem bare_flatMap {α : Type} {items : List α} {shown : α → Text}
    (h : ∀ item ∈ items, (shown item).Bare) : Bare (items.flatMap shown) := by
  intro member
  obtain ⟨item, listed, within⟩ := List.mem_flatMap.mp member
  exact h item listed within

namespace Session

theorem bare_envLines {s : Session} (h : s.env.Sound) : ∀ line ∈ s.envLines, line.Bare := by
  intro line listed
  obtain ⟨⟨name, value⟩, bound, rfl⟩ := List.mem_map.mp listed
  exact h.bare_text bound

theorem bare_envListing {s : Session} (h : s.env.Sound) : s.envListing.Bare := by
  unfold envListing
  split
  · exact Text.Bare.line (Text.bare_literal rfl)
  · refine bare_flatMap fun line listed => ?_
    exact (Text.bare_append.mpr ⟨Text.bare_literal rfl, bare_envLines h line listed⟩).line

theorem bare_printed (s : Session) {out : Output × Env} (text : out.1.text.Bare)
    (left : out.2.Sound) : (s.printed out).Bare := by
  refine Text.bare_append.mpr ⟨text.line, ?_⟩
  split
  · exact bare_envListing left
  · exact List.not_mem_nil

theorem bare_complete {s : Session} {line : Text} (waiting : s.pending.Bare) (bare : line.Bare) :
    (∀ statement ∈ (s.complete line).1, statement.Bare) ∧ (s.complete line).2.pending.Bare := by
  have whole : (s.opening ++ line).Bare := by
    unfold opening
    split
    · exact bare
    · exact Text.bare_append.mpr ⟨waiting.line, bare⟩
  obtain ⟨statements, rest⟩ := s.infix_of_complete line
  exact ⟨fun statement member => whole.of_subset (statements statement member).subset,
    whole.of_subset rest.subset⟩

end Session

namespace Shell

theorem bare_helpText : Bare helpText :=
  Text.bare_append.mpr ⟨Text.bare_append.mpr ⟨Text.bare_append.mpr ⟨Text.bare_append.mpr
    ⟨Text.bare_literal rfl, Text.bare_literal rfl⟩, Text.bare_literal rfl⟩, Text.bare_literal rfl⟩,
    Text.bare_literal rfl⟩

/-- A shell in which no markup waits, and that has no location to report. -/
structure Clean (showEnv : Bool) (sh : Shell) : Prop where
  settled : sh.Settled showEnv
  unlocated : sh.session.handler.location = none
  waiting : sh.session.pending.Bare

end Shell

/-- A reply that differs from another one only by the markup of what is printed. -/
structure Reply.Marks (marked plain : Reply) : Prop where
  out : Erases marked.out plain.out
  same : marked = { plain with out := marked.out }

def Reply.erased (r : Reply) : Reply := { r with out := Style.erase r.out }

namespace Reply.Marks

theorem erased_eq {marked plain : Reply} (h : marked.Marks plain) : marked.erased = plain := by
  rw [erased, h.same, h.out.erase_eq]

theorem of_bare {r : Reply} (h : r.out.Bare) : r.Marks r := ⟨erases_bare h, rfl⟩

theorem halts_eq {marked plain : Reply} (h : marked.Marks plain) : marked.halts = plain.halts := by
  rw [h.same]
  rfl

theorem shell_eq {marked plain : Reply} (h : marked.Marks plain) : marked.shell = plain.shell := by
  rw [h.same]

theorem after {marked plain : Reply} (h : marked.Marks plain) {out out' : Text}
    (front : Erases out out') : (marked.after out).Marks (plain.after out') := by
  refine ⟨front.append h.out, ?_⟩
  rw [Reply.after, h.same]
  rfl

theorem stop {marked plain : Reply} (h : marked.Marks plain) :
    Reply.Marks { marked with stop := marked.ending == .ok }
      { plain with stop := plain.ending == .ok } := by
  refine ⟨h.out, ?_⟩
  rw [h.same]

theorem crash {marked plain : Reply} (h : marked.Marks plain) (crash : Crash) :
    Reply.Marks { marked with ending := .crashed crash } { plain with ending := .crashed crash } := by
  refine ⟨h.out, ?_⟩
  rw [h.same]

end Reply.Marks

namespace Shell

variable {showEnv : Bool} {sh : Shell}

theorem marks_guard {p : Session.Progress} (bare : p.out.Bare)
    (unlocated : p.session.handler.location = none) (failed : ∀ f ∈ p.failure, f.Marks) :
    (sh.guard .colored p).Marks (sh.guard .plain p) := by
  cases failure : p.failure with
  | none =>
    have reply (style : Style) :
        sh.guard style p = ⟨p.out, .ok, false, { sh with session := p.session }⟩ := by
      simp only [guard, failure]
    rw [reply, reply]
    exact .of_bare bare
  | some f =>
    obtain ⟨reported, ending⟩ := failed f failure
    have report := Handler.erases_report reported unlocated
    simp only [guard, failure, Handler.settle_failed, ending]
    exact ⟨(erases_bare bare).append report, rfl⟩

theorem clean_guard {p : Session.Progress} (settled : (sh.guard .plain p).shell.Settled showEnv)
    (unlocated : p.session.handler.location = none) (waiting : p.session.pending.Bare) :
    (sh.guard .plain p).shell.Clean showEnv := by
  refine ⟨settled, ?_, ?_⟩
  · cases failure : p.failure with
    | none =>
      simp only [guard, failure]
      exact unlocated
    | some f =>
      simp only [guard, failure, Handler.settle_failed]
      split
      · exact unlocated
      · rfl
  · cases failure : p.failure with
    | none =>
      simp only [guard, failure]
      exact waiting
    | some f =>
      simp only [guard, failure]
      exact waiting

theorem marks_unknown {name : Text} (bare : name.Bare) : (unknown name).Marks :=
  Failure.marks_of_quoted (diagnostic_unknown · name)
    ⟨Text.bare_literal rfl, Text.bare_literal rfl⟩ bare bare

namespace Clean

theorem statements (h : sh.Clean showEnv) (room : Nat) {line : Text} (bare : line.Bare) :
    (sh.statements .colored room line).Marks (sh.statements .plain room line) ∧
      (sh.statements .plain room line).shell.Clean showEnv := by
  obtain ⟨parts, rest⟩ := Session.bare_complete h.waiting bare
  have ran := h.settled.runStatements_eq room line
  have settled := (h.settled.statements .plain room line).settled
  have results := Statement.bare_series room h.settled.reached.bounded.env (sh.session.complete line).1
  have failed : ∀ e, (series room sh.session.env (sh.session.complete line).1).error = some e →
      e.failure.Marks := by
    intro e error
    obtain ⟨statement, member, _, fails⟩ := Statement.fails_of_series error
    exact fails.marks (parts statement member)
  unfold Shell.statements at settled ⊢
  simp only [ran] at settled ⊢
  generalize series room sh.session.env (sh.session.complete line).1 = s at results failed settled ⊢
  refine ⟨marks_guard ?_ h.unlocated ?_, clean_guard settled h.unlocated rest⟩
  · exact bare_flatMap fun out listed =>
      sh.session.bare_printed (results out listed).1 (results out listed).2
  · intro failure member
    obtain ⟨e, error, rfl⟩ := Option.map_eq_some_iff.mp member
    exact failed e error

theorem directive (h : sh.Clean showEnv) {name : Text} (bare : name.Bare) :
    (sh.directive .colored name).Marks (sh.directive .plain name) ∧
      (sh.directive .plain name).shell.Clean showEnv := by
  have settled := (h.settled.directive .plain name).settled
  unfold Shell.directive at settled ⊢
  by_cases quit : name = "#quit"
  · simp only [if_pos quit] at settled ⊢
    exact ⟨.of_bare List.not_mem_nil, h⟩
  by_cases bindings : name = "#env"
  · simp only [if_neg quit, if_pos bindings] at settled ⊢
    have lines := Session.bare_envLines h.settled.reached.bounded.env
    exact ⟨.of_bare (bare_flatMap fun line listed => (lines line listed).line), h⟩
  by_cases reset : name = "#reset"
  · simp only [if_neg quit, if_neg bindings, if_pos reset] at settled ⊢
    exact ⟨.of_bare List.not_mem_nil, settled, h.unlocated, List.not_mem_nil⟩
  by_cases help : name = "#help"
  · simp only [if_neg quit, if_neg bindings, if_neg reset, if_pos help] at settled ⊢
    exact ⟨.of_bare bare_helpText.line, h⟩
  · simp only [if_neg quit, if_neg bindings, if_neg reset, if_neg help] at settled ⊢
    refine ⟨marks_guard List.not_mem_nil h.unlocated ?_, clean_guard settled h.unlocated h.waiting⟩
    intro failure member
    cases member
    exact marks_unknown bare

/-- Directives behind one another are answered alike, as each leaves the same shell to the next. -/
theorem command (h : sh.Clean showEnv) (room : Nat) {line : Text} (bare : line.Bare) :
    (sh.command .colored room line).Marks (sh.command .plain room line) ∧
      (sh.command .plain room line).shell.Clean showEnv := by
  -- the run without colours gives the cases; the other one takes them too, as its replies halt alike
  fun_induction Shell.command .plain room sh line with
  | case1 room sh line takes r halts =>
    have parts := (directs_cutDirective line).parts
    obtain ⟨marks, clean⟩ := h.directive (bare.of_subset parts.1.subset)
    rw [command_of_done .colored takes (.inl (marks.halts_eq.trans halts))]
    exact ⟨marks, clean⟩
  | case2 room sh line takes r goes none =>
    have parts := (directs_cutDirective line).parts
    obtain ⟨marks, clean⟩ := h.directive (bare.of_subset parts.1.subset)
    rw [command_of_done .colored takes (.inr none)]
    exact ⟨marks, clean⟩
  | case3 sh line takes r goes more =>
    have parts := (directs_cutDirective line).parts
    obtain ⟨marks, clean⟩ := h.directive (bare.of_subset parts.1.subset)
    rw [command_of_spent .colored takes (marks.halts_eq ▸ goes) more]
    exact ⟨marks.crash .recursion, clean⟩
  | case4 sh line takes r goes more room ih =>
    have parts := (directs_cutDirective line).parts
    obtain ⟨marks, clean⟩ := h.directive (bare.of_subset parts.1.subset)
    obtain ⟨later, clean⟩ := ih clean (bare.of_subset parts.2.subset)
    rw [command_of_behind .colored takes (marks.halts_eq ▸ goes) more, marks.shell_eq]
    exact ⟨later.after marks.out, clean⟩
  | case5 room sh line plain =>
    rw [Shell.command.eq_def, if_neg plain]
    exact h.statements room bare

theorem endInput (h : sh.Clean showEnv) (room : Nat) :
    (sh.endInput .colored room).Marks (sh.endInput .plain room) ∧
      (sh.endInput .plain room).shell.Clean showEnv := by
  have settled := (h.settled.endInput .plain room).settled
  have lineEnd : Bare ['\n'] := by decide
  unfold Shell.endInput at settled ⊢
  cases empty : sh.session.pending.isEmpty with
  | true =>
    simp only [Session.flush, empty, if_true] at settled ⊢
    exact ⟨.of_bare lineEnd, settled, h.unlocated, List.not_mem_nil⟩
  | false =>
    have unterminated := h.settled.reached.tidy.unterminated
    have fails : Statement.Fails room sh.session.pending sh.session.env _ _ := .unterminated unterminated
    have failed := fails.marks h.waiting
    have added := Session.add_flush room unterminated none
    rw [Session.marked_typed h.settled.typed, Session.flush] at added
    simp only [Session.flush, empty, Bool.false_eq_true, if_false, added] at settled ⊢
    have guarded := @marks_guard { sh with session := sh.session.flush.2 }
      ⟨[], sh.session.flush.2, some (StatementError.unterminated (Text.strip sh.session.pending)).failure⟩
      List.not_mem_nil h.unlocated fun f same => by
        cases same
        exact failed
    have clean := clean_guard settled h.unlocated List.not_mem_nil
    exact ⟨guarded.stop.after (erases_bare lineEnd), clean.settled, clean.unlocated, clean.waiting⟩

theorem feed (h : sh.Clean showEnv) (room : Nat) {line : Text} (bare : line.Bare) :
    (sh.feed .colored room line).Marks (sh.feed .plain room line) ∧
      (sh.feed .plain room line).shell.Clean showEnv := by
  unfold Shell.feed
  by_cases empty : Text.strip line = []
  · simp only [if_pos empty]
    exact ⟨.of_bare List.not_mem_nil, h⟩
  by_cases last : Text.strip line = endLine
  · simp only [if_neg empty, if_pos last]
    exact h.endInput room
  · simp only [if_neg empty, if_neg last]
    exact h.command room (bare.of_subset (Text.infix_strip line).subset)

theorem replies (h : sh.Clean showEnv) (room : Nat) {lines : List Text} (bare : ∀ line ∈ lines, line.Bare) :
    (sh.replies .colored room lines).map Reply.erased = sh.replies .plain room lines := by
  induction lines generalizing sh with
  | nil => rfl
  | cons line rest ih =>
    obtain ⟨here, later⟩ := List.forall_mem_cons.mp bare
    obtain ⟨marks, clean⟩ := h.feed room here
    rw [Shell.replies, Shell.replies, List.map_cons, marks.erased_eq, marks.shell_eq, ih clean later]

end Clean

end Shell

/-- Colours are decoration. A new shell that is fed lines without markup answers them alike with and
without colours: all replies are the same once the markup of what they print is erased. So are the
diagnostics of every complaint without markup whose template shows its subjects whole, and for any
template the underlined subjects. -/
theorem colours_are_decoration :
    (∀ (room : Nat) (fatal showEnv : Bool) (lines : List Text), (∀ line ∈ lines, line.Bare) →
      ((Shell.new ⟨fatal, none⟩ showEnv).replies .colored room lines).map Reply.erased =
        (Shell.new ⟨fatal, none⟩ showEnv).replies .plain room lines) ∧
    ∀ c : Complaint, c.template.Bare → (∀ s ∈ c.substitutes, s.Bare) →
      (Template.Whole c.template →
        (c.diagnostic .colored).map Diagnostic.erased = c.diagnostic .plain) ∧
      ∀ style d, c.diagnostic style = .ok d →
        Style.erase (d.underline .colored) = d.underline .plain := by
  constructor
  · intro room fatal showEnv lines bare
    have clean : (Shell.new ⟨fatal, none⟩ showEnv).Clean showEnv :=
      ⟨Shell.settled_new ⟨fatal, none⟩ showEnv, rfl, List.not_mem_nil⟩
    exact clean.replies room bare
  · intro c bare subjects
    constructor
    · intro whole
      have marks := Complaint.marks whole bare subjects
      cases colored : c.diagnostic .colored <;> cases plain : c.diagnostic .plain <;>
        rw [colored, plain] at marks
      · exact congrArg Except.error marks
      · exact marks.elim
      · exact marks.elim
      · exact congrArg Except.ok marks.erased_eq
    · intro style d made
      have among : d.subject ∈ c.substitutes :=
        List.mem_of_head? (Complaint.head?_substitutes made)
      exact (Diagnostic.erases_underline .colored (subjects _ among)).erase_eq

/-- A layout pads the marked-up subject, of which the width counts the markup, too. -/
theorem padding_counts_markup :
    ¬ ∀ c : Complaint, c.template.Bare → (∀ s ∈ c.substitutes, s.Bare) →
      (c.diagnostic .colored).map Diagnostic.erased = c.diagnostic .plain := by
  intro decoration
  have same := decoration (.about .generic "\x7b:>5\x7d" ["ab"]) (by decide) (by decide)
  exact absurd same (by decide +kernel)

/-- The lines fail in three ways, and the slots of the template are numbered and converted. -/
theorem coloured_reports_are_erased :
    let room := Program.shellRoom Program.callLimit
    let lines : List Text := ["let x = 1;; y;;", "x ? 2;;", "#foo;;"]
    let c : Complaint := ⟨.generic, "'\x7b1\x7d' of \x7b0!s\x7d", [.text "ab", .integer 7], 0, none,
      true, false⟩
    (∀ line ∈ lines, line.Bare) ∧ c.template.Bare ∧ (∀ s ∈ c.substitutes, s.Bare) ∧
      Template.Whole c.template ∧ (∃ d, c.diagnostic .colored = .ok d ∧ d.styled ≠ d.message ∧
        d.erased.styled = d.message ∧ Style.erase (d.underline .colored) = d.underline .plain) ∧
      ((Shell.new ⟨true, none⟩ true).replies .colored room lines).map Reply.erased =
        (Shell.new ⟨true, none⟩ true).replies .plain room lines := by
  intro room lines c
  have bare : ∀ line ∈ lines, line.Bare := by decide
  have template : c.template.Bare := Text.bare_literal rfl
  have subjects : ∀ s ∈ c.substitutes, s.Bare := by decide
  have whole : Template.Whole c.template := by
    have pieces : Template.pieces c.template = [.wording ['\x27'], .slot ['1'] none [],
        .wording "' of ", .slot ['0'] (some 's') [], .wording []] := by decide +kernel
    have numbered : Template.WholeSlot ['1'] none [] :=
      Template.wholeSlot_of_noLayout rfl ⟨nofun, nofun⟩
    have converted : Template.WholeSlot ['0'] (some 's') [] :=
      Template.wholeSlot_of_noLayout rfl ⟨by decide, by decide⟩
    rw [Template.Whole, pieces]
    exact List.forall_mem_cons.mpr ⟨trivial, List.forall_mem_cons.mpr ⟨numbered,
      List.forall_mem_cons.mpr ⟨trivial, List.forall_mem_cons.mpr ⟨converted,
        List.forall_mem_singleton.mpr trivial⟩⟩⟩⟩
  obtain ⟨shells, complaints⟩ := colours_are_decoration
  obtain ⟨messages, underlines⟩ := complaints c template subjects
  have colored : c.diagnostic .colored = .ok ⟨.generic, "'7' of ab",
      "'\x1b[1m7\x1b[0m' of \x1b[1mab\x1b[0m", "ab", 0, 2, true, false⟩ := by decide +kernel
  have plain : c.diagnostic .plain =
      .ok ⟨.generic, "'7' of ab", "'7' of ab", "ab", 0, 2, true, false⟩ := by decide +kernel
  have same := messages whole
  rw [colored, plain] at same
  have styled := congrArg Diagnostic.styled (Except.ok.inj same)
  exact ⟨bare, template, subjects, whole, ⟨_, colored, by decide +kernel, styled,
    underlines .colored _ colored⟩, shells room true true lines bare⟩

end LetLang
