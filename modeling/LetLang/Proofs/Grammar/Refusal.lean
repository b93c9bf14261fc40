import LetLang.Proofs.Grammar.Parsing
import LetLang.Proofs.Spelling

/-! # Where parsing stops

The parser refuses a token at the first place where no expression goes on with it. Whatever it has
read can be completed, by giving what is due and closing what is open, and where it stands is told
by the tokens alone. The main statement is that its reports begin with the first token that has no
place in any expression, or name the end of the input if there is no such token.
-/
namespace LetLang

namespace Parser

/-- Whether tokens that can be written lead from a state to the end of an expression. -/
def State.Completable (limit : Nat) (s : State) : Prop :=
  ∃ rest last e, (∀ t ∈ rest, t.Readable) ∧ Reads limit s rest last ∧ last.finish = some e

section

variable {limit : Nat}

theorem State.Completable.cons {s next : State} {t : Token} (h : next.Completable limit)
    (readable : t.Readable) (step : s.advance t = some next) (depth : next.calls ≤ limit) :
    s.Completable limit := by
  obtain ⟨rest, last, e, others, reads, finished⟩ := h
  exact ⟨t :: rest, last, e, List.forall_mem_cons.mpr ⟨readable, others⟩, .cons step depth reads,
    finished⟩

theorem unwind_stops (frames : List Frame) (e : Expr) :
    (unwind frames e).1 <:+ frames ∧
      ((unwind frames e).1 = [] ∨ ∃ ops rest, (unwind frames e).1 = .paren ops :: rest) := by
  induction frames generalizing e with
  | nil => exact ⟨List.suffix_rfl, .inl rfl⟩
  | cons frame frames ih =>
    cases frame with
    | paren ops => exact ⟨List.suffix_rfl, .inr ⟨ops, frames, rfl⟩⟩
    | binding name params =>
      obtain ⟨part, stops⟩ := ih (.letGlobal name params e)
      exact ⟨part.trans (List.suffix_cons _ _), stops⟩
    | scope name params body =>
      obtain ⟨part, stops⟩ := ih (.letLocal name params body e)
      exact ⟨part.trans (List.suffix_cons _ _), stops⟩

/-- Behind an operand, closing the open parentheses makes an expression of all. -/
theorem completable_operator (ops : Waiting) (e : Expr) (frames : List Frame)
    (depth : openCalls frames ≤ limit) :
    State.Completable limit ⟨.operator ops e, frames⟩ := by
  obtain ⟨part, stops⟩ := unwind_stops frames (close ops e)
  rcases unwound : unwind frames (close ops e) with ⟨left, whole⟩
  rw [unwound] at part stops
  rcases stops with rfl | ⟨outer, rest, rfl⟩
  · refine ⟨[], _, whole, fun _ h => absurd h List.not_mem_nil, .nil, ?_⟩
    simp only [State.finish, unwound]
  · have shorter : rest.length < frames.length := part.length_le
    have inner : openCalls rest ≤ limit :=
      Nat.le_trans (openCalls_le_of_suffix ((List.suffix_cons _ rest).trans part)) depth
    have closed : State.advance ⟨.operator ops e, frames⟩ (.punct [')']) =
        some ⟨.operator outer whole, rest⟩ := by
      have noOp : BinOp.ofSymbol? [')'] = none := rfl
      simp only [State.advance, afterOperand, noOp, unwound, if_true]
    have readable : (Token.punct [')']).Readable := by decide
    exact (completable_operator outer whole rest inner).cons readable closed inner
termination_by frames.length

theorem readable_zero : (Token.number ['0']).Readable := by decide

theorem completable_operand (ops : Waiting) (frames : List Frame)
    (depth : openCalls frames ≤ limit) : State.Completable limit ⟨.operand ops, frames⟩ :=
  (completable_operator ops _ frames depth).cons readable_zero rfl depth

theorem completable_params (name : Text) (params : List Text) (frames : List Frame)
    (depth : openCalls frames ≤ limit) :
    State.Completable limit ⟨.params name params, frames⟩ := by
  have readable : (Token.punct ['=']).Readable := by decide
  have step : State.advance ⟨.params name params, frames⟩ (.punct ['=']) =
      some ⟨.operand [], .binding name params.reverse :: frames⟩ := by simp [State.advance]
  have body := completable_operand [] (.binding name params.reverse :: frames) depth
  exact body.cons readable step depth

theorem completable_separator (ops : Waiting) (items : List Int) (frames : List Frame)
    (depth : openCalls frames ≤ limit) :
    State.Completable limit ⟨.separator ops items, frames⟩ := by
  have readable : (Token.punct [']']).Readable := by decide
  exact (completable_operator ops _ frames depth).cons readable rfl depth

/-- No state is a dead end. -/
theorem completable (s : State) (depth : s.calls ≤ limit) : s.Completable limit := by
  obtain ⟨mode, frames⟩ := s
  cases mode with
  | expression => exact (completable_operator [] _ frames depth).cons readable_zero rfl depth
  | operand ops => exact completable_operand ops frames depth
  | operator ops e => exact completable_operator ops e frames depth
  | name =>
    have named : (Token.ident ['x']).Readable := by decide
    exact (completable_params ['x'] [] frames depth).cons named rfl depth
  | params name params => exact completable_params name params frames depth
  | element ops items =>
    exact (completable_separator ops _ frames depth).cons readable_zero rfl depth
  | separator ops items => exact completable_separator ops items frames depth

theorem Reads.calls_le {s last : State} {tokens : List Token} (h : Reads limit s tokens last)
    (start : s.calls ≤ limit) : last.calls ≤ limit := by
  induction h with
  | nil => exact start
  | cons _ depth _ ih => exact ih depth

theorem Reads.split {s last : State} {front back : List Token}
    (h : Reads limit s (front ++ back) last) :
    ∃ mid, Reads limit s front mid ∧ Reads limit mid back last := by
  induction front generalizing s with
  | nil => exact ⟨s, .nil, h⟩
  | cons t front ih =>
    cases h with
    | cons step depth h =>
      obtain ⟨mid, first, second⟩ := ih h
      exact ⟨mid, .cons step depth first, second⟩

theorem exists_derives {s : State} {front : List Token} (reads : Reads limit .start front s) :
    ∃ rest e, (∀ t ∈ rest, t.Readable) ∧ Derives limit .expr (front ++ rest) e := by
  obtain ⟨rest, last, e, readable, more, finished⟩ :=
    completable s (reads.calls_le (Nat.zero_le limit))
  exact ⟨rest, e, readable, accepts_iff_derives.mp ⟨last, reads.append more, finished⟩⟩

/-- A token that the machine refuses comes in no expression at that place, however deep the
expression is nested. -/
theorem not_derives_of_refused {s : State} {front : List Token} {t : Token}
    (reads : Reads limit .start front s) (refused : s.advance t = none) (depth : Nat)
    (rest : List Token) (e : Expr) : ¬ Derives depth .expr (front ++ t :: rest) e := by
  intro derived
  obtain ⟨last, whole, _⟩ := accepts_iff_derives.mpr derived
  obtain ⟨mid, first, second⟩ := whole.split
  obtain rfl := reads.unique first
  cases second with
  | cons step _ _ =>
    rw [refused] at step
    cases step

end

theorem stop_of_run {room : Nat} {s : State} {tokens : List Token} {error : ParseError}
    (h : run room s tokens = .error error) (shallow : error ≠ .nestedTooDeeply) :
    ∃ front here last, tokens = front ++ here ∧ Reads room s front last ∧
      error = last.reject here ∧ ∀ t ∈ here.head?, last.advance t = none := by
  induction tokens generalizing s with
  | nil =>
    rw [run] at h
    split at h
    · cases h
    · cases h
      exact ⟨[], [], s, rfl, .nil, rfl, fun t none => absurd none (Option.not_mem_none t)⟩
  | cons t rest ih =>
    rw [run] at h
    split at h
    · rename_i refused
      cases h
      refine ⟨[], t :: rest, s, rfl, .nil, rfl, fun next here => ?_⟩
      cases here
      exact refused
    · rename_i next step
      split at h
      · rename_i depth
        obtain ⟨front, here, last, rfl, reads, stop⟩ := ih h
        exact ⟨t :: front, here, last, rfl, .cons step depth reads, stop⟩
      · exact absurd (Except.error.inj h).symm shallow

/-- A text that begins with the next token, or names the end of the input. -/
def Quotes (found : Text) : List Token → Prop
  | [] => found = endOfInput
  | t :: _ => t.text <+: found

theorem quotes_nextText (here : List Token) : Quotes (nextText here) here := by
  cases here with
  | nil => rfl
  | cons t rest => exact List.prefix_rfl

theorem quotes_remaining (here : List Token) : Quotes (remaining here) here := by
  cases here with
  | nil => rfl
  | cons t rest =>
    have front : t.text <+: Text.join [' '] ((t :: rest).map Token.text) := by
      cases rest with
      | nil =>
        have alone : Text.join [' '] ([t].map Token.text) = t.text := by
          rw [List.map_singleton, Text.join_singleton]
        exact ⟨[], (List.append_nil _).trans alone.symm⟩
      | cons next rest =>
        rw [List.map_cons, List.map_cons, Text.join_cons_cons, List.append_assoc]
        exact List.prefix_append _ _
    unfold remaining
    simp only [Quotes]
    split
    · rename_i empty
      rw [List.isEmpty_iff.mp empty] at front
      rw [List.prefix_nil.mp front]
      exact List.nil_prefix
    · exact front

theorem found_of_reject (s : State) (here : List Token) :
    ∃ found, (s.reject here).wording.2 = [found] ∧
      (found = remaining here ∨ found = nextText here) := by
  obtain ⟨mode, frames⟩ := s
  cases mode with
  | expression | operand | params => exact ⟨remaining here, rfl, .inl rfl⟩
  | name | element => exact ⟨nextText here, rfl, .inr rfl⟩
  | operator ops e =>
    refine ⟨remaining here, ?_, .inl rfl⟩
    simp only [State.reject]
    split <;> rfl
  | separator ops items =>
    cases here with
    | nil => exact ⟨endOfInput, rfl, .inr rfl⟩
    | cons t rest => exact ⟨remaining (t :: rest), rfl, .inl rfl⟩

theorem forall_subjects {P : Text → Prop} {room : Nat} {tokens : List Token} {error : ParseError}
    (refused : parse room tokens = .error error)
    (written : ∀ here, here <:+: tokens → P (Text.join [' '] (here.map Token.text)))
    (ended : P endOfInput) : ∀ s ∈ error.wording.2, P s := by
  by_cases deep : error = .nestedTooDeeply
  · subst deep
    exact List.forall_mem_singleton.mpr (written [] List.nil_infix)
  obtain ⟨front, here, last, rfl, _, rfl, _⟩ := stop_of_run refused deep
  obtain ⟨found, wording, about⟩ := found_of_reject last here
  rw [wording]
  refine List.forall_mem_singleton.mpr ?_
  rcases about with rfl | rfl
  · unfold remaining
    simp only
    split
    · exact ended
    · exact written here (List.suffix_append front here).isInfix
  · cases here with
    | nil => exact ended
    | cons t rest =>
      have alone := written [t] ⟨front, rest, by rw [List.append_assoc]; rfl⟩
      rwa [List.map_singleton, Text.join_singleton] at alone

theorem quotes_reject (s : State) (here : List Token) :
    ∃ found, (s.reject here).wording.2 = [found] ∧ Quotes found here := by
  obtain ⟨found, wording, rfl | rfl⟩ := found_of_reject s here
  · exact ⟨_, wording, quotes_remaining here⟩
  · exact ⟨_, wording, quotes_nextText here⟩

end Parser

theorem Complaint.head?_substitutes {style : Style} {c : Complaint} {d : Diagnostic}
    (h : c.diagnostic style = .ok d) : c.substitutes.head? = some d.subject := by
  unfold diagnostic at h
  split at h
  · cases h
  · cases h
  · split at h
    · cases h
    · rename_i subject rest found
      cases h
      rw [found]
      rfl

theorem ParseError.wording_subject {style : Style} {error : ParseError} {report : Diagnostic}
    (made : (StatementError.parse error).failure.diagnostic style = .ok report) :
    error.wording.2.head? = some report.subject := by
  have subject := Complaint.head?_substitutes
    (c := .about .parse error.wording.1 error.wording.2) made
  rwa [Complaint.substitutes_about] at subject

theorem Token.Readable.plain {name : Text} (h : (Token.ident name).Readable) :
    Template.Plain name := by
  intro c member
  have letter := h.2.1 c member
  constructor <;> rintro rfl <;> exact absurd letter (by decide)

/-- No token can be taken for the end of the input. -/
theorem Token.Readable.not_endOfInput {t : Token} (h : t.Readable) :
    ¬ t.text <+: Parser.endOfInput := by
  obtain ⟨c, tail, text, _, digit, letter⟩ := h.begins
  rw [text]
  intro front
  obtain ⟨rest, same⟩ := front
  have first : c = '<' := by
    have head := congrArg List.head? same
    exact Option.some.inj head
  subst first
  cases t with
  | number _ => exact absurd digit Bool.false_ne_true
  | keyword _ | ident _ => exact absurd letter Bool.false_ne_true
  | punct p =>
    obtain rfl : p = '<' :: tail := text
    have none : ∀ p ∈ puncts, p.head? ≠ some '<' := by decide
    exact none _ h rfl

/-- Tokens that are no expression are refused at the first place where none goes on. The tokens in
front of it begin an expression, even one within the room of the parser. Either they are all the
tokens, and the report names the end of the input, or the next token has no place behind them in any
expression, and it is the next token that the report begins with. -/
theorem Parser.report_at_first_impossible_token (style : Style) {room : Nat}
    {tokens : List Token} {error : ParseError} (readable : ∀ t ∈ tokens, t.Readable)
    (refused : parse room tokens = .error error) (shallow : error ≠ .nestedTooDeeply) :
    ∃ report, (StatementError.parse error).failure.diagnostic style = .ok report ∧
      report.kind = .parse ∧
      (∃ front here, tokens = front ++ here ∧
        (∃ rest e, (∀ t ∈ rest, t.Readable) ∧ Derives room .expr (front ++ rest) e) ∧
        match here with
        | [] => report.subject = endOfInput
        | t :: _ => t.text <+: report.subject ∧
            ∀ depth rest e, ¬ Derives depth .expr (front ++ t :: rest) e) ∧
      (report.subject = endOfInput ↔ ∃ depth rest e, Derives depth .expr (tokens ++ rest) e) := by
  have named : ∀ name found, error = .expectedEquals name found → Template.Plain name := by
    rintro name found rfl
    exact (readable _ (name_of_parse refused)).plain
  obtain ⟨report, made, kind⟩ := ParseError.reported style named
  obtain ⟨front, here, last, rfl, reads, rfl, stops⟩ := stop_of_run refused shallow
  obtain ⟨found, wording, quotes⟩ := quotes_reject last here
  have subject := ParseError.wording_subject made
  rw [wording] at subject
  obtain rfl : found = report.subject := Option.some.inj subject
  obtain ⟨rest, e, others, derived⟩ := exists_derives reads
  refine ⟨report, made, kind, ⟨front, here, rfl, ⟨rest, e, others, derived⟩, ?_⟩, ?_⟩
  · cases here with
    | nil => exact quotes
    | cons t here => exact ⟨quotes, not_derives_of_refused reads (stops t rfl)⟩
  · cases here with
    | nil =>
      rw [List.append_nil]
      exact ⟨fun _ => ⟨room, rest, e, derived⟩, fun _ => quotes⟩
    | cons t here =>
      constructor
      · intro ended
        rw [Quotes, ended] at quotes
        exact absurd quotes (readable t (by simp)).not_endOfInput
      · rintro ⟨depth, more, whole, impossible⟩
        rw [List.append_assoc, List.cons_append] at impossible
        exact absurd impossible (not_derives_of_refused reads (stops t rfl) depth _ whole)

/-- In the tokens of let x = [1 2] nothing is wrong up to the second number. -/
theorem missing_separator_at_second_number :
    let tokens : List Token := [.keyword ['l', 'e', 't'], .ident ['x'], .punct ['='], .punct ['['],
      .number ['1'], .number ['2'], .punct [']']]
    (∀ t ∈ tokens, t.Readable) ∧
      Parser.parse 0 tokens = .error (.expectedSeparator ['2', ' ', ']']) ∧
      ∃ report, (StatementError.parse (.expectedSeparator ['2', ' ', ']'])).failure.diagnostic
          .plain = .ok report ∧ report.subject = ['2', ' ', ']'] ∧
        ∀ depth rest e, ¬ Derives depth .expr (tokens ++ rest) e := by
  intro tokens
  have readable : ∀ t ∈ tokens, t.Readable := by decide
  have refused : Parser.parse 0 tokens = .error (.expectedSeparator ['2', ' ', ']']) := rfl
  obtain ⟨report, made, _, _, ended⟩ :=
    Parser.report_at_first_impossible_token .plain readable refused (by decide)
  have subject : report.subject = ['2', ' ', ']'] :=
    (Option.some.inj (ParseError.wording_subject made)).symm
  refine ⟨readable, refused, report, made, subject, ?_⟩
  intro depth rest e derived
  have quoted := ended.mpr ⟨depth, rest, e, derived⟩
  rw [subject] at quoted
  exact absurd quoted (by decide)

end LetLang
