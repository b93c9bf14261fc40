import LetLang.Proofs.Grammar.Reached
import LetLang.Proofs.Message

/-! # Parsing by the grammar

The parser returns an expression for the tokens that the grammar derives within its room, and
refuses all others with an error that can be reported.
-/
namespace LetLang

namespace Parser

theorem run_eq_ok_iff {room : Nat} {s : State} {tokens : List Token} {e : Expr} :
    run room s tokens = .ok e ↔ ∃ last, Reads room s tokens last ∧ last.finish = some e := by
  induction tokens generalizing s with
  | nil =>
    constructor
    · intro h
      rw [run] at h
      split at h
      · cases h
        exact ⟨s, .nil, ‹_›⟩
      · cases h
    · rintro ⟨last, reads, finished⟩
      cases reads
      simp only [run, finished]
  | cons t rest ih =>
    constructor
    · intro h
      rw [run] at h
      split at h
      · cases h
      · rename_i next step
        split at h
        · rename_i bound
          obtain ⟨last, reads, finished⟩ := ih.mp h
          exact ⟨last, .cons step bound reads, finished⟩
        · cases h
    · rintro ⟨last, reads, finished⟩
      cases reads with
      | cons step bound reads =>
        rw [run, step]
        exact (if_pos bound).trans (ih.mpr ⟨last, reads, finished⟩)

/-- Within any other limit, the parser differs from the machine only where it gives up. -/
theorem run_of_reads {limit : Nat} (room : Nat) {s last : State} {tokens : List Token} {e : Expr}
    (reads : Reads limit s tokens last) (finished : last.finish = some e) :
    run room s tokens = .ok e ∨ run room s tokens = .error .nestedTooDeeply := by
  induction reads with
  | nil =>
    left
    simp only [run, finished]
  | @cons s next last t tokens step bound reads ih =>
    rw [run, step]
    by_cases within : next.calls ≤ room
    · simp only [if_pos within]
      exact ih finished
    · right
      exact if_neg within

theorem parse_eq_ok_iff {room : Nat} {tokens : List Token} {e : Expr} :
    parse room tokens = .ok e ↔ Derives room .expr tokens e :=
  run_eq_ok_iff.trans accepts_iff_derives

theorem parse_of_derives {depth : Nat} (room : Nat) {tokens : List Token} {e : Expr}
    (h : Derives depth .expr tokens e) :
    parse room tokens = .ok e ∨ parse room tokens = .error .nestedTooDeeply := by
  obtain ⟨last, reads, finished⟩ := accepts_iff_derives.mpr h
  exact run_of_reads room reads finished

theorem derives_unique {depth depth' : Nat} {tokens : List Token} {e e' : Expr}
    (h : Derives depth .expr tokens e) (h' : Derives depth' .expr tokens e') : e = e' := by
  obtain ⟨last, reads, finished⟩ := accepts_iff_derives.mpr h
  obtain ⟨last', reads', finished'⟩ := accepts_iff_derives.mpr h'
  have same : last = last' := reads.unique reads'
  rw [same, finished'] at finished
  cases finished
  rfl

theorem mode_of_beginOperand {ops : Waiting} {frames : List Frame} {t : Token} {next : State}
    (step : beginOperand ops frames t = some next) (name : Text) (params : List Text) :
    next.mode ≠ .params name params := by
  cases t <;> grind [beginOperand]

theorem mode_of_afterOperand {ops : Waiting} {e : Expr} {frames : List Frame} {t : Token}
    {next : State} (step : afterOperand ops e frames t = some next) (name : Text)
    (params : List Text) : next.mode ≠ .params name params := by
  cases t with
  | number _ | ident _ => cases step
  | keyword text =>
    simp only [afterOperand] at step
    split at step
    · split at step <;> cases step
      intro h
      cases h
    · cases step
  | punct text => grind [afterOperand]

theorem name_of_reject {s : State} {here : List Token} {name found : Text}
    (h : s.reject here = .expectedEquals name found) : ∃ params, s.mode = .params name params := by
  obtain ⟨mode, frames⟩ := s
  cases mode with
  | params bound before =>
    cases h
    exact ⟨before, rfl⟩
  | operator | separator => grind [State.reject]
  | expression | operand | name | element => cases h

theorem name_of_advance {s next : State} {t : Token} {name : Text} {params : List Text}
    (step : s.advance t = some next) (h : next.mode = .params name params) :
    (∃ before, s.mode = .params name before) ∨ t = .ident name := by
  obtain ⟨mode, frames⟩ := s
  cases mode with
  | expression =>
    simp only [State.advance] at step
    split at step
    · cases step
      cases h
    · exact absurd h (mode_of_beginOperand step name params)
  | operand ops => exact absurd h (mode_of_beginOperand step name params)
  | operator ops e => exact absurd h (mode_of_afterOperand step name params)
  | name =>
    cases t with
    | ident name =>
      cases step
      cases h
      exact .inr rfl
    | number _ | punct _ | keyword _ => cases step
  | params name before =>
    cases t with
    | ident param =>
      cases step
      cases h
      exact .inl ⟨before, rfl⟩
    | punct text =>
      simp only [State.advance] at step
      split at step <;> cases step
      cases h
    | number _ | keyword _ => cases step
  | element ops items | separator ops items => cases t <;> grind [State.advance]

theorem name_of_run {room : Nat} {s : State} {tokens : List Token} {name found : Text}
    (h : run room s tokens = .error (.expectedEquals name found)) :
    (∃ params, s.mode = .params name params) ∨ .ident name ∈ tokens := by
  induction tokens generalizing s with
  | nil =>
    rw [run] at h
    split at h
    · cases h
    · exact .inl (name_of_reject (Except.error.inj h))
  | cons t rest ih =>
    rw [run] at h
    split at h
    · exact .inl (name_of_reject (Except.error.inj h))
    · rename_i next step
      split at h
      · rcases ih h with ⟨params, mode⟩ | later
        · rcases name_of_advance step mode with before | rfl
          · exact .inl before
          · exact .inr List.mem_cons_self
        · exact .inr (List.mem_cons_of_mem t later)
      · cases h

/-- A report quotes no name but one of the tokens. -/
theorem name_of_parse {room : Nat} {tokens : List Token} {name found : Text}
    (h : parse room tokens = .error (.expectedEquals name found)) : .ident name ∈ tokens := by
  rcases name_of_run h with ⟨_, mode⟩ | named
  · cases mode
  · exact named

end Parser

open Template (Plain)

open LetLang.Parser in
/-- The parser decides the grammar. Within its depth of nesting it returns the one expression that
the tokens are, and where it does not give up for the depth, no derivation is too deep for it. All
other tokens are reported as a parse error. -/
theorem Parser.parse_decides_grammar (style : Style) (room : Nat) {tokens : List Token}
    (plain : ∀ name, .ident name ∈ tokens → Plain name) :
    (∀ e, parse room tokens = .ok e ↔ Derives room .expr tokens e) ∧
    (parse room tokens ≠ .error .nestedTooDeeply →
      ∀ e, parse room tokens = .ok e ↔ ∃ depth, Derives depth .expr tokens e) ∧
    (∀ depth depth' e e', Derives depth .expr tokens e → Derives depth' .expr tokens e' → e = e') ∧
    ((∃ error report, parse room tokens = .error error ∧
        (StatementError.parse error).failure.diagnostic style = .ok report ∧
        report.kind = .parse) ↔
      ∀ e, ¬ Derives room .expr tokens e) := by
  refine ⟨fun _ => parse_eq_ok_iff, ?_, fun _ _ _ _ => derives_unique, ?_⟩
  · intro shallow e
    constructor
    · intro h
      exact ⟨room, parse_eq_ok_iff.mp h⟩
    · rintro ⟨depth, h⟩
      exact (parse_of_derives room h).resolve_right shallow
  · constructor
    · rintro ⟨error, report, refused, _⟩ e h
      rw [parse_eq_ok_iff.mpr h] at refused
      cases refused
    · intro none
      cases outcome : parse room tokens with
      | ok e => exact absurd (parse_eq_ok_iff.mp outcome) (none e)
      | error error =>
        have named : ∀ name found, error = .expectedEquals name found → Plain name := by
          rintro name found rfl
          exact plain name (name_of_parse outcome)
        obtain ⟨report, made, kind⟩ := ParseError.reported style named
        exact ⟨error, report, rfl, made, kind⟩

/-- The tokens of 1 == 2 * x are a product. -/
theorem equality_is_factor :
    (∀ name, .ident name ∈ [Token.number ['1'], .punct ['=', '='], .number ['2'], .punct ['*'],
      .ident ['x']] → Plain name) ∧
    Derives 0 .expr
      [.number ['1'], .punct ['=', '='], .number ['2'], .punct ['*'], .ident ['x']]
      (.binary .mul (.binary .eq (.int 1) (.int 2)) (.ref ['x'])) := by
  have plain : ∀ name, .ident name ∈ [Token.number ['1'], .punct ['=', '='], .number ['2'],
      .punct ['*'], .ident ['x']] → Plain name := by
    intro name h
    simp only [List.mem_cons, reduceCtorEq, Token.ident.injEq, List.not_mem_nil, or_false,
      false_or] at h
    rw [h]
    decide
  exact ⟨plain, ((Parser.parse_decides_grammar .plain 0 plain).1 _).mp rfl⟩

end LetLang
