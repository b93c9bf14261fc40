import LetLang.Proofs.Failing
import LetLang.Proofs.Grammar.Writing

/-! # Values as statements

A value is printed as programs write it, wherever programs can: as a statement, the text of a
truth value, of a literal or of a list of literals comes to that value. Below zero a number is
printed with a sign, which no expression begins with and no list has, and what is printed for
functions has no tokens.
-/
namespace LetLang

open Statement (Unterminated ended body terminator unterminated_cons unterminated_append)

namespace Value

def integers : Value → List Int
  | .int n => [n]
  | .list items => items
  | .bool _ | .function => []

/-- Whether programs can write a value. -/
def Literal (v : Value) : Prop := v ≠ .function ∧ ∀ n ∈ v.integers, Token.IsElement n

def Fits (v : Value) : Prop := ∀ n ∈ v.integers, Word.Fits n

instance (v : Value) : Decidable v.Literal :=
  inferInstanceAs (Decidable (v ≠ .function ∧ ∀ n ∈ v.integers, 0 ≤ n ∧ n ≤ Token.maxNumber))

instance (v : Value) : Decidable v.Fits :=
  inferInstanceAs (Decidable (∀ n ∈ v.integers, Word.Fits n))

end Value

theorem Token.isElement_of_fits {n : Int} (fits : Word.Fits n) (nonneg : 0 ≤ n) : IsElement n :=
  ⟨nonneg, Int.le_of_lt_add_one fits.2⟩

theorem Text.mem_ofInt {n : Int} {c : Char} (h : c ∈ ofInt n) : c.isDigit = true ∨ c = '-' := by
  have digit (k : Nat) (h : c ∈ ofNat k) : c.isDigit = true :=
    Nat.isDigit_of_mem_toDigits (by decide) (by decide) h
  cases n with
  | ofNat k => exact .inl (digit k h)
  | negSucc k =>
    rcases List.mem_cons.mp h with rfl | member
    · exact .inr rfl
    · exact .inl (digit (k + 1) member)

theorem Text.isBlank_of_isDigit {c : Char} (h : c.isDigit = true) : isBlank c = false := by
  have bounds := Char.isDigit_iff_toNat.mp h
  change 48 ≤ c.toNat ∧ c.toNat ≤ 57 at bounds
  simp only [isBlank, Bool.or_eq_false_iff, Bool.and_eq_false_iff, decide_eq_false_iff_not,
    beq_eq_false_iff_ne]
  omega

theorem Text.visible_ofInt {n : Int} {c : Char} (h : c ∈ ofInt n) : isBlank c = false := by
  rcases mem_ofInt h with digit | rfl
  · exact isBlank_of_isDigit digit
  · decide

theorem Text.semicolon_not_mem_ofInt (n : Int) : ';' ∉ ofInt n := by
  intro member
  rcases mem_ofInt member with digit | sign
  · exact absurd digit (by decide)
  · exact absurd sign (by decide)

theorem Text.length_ofInt_le {n : Int} (fits : Word.Fits n) : (ofInt n).length ≤ 20 := by
  have few {k : Nat} (bound : k < 10 ^ 19) : (ofNat k).length ≤ 19 :=
    (Nat.length_toDigits_le_iff (by decide) (by decide)).mpr bound
  obtain ⟨low, high⟩ := fits
  cases n with
  | ofNat k =>
    have bound : k < 10 ^ 19 := by
      change (k : Int) < _ at high
      omega
    exact Nat.le_succ_of_le (few bound)
  | negSucc k =>
    have bound : k + 1 < 10 ^ 19 := by omega
    exact Nat.succ_le_succ (few bound)

theorem Text.shortRuns_ofInt {n : Int} (fits : Word.Fits n) : (ofInt n).ShortRuns :=
  shortRuns_of_length (Nat.le_trans (length_ofInt_le fits) (by decide))

namespace Value

def elementsText (items : List Int) : Text := Text.join "; " (items.map Text.ofInt) ++ [']']

theorem elementsText_singleton (n : Int) : elementsText [n] = Text.ofInt n ++ [']'] := by
  rw [elementsText, List.map_singleton, Text.join_singleton]

theorem elementsText_cons (n m : Int) (items : List Int) :
    elementsText (n :: m :: items) = Text.ofInt n ++ ';' :: ' ' :: elementsText (m :: items) := by
  rw [elementsText, List.map_cons, List.map_cons, Text.join_cons_cons, List.append_assoc,
    List.append_assoc]
  rfl

theorem text_int (n : Int) : (int n).text = Text.ofInt n := rfl

theorem text_list (items : List Int) : (list items).text = '[' :: elementsText items := rfl

theorem unterminated_elementsText (items : List Int) :
    Unterminated (elementsText items ++ [';']) := by
  have closed : Unterminated [']', ';'] :=
    unterminated_cons.mpr ⟨by decide, Statement.unterminated_singleton ';'⟩
  induction items with
  | nil => exact closed
  | cons n items ih =>
    have plain := Text.semicolon_not_mem_ofInt n
    cases items with
    | nil =>
      rw [elementsText_singleton, List.append_assoc]
      exact (unterminated_append plain _).mpr closed
    | cons m items =>
      rw [elementsText_cons, List.append_assoc]
      refine (unterminated_append plain _).mpr (unterminated_cons.mpr ⟨by simp, ?_⟩)
      exact unterminated_cons.mpr ⟨by simp, ih⟩

theorem unterminated_text (v : Value) : Unterminated (v.text ++ [';']) := by
  cases v with
  | int n => exact Statement.unterminated_semicolon (Text.semicolon_not_mem_ofInt n)
  | bool b => cases b <;> exact Statement.unterminated_semicolon (by decide)
  | list items => exact unterminated_cons.mpr ⟨by simp, unterminated_elementsText items⟩
  | function => exact Statement.unterminated_semicolon (by decide)

theorem strip_text (v : Value) : Text.strip v.text = v.text := by
  cases v with
  | int n =>
    have visible : ∀ c ∈ Text.ofInt n, Text.isBlank c = false := fun _ => Text.visible_ofInt
    exact Text.strip_of_ends (fun c head => visible c (List.mem_of_mem_head? head))
      fun c last => visible c (List.mem_of_mem_getLast? last)
  | bool b => cases b <;> decide
  | list items =>
    refine Text.strip_of_ends ?_ ?_
    · rintro c ⟨⟩
      decide
    · intro c last
      rw [text_list, elementsText, ← List.cons_append, List.getLast?_concat] at last
      cases last
      decide
  | function => decide

theorem body_text (v : Value) : body (ended v.text) = .ok v.text := by
  rw [Statement.body_ended v.unterminated_text, v.strip_text]

theorem shortRuns_elementsText {items : List Int} (fits : ∀ n ∈ items, Word.Fits n) :
    (elementsText items).ShortRuns := by
  induction items with
  | nil => exact Text.shortRuns_nil.append_cons (by decide) Text.shortRuns_nil
  | cons n items ih =>
    obtain ⟨first, others⟩ := List.forall_mem_cons.mp fits
    have number := Text.shortRuns_ofInt first
    cases items with
    | nil =>
      rw [elementsText_singleton]
      exact number.append_cons (by decide) Text.shortRuns_nil
    | cons m items =>
      rw [elementsText_cons]
      have space : Text.ShortRuns ([] ++ ' ' :: elementsText (m :: items)) :=
        Text.shortRuns_nil.append_cons (by decide) (ih others)
      exact number.append_cons (by decide) space

theorem shortRuns_text {v : Value} (fits : v.Fits) : v.text.ShortRuns := by
  cases v with
  | int n => exact Text.shortRuns_ofInt (fits n List.mem_cons_self)
  | bool b => cases b <;> exact Text.shortRuns_of_length (by decide)
  | list items =>
    exact Text.shortRuns_nil.append_cons (c := '[') (by decide) (shortRuns_elementsText fits)
  | function => exact Text.shortRuns_of_length (by decide)

theorem shortRuns_ended_text {v : Value} (fits : v.Fits) : (ended v.text).ShortRuns :=
  (shortRuns_text fits).append_cons (u := [';']) (by decide) (Text.shortRuns_of_length (by decide))

end Value

theorem Token.endsAt_of_head {t : Token} {c : Char} {rest : Text} (h : t.continues c = false) :
    t.EndsAt (c :: rest) := by
  rintro d ⟨⟩
  exact h

theorem Value.spells_elementsText {n : Int} {items : List Int}
    (elements : ∀ m ∈ n :: items, Token.IsElement m) :
    Spells (elementsText (n :: items))
      (.number (Text.ofInt n) :: (Grammar.elements (items.map Text.ofInt) ++ [.punct [']']])) := by
  have closing : Spells [']'] [.punct [']']] := spells_token (t := .punct [']']) (by decide)
  induction items generalizing n with
  | nil =>
    have first := (elements n List.mem_cons_self).readable
    rw [elementsText_singleton]
    exact closing.cons first (Token.endsAt_of_head rfl)
  | cons m items ih =>
    obtain ⟨first, others⟩ := List.forall_mem_cons.mp elements
    have separated := (ih others).gap (c := ' ') (by decide)
    have rest := separated.cons (t := .punct [';']) (by decide) (Token.endsAt_of_head rfl)
    rw [elementsText_cons]
    exact rest.cons first.readable (Token.endsAt_of_head rfl)

/-- The text of a literal spells the tokens of an expression that evaluates to it. -/
theorem Value.Literal.exists_expr {v : Value} (h : v.Literal) :
    ∃ e : Expr, e.Writable ∧ e.nesting = 0 ∧ Spells v.text e.tokens ∧
      ∀ env, e.calls env = 0 ∧ Evaluates e env (.ok (.ofValue v)) env := by
  obtain ⟨known, elements⟩ := h
  cases v with
  | int n =>
    have element := elements n List.mem_cons_self
    exact ⟨.int n, element, rfl, spells_token element.readable, fun _ => ⟨rfl, .int⟩⟩
  | bool b =>
    refine ⟨.bool b, trivial, rfl, ?_, fun _ => ⟨rfl, .bool⟩⟩
    cases b with
    | true => exact spells_token (t := .keyword ['t', 'r', 'u', 'e']) (by decide)
    | false => exact spells_token (t := .keyword ['f', 'a', 'l', 's', 'e']) (by decide)
  | list items =>
    refine ⟨.list items, elements, rfl, ?_, fun _ => ⟨rfl, .list⟩⟩
    cases items with
    | nil =>
      have closing := spells_token (t := .punct [']']) (by decide)
      exact closing.cons (t := .punct ['[']) (by decide) (Token.endsAt_of_head rfl)
    | cons n items =>
      exact (spells_elementsText elements).cons (t := .punct ['[']) (by decide) fun _ _ => rfl
  | function => exact absurd rfl known

theorem Spells.of_token {t : Token} {rest : Text} {tokens : List Token} (readable : t.Readable)
    (ends : t.EndsAt rest) (spelled : Spells (t.text ++ rest) tokens) :
    ∃ more, tokens = t :: more ∧ Spells rest more := by
  have read := tokenize_eq_ok.mp (tokenize_eq_ok_iff_spells.mpr spelled)
  rw [scan_token [] readable ends] at read
  exact spells_of_scan read

theorem Spells.of_gap {c : Char} {rest : Text} {tokens : List Token} (gap : Token.isGap c = true)
    (spelled : Spells (c :: rest) tokens) : Spells rest tokens := by
  have read := tokenize_eq_ok.mp (tokenize_eq_ok_iff_spells.mpr spelled)
  rw [Token.scan, if_pos gap] at read
  exact tokenize_eq_ok_iff_spells.mp (tokenize_eq_ok.mpr read)

theorem Text.ofInt_of_neg {n : Int} (h : n < 0) : ∃ digits, ofInt n = '-' :: digits := by
  cases n with
  | ofNat k => exact absurd h (Int.not_lt.mpr (Int.natCast_nonneg k))
  | negSucc k => exact ⟨_, rfl⟩

namespace Parser

theorem step_of_run {room : Nat} {s : State} {t : Token} {rest : List Token} {e : Expr}
    (h : run room s (t :: rest) = .ok e) :
    ∃ next, s.advance t = some next ∧ run room next rest = .ok e := by
  obtain ⟨last, reads, finished⟩ := run_eq_ok_iff.mp h
  cases reads with
  | cons step _ reads => exact ⟨_, step, run_eq_ok_iff.mpr ⟨last, reads, finished⟩⟩

/-- In a list, a sign is refused behind elements without one. -/
theorem run_elements_ne_ok {items : List Int} (fits : ∀ n ∈ items, Word.Fits n)
    (signed : ∃ n ∈ items, n < 0) {read : List Int} {tokens : List Token}
    (spelled : Spells (Value.elementsText items) tokens) (room : Nat) (e : Expr) :
    run room ⟨.element [] read, []⟩ tokens ≠ .ok e := by
  -- elements without a sign are read with what separates them, and the first sign gets stuck
  induction items generalizing read tokens with
  | nil =>
    obtain ⟨n, member, _⟩ := signed
    exact absurd member List.not_mem_nil
  | cons n items ih =>
    intro accepted
    obtain ⟨first, others⟩ := List.forall_mem_cons.mp fits
    obtain ⟨tail, text⟩ : ∃ tail, Value.elementsText (n :: items) = Text.ofInt n ++ tail := by
      cases items with
      | nil => exact ⟨_, Value.elementsText_singleton n⟩
      | cons m items => exact ⟨_, Value.elementsText_cons n m items⟩
    by_cases negative : n < 0
    · obtain ⟨digits, sign⟩ := Text.ofInt_of_neg negative
      rw [text, sign] at spelled
      obtain ⟨more, rfl, _⟩ := spelled.of_token (t := .punct ['-']) (by decide) fun _ _ => rfl
      obtain ⟨next, step, _⟩ := step_of_run accepted
      simp [State.advance] at step
    · have element := Token.isElement_of_fits first (Int.not_lt.mp negative)
      obtain ⟨m, member, below⟩ := signed
      rcases List.mem_cons.mp member with rfl | later
      · exact absurd below negative
      · cases items with
        | nil => exact absurd later List.not_mem_nil
        | cons m' items =>
          rw [Value.elementsText_cons] at spelled
          obtain ⟨more, rfl, behind⟩ :=
            spelled.of_token element.readable (Token.endsAt_of_head rfl)
          obtain ⟨next, step, accepted⟩ := step_of_run accepted
          cases step
          obtain ⟨more, rfl, spaced⟩ := behind.of_token (t := .punct [';']) (by decide) fun _ _ => rfl
          obtain ⟨next, step, accepted⟩ := step_of_run accepted
          cases step
          exact ih others ⟨m, later, below⟩ (spaced.of_gap (by decide)) accepted

end Parser

theorem Value.parse_text_ne_ok {v : Value} (fits : v.Fits) (other : ¬ v.Literal) {tokens : List Token}
    (read : Token.tokenize v.text = .ok tokens) (room : Nat) (e : Expr) :
    Parser.parse room tokens ≠ .ok e := by
  intro accepted
  have spelled := tokenize_eq_ok_iff_spells.mp read
  have signed (known : v ≠ .function) : ∃ n ∈ v.integers, n < 0 := by
    by_contra none
    refine other ⟨known, fun n member => Token.isElement_of_fits (fits n member) ?_⟩
    exact Int.not_lt.mp fun below => none ⟨n, member, below⟩
  cases v with
  | int n =>
    obtain ⟨m, member, below⟩ := signed Value.noConfusion
    obtain rfl := List.mem_singleton.mp member
    obtain ⟨digits, sign⟩ := Text.ofInt_of_neg below
    rw [text_int, sign] at spelled
    obtain ⟨more, rfl, _⟩ := spelled.of_token (t := .punct ['-']) (by decide) fun _ _ => rfl
    obtain ⟨next, step, _⟩ := Parser.step_of_run accepted
    cases step
  | bool b =>
    obtain ⟨m, member, _⟩ := signed Value.noConfusion
    exact absurd member List.not_mem_nil
  | list items =>
    obtain ⟨more, rfl, inner⟩ := spelled.of_token (t := .punct ['[']) (by decide) fun _ _ => rfl
    obtain ⟨next, step, accepted⟩ := Parser.step_of_run accepted
    cases step
    exact Parser.run_elements_ne_ok fits (signed Value.noConfusion) inner room e accepted
  | function =>
    have stray : Token.tokenize "<fun>" = .error (.noToken "<fun>" 0) := by decide +kernel
    cases stray.symm.trans read

theorem Value.run_text {v : Value} (h : v.Literal) (room : Nat) (env : Env) :
    Statement.run room (ended v.text) env = (.ok (.ofValue v), env) := by
  obtain ⟨e, writable, nesting, spelled, evaluated⟩ := h.exists_expr
  have derived : Derives e.nesting .expr e.tokens e := (e.derives_tokens writable).admitted trivial
  have parsed : Parser.parse room e.tokens = .ok e :=
    Parser.parse_eq_ok_iff.mpr (derived.deepen (nesting ▸ Nat.zero_le _))
  have read := tokenize_eq_ok_iff_spells.mpr spelled
  obtain ⟨calls, evaluated⟩ := evaluated env
  have ran := (run_eq_iff_evaluates e env _ _).mpr evaluated
  have within : e.calls env ≤ room + Statement.readingCalls := calls ▸ Nat.zero_le _
  simp only [Statement.run, v.body_text, Statement.parse, read, parsed, Except.mapError,
    Statement.runParsed, if_pos within, ran]

theorem Value.fails_text {v : Value} (fits : v.Fits) (other : ¬ v.Literal) (room : Nat)
    (env : Env) :
    ∃ e : StatementError, Statement.run room (ended v.text) env = (.error e, env) ∧
      Statement.Fails room (ended v.text) env e env ∧ (e.kind = .lex ∨ e.kind = .parse) := by
  cases read : Token.tokenize v.text with
  | error fault =>
    refine ⟨.lex fault, ?_, .lex v.body_text read, .inl rfl⟩
    simp only [Statement.run, v.body_text, Statement.parse, read]
  | ok tokens =>
    cases parsed : Parser.parse room tokens with
    | ok e => exact absurd parsed (parse_text_ne_ok fits other read room e)
    | error fault =>
      refine ⟨.parse fault, ?_, .parse v.body_text read parsed, .inr rfl⟩
      simp only [Statement.run, v.body_text, Statement.parse, read, parsed, Except.mapError]

/-- A value that programs can write is what its text comes to as a statement, in any environment and
without changing it. For any other value of 64 bits that statement is reported as no tokens or as no
expression, and the environment is left as it was, too. -/
theorem Value.text_is_read_back (room : Nat) (v : Value) (env : Env) :
    (v.Literal →
      Statement.run room (ended v.text) env = (.ok (.ofValue v), env) ∧
      Statement.evaluate room (ended v.text) env =
        (.ok ("- : " ++ v.type.text ++ " = " ++ v.text), env)) ∧
    (v.Fits → ¬ v.Literal →
      ∃ failure, Statement.evaluate room (ended v.text) env = (.error failure, env) ∧
      ∀ style, ∃ report, failure.diagnostic style = .ok report ∧
        (report.kind = .lex ∨ report.kind = .parse)) := by
  constructor
  · intro literal
    have ran := run_text literal room env
    refine ⟨ran, ?_⟩
    rw [Statement.evaluate, ran]
    rfl
  · intro fits other
    obtain ⟨e, ran, fails, kinds⟩ := fails_text fits other room env
    refine ⟨e.failure, ?_, fun style => ?_⟩
    · rw [Statement.evaluate, ran]
      rfl
    · obtain ⟨report, made, kind, _⟩ := fails.reported style (shortRuns_ended_text fits)
      exact ⟨report, made, kind ▸ kinds⟩

/-- The largest integer is read back in a list, and a sign is not. -/
theorem sign_in_list_is_refused :
    Statement.evaluate 0 "[0; 9223372036854775807];;" .empty =
        (.ok "- : int list = [0; 9223372036854775807]", .empty) ∧
      ∃ failure, Statement.evaluate 0 "[2; -1];;" .empty = (.error failure, .empty) ∧
        ∃ report, failure.diagnostic .plain = .ok report ∧
          (report.kind = .lex ∨ report.kind = .parse) := by
  have literal : (Value.list [0, 9223372036854775807]).Literal := by decide
  have fits : (Value.list [2, -1]).Fits := by decide
  have other : ¬ (Value.list [2, -1]).Literal := by decide
  have printed := ((Value.text_is_read_back 0 _ .empty).1 literal).2
  obtain ⟨failure, failed, reported⟩ := (Value.text_is_read_back 0 _ .empty).2 fits other
  exact ⟨printed, failure, failed, reported .plain⟩

end LetLang
