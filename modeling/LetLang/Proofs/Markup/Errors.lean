import LetLang.Proofs.Failing
import LetLang.Proofs.Markup.Filling
import LetLang.Proofs.Naming

/-! # Marked-up errors of statements

Whatever its text, a statement without markup has no markup in what it prints: tokens are written
with few characters, and what an error quotes is either of tokens or of the text itself.
-/
namespace LetLang

open Text (Bare)
open Style (Erases erases_bare erases_bold)
open Template (Whole whole_compose)

/-- A failure whose reports differ by markup only, and that ends the work in the same way. -/
structure Failure.Marks (failure : Failure) : Prop where
  reported : (failure.reported .colored).Marks (failure.reported .plain)
  ending : failure.ending .colored = failure.ending .plain

namespace Failure

theorem marks_of_diagnostic {failure : Failure} {marked plain : Diagnostic}
    (h : failure.diagnostic .colored = .ok marked) (h' : failure.diagnostic .plain = .ok plain)
    (marks : marked.Marks plain) : failure.Marks := by
  constructor
  · rw [reported, reported, h, h']
    exact marks
  · rw [ending_of_diagnostic h, ending_of_diagnostic h']

/-- The quoted text is all of a message that is marked up. -/
theorem marks_of_quoted {failure : Failure} {kind : ErrorKind} {front quoted back subject : Text}
    {start stop : Int} {diagnosis internal : Bool}
    (h : ∀ style, failure.diagnostic style = .ok ⟨kind, front ++ quoted ++ back,
      front ++ Style.bold style quoted ++ back, subject, start, stop, diagnosis, internal⟩)
    (words : front.Bare ∧ back.Bare) (bare : quoted.Bare) (about : subject.Bare) :
    failure.Marks := by
  have styled := ((erases_bare words.1).append (erases_bold .colored bare)).append
    (erases_bare words.2)
  exact marks_of_diagnostic (h .colored) (h .plain) ⟨styled, rfl, about⟩

theorem marks_crash {c : Crash} (bare : (c.name ++ ": " ++ c.message).Bare) :
    (Failure.crash c).Marks := by
  have front : Bare "unknown error: '" := Text.bare_literal rfl
  have back : Bare ['\x27'] := by decide
  have styled := ((erases_bare front).append (erases_bold .colored bare)).append (erases_bare back)
  exact ⟨⟨styled, rfl, bare⟩, rfl⟩

theorem marks_about {kind : ErrorKind} {template : Text} {subjects : List Text} {d : Diagnostic}
    (made : (Failure.complaint (.about kind template subjects)).diagnostic .plain = .ok d)
    (whole : Whole template) (bare : template.Bare) (parts : ∀ s ∈ subjects, s.Bare) :
    (Failure.complaint (.about kind template subjects)).Marks := by
  have shown : ∀ s ∈ (Complaint.about kind template subjects).substitutes, s.Bare := by
    rw [Complaint.substitutes_about]
    exact parts
  have marks := Complaint.marks (c := .about kind template subjects) whole bare shown
  have plain : (Complaint.about kind template subjects).diagnostic .plain = .ok d := made
  rw [plain] at marks
  cases colored : (Complaint.about kind template subjects).diagnostic .colored with
  | error crash =>
    rw [colored] at marks
    exact marks.elim
  | ok marked =>
    rw [colored] at marks
    exact marks_of_diagnostic colored made marks

end Failure

theorem Token.Readable.bare {t : Token} (h : t.Readable) : t.text.Bare := by
  cases t with
  | number digits => exact (Text.Inner.of_digits h.2.1).bare
  | punct p =>
    have all : ∀ p ∈ puncts, p.Bare := by decide
    exact all p h
  | keyword word => exact (Text.Inner.of_alpha (letters_of_keyword h).2).bare
  | ident name => exact h.inner.bare

namespace Parser

theorem bare_endOfInput : Bare endOfInput := by decide

theorem bare_of_parse {room : Nat} {tokens : List Token} {error : ParseError}
    (h : ∀ t ∈ tokens, t.Readable) (refused : parse room tokens = .error error) :
    ∀ s ∈ error.wording.2, s.Bare := by
  refine forall_subjects refused ?_ bare_endOfInput
  intro here part member
  obtain between | ⟨text, listed, within⟩ := Text.mem_join member
  · exact absurd between (by decide)
  · obtain ⟨t, among, rfl⟩ := List.mem_map.mp listed
    exact (h t (part.subset among)).bare within

end Parser

theorem bare_slot : Bare Template.slot := by decide

theorem bare_quoting {front : Text} (h : front.Bare) : Bare (front ++ Template.slot ++ ['\x27']) := by
  have back : Bare ['\x27'] := by decide
  exact Text.bare_append.mpr ⟨Text.bare_append.mpr ⟨h, bare_slot⟩, back⟩

theorem ParseError.bare_template {error : ParseError}
    (h : ∀ name found, error = .expectedEquals name found → name.Bare) : error.wording.1.Bare := by
  cases error with
  | expectedEquals name found =>
    have named : Bare ("expected '=' after 'let " ++ name) :=
      Text.bare_append.mpr ⟨Text.bare_literal rfl, h name found rfl⟩
    exact bare_quoting (Text.bare_append.mpr ⟨named, Text.bare_literal rfl⟩)
  | expectedName _ | expectedElement _ | unterminatedList | expectedSeparator _ | unclosedParen _
  | expectedExpression _ | trailingTokens _ => exact bare_quoting (Text.bare_literal rfl)
  | nestedTooDeeply => exact Text.bare_literal rfl

theorem BinOp.bare_symbol (op : BinOp) : op.symbol.Bare := by
  cases op <;> decide

theorem EvalError.bare_template (error : EvalError) : error.wording.2.1.Bare := by
  cases error with
  | bindingAsOperand _ _ | bindingAsBody _ _ =>
    have front : Bare ("binding of '" ++ Template.slot) :=
      Text.bare_append.mpr ⟨Text.bare_literal rfl, bare_slot⟩
    exact bare_quoting (Text.bare_append.mpr ⟨front, Text.bare_literal rfl⟩)
  | operandTypes op _ _ =>
    have expected : Bare (if op.isArith then "operands of type int"
        else "two operands of type int or bool" : String) := by
      split <;> exact Text.bare_literal rfl
    simp only [wording, Text.bare_append]
    exact ⟨⟨⟨⟨⟨⟨⟨Text.bare_literal rfl, bare_slot⟩, Text.bare_literal rfl⟩, expected⟩,
      Text.bare_literal rfl⟩, bare_slot⟩, Text.bare_literal rfl⟩, bare_slot⟩
  | unbound _ => exact bare_quoting (Text.bare_literal rfl)
  | divisionByZero => exact Text.bare_literal rfl

theorem EvalError.bare_subjects {error : EvalError} (h : ∀ name ∈ error.mentioned, name.Bare) :
    ∀ s ∈ error.wording.2.2, s.Bare :=
  EvalError.forall_subjects h BinOp.bare_symbol (fun type => type.inner_text.bare) List.not_mem_nil

theorem bare_ofNat (n : Nat) : (Text.ofNat n).Bare := (Text.inner_ofNat n).bare

/-- A run of digits that is too long is not quoted, only its length is told. -/
theorem bare_tooManyDigits (count : Nat) :
    ((Crash.numeral (.tooManyDigits count)).name ++ ": " ++
      (Crash.numeral (.tooManyDigits count)).message).Bare := by
  have told : Bare (Numeral.Fault.message (.tooManyDigits count)) :=
    Text.bare_append.mpr ⟨Text.bare_append.mpr ⟨Text.bare_literal rfl, bare_ofNat count⟩,
      Text.bare_literal rfl⟩
  have named : Bare (Crash.numeral (.tooManyDigits count)).name := Text.bare_literal rfl
  exact Text.bare_append.mpr ⟨Text.bare_append.mpr ⟨named, Text.bare_literal rfl⟩, told⟩

theorem LexError.marks {error : LexError} {text : Text} (bare : text.Bare)
    (refused : Token.tokenize text = .error error) : (StatementError.lex error).failure.Marks := by
  obtain ⟨stop, told, rfl⟩ := exists_stop_of_tokenize refused
  cases stop with
  | noToken rest =>
    exact Failure.marks_of_quoted (StatementError.diagnostic_noToken · text _)
      ⟨Text.bare_literal rfl, Text.bare_literal rfl⟩ (bare.of_subset (List.drop_subset _ _)) bare
  | tooLarge digits rest =>
    obtain ⟨before, after, rfl, rfl, _, _⟩ := told
    have quoted : digits.Bare := bare.of_subset (by simp)
    exact Failure.marks_of_quoted (StatementError.diagnostic_tooLarge · _ digits _)
      ⟨Text.bare_literal rfl, Text.bare_literal rfl⟩ quoted bare
  | tooManyDigits count => exact Failure.marks_crash (bare_tooManyDigits count)

namespace Statement

theorem Fails.marks {room : Nat} {statement : Text} {env left : Env} {e : StatementError}
    (h : Fails room statement env e left) (bare : statement.Bare) : e.failure.Marks := by
  cases h with
  | unterminated none =>
    have stripped := bare.of_subset (Text.infix_strip statement).subset
    exact Failure.marks_of_quoted (StatementError.diagnostic_unterminated · _)
      ⟨Text.bare_literal rfl, Text.bare_literal rfl⟩ stripped stripped
  | lex stripped refused =>
    exact LexError.marks (bare.of_subset (infix_of_body stripped).subset) refused
  | @parse _ _ fault _ read refused =>
    have readable := readable_of_tokenize read
    have named : ∀ name found, fault = ParseError.expectedEquals name found →
        (Token.ident name).Readable := by
      rintro name found rfl
      exact readable _ (Parser.name_of_parse refused)
    obtain ⟨_, made, _⟩ := ParseError.reported .plain fun name found same => (named name found same).plain
    obtain ⟨front, rest, subject, wording, plain, _⟩ :=
      fault.wording_eq_compose fun name found same => (named name found same).plain
    have whole : Whole fault.wording.1 := by
      rw [wording]
      exact whole_compose plain
    have template := ParseError.bare_template fun name found same => (named name found same).inner.bare
    exact Failure.marks_about made whole template (Parser.bare_of_parse readable refused)
  | @eval _ _ _ fault _ _ read parsed failed =>
    have names : ∀ name ∈ fault.mentioned, name.Bare := fun name member =>
      (readable_of_mentioned read parsed failed name member).inner.bare
    obtain ⟨_, made, _⟩ := EvalError.exists_report .plain fault
    obtain ⟨front, rest, subject, subjects, wording, plain, _⟩ := fault.wording_eq_compose
    have whole : Whole fault.wording.2.1 := by
      rw [wording]
      exact whole_compose plain
    exact Failure.marks_about made whole fault.bare_template (EvalError.bare_subjects names)
  | nested =>
    obtain ⟨_, made, _⟩ := StatementError.nested_report .plain
    have plain : ∀ w ∈ [("expression nested too deeply" : Text)], Template.Plain w :=
      List.forall_mem_singleton.mpr (Template.plain_literal rfl)
    exact Failure.marks_about made (whole_compose plain) (Text.bare_literal rfl)
      (List.forall_mem_singleton.mpr (by decide))

end Statement

theorem Output.bare_text {out : Output} (h : ∀ name ∈ out.name, name.Bare) : out.text.Bare := by
  have typed := out.value.type.inner_text.bare
  have valued := out.value.inner_text.bare
  simp only [text, Text.bare_append]
  refine ⟨⟨⟨⟨?_, Text.bare_literal rfl⟩, typed⟩, Text.bare_literal rfl⟩, valued⟩
  split
  · rename_i name named
    exact Text.bare_append.mpr ⟨Text.bare_literal rfl, h name named⟩
  · exact Text.bare_literal rfl

theorem Statement.bare_of_run {room : Nat} {statement : Text} {env left : Env} {out : Output}
    (h : run room statement env = (.ok out, left)) : out.text.Bare := by
  obtain ⟨text, e, _, parsed, evaluated⟩ := evaluates_of_run h
  obtain ⟨tokens, read, parsed⟩ := tokens_of_parse parsed
  refine Output.bare_text fun name named => ?_
  exact (readable_of_mentioned read parsed evaluated name (Option.mem_toList.mpr named)).inner.bare

theorem Env.Sound.bare_text {env : Env} (h : env.Sound) {name : Text} {value : Value}
    (bound : (name, value) ∈ env.bindings) : (Output.text ⟨some name, value⟩).Bare := by
  refine Output.bare_text fun other same => ?_
  cases same
  exact (h.names name (List.mem_map.mpr ⟨_, bound, rfl⟩)).inner.bare

end LetLang
