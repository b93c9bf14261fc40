import LetLang.Proofs.Range

/-! # Writing expressions

An expression is written token by token, with parentheses only around what the grammar has no place
for as it is: an operand that binds more loosely than its operator, a right operand that binds as
loosely, and a binding wherever a sum is due. The scope of a binding needs none. The main statement
is that the text of these tokens, with single spaces between them, is read back as the expression,
and that no shorter list of tokens is.
-/
namespace LetLang

open Grammar
open Parser (parenCalls scopeCalls)

namespace Symbol

/-- Whether what is derived from one symbol may stand as it is where another one is due. -/
def Admits : Symbol → Symbol → Prop
  | .expr, _ => True
  | .chain level, .chain tight => level ≤ tight
  | .chain _, .expr => False

instance : DecidableRel Admits
  | .expr, _ => inferInstanceAs (Decidable True)
  | .chain level, .chain tight => inferInstanceAs (Decidable (level ≤ tight))
  | .chain _, .expr => inferInstanceAs (Decidable False)

theorem admits_primary {level : Nat} (le : level ≤ 3) : (chain level).Admits .primary := le

theorem Admits.looser {level : Nat} {own : Symbol} (h : (chain (level + 1)).Admits own) :
    (chain level).Admits own := by
  cases own with
  | expr => exact h
  | chain tight => exact Nat.le_of_succ_le h

end Symbol

theorem Derives.admitted {depth : Nat} {place own : Symbol} {tokens : List Token} {e : Expr}
    (h : Derives depth own tokens e) (admits : place.Admits own) :
    Derives depth place tokens e := by
  cases place with
  | expr =>
    cases own with
    | expr => exact h
    | chain tight => exact (h.loosen (Nat.zero_le tight)).sum
  | chain level =>
    cases own with
    | expr => exact admits.elim
    | chain tight => exact h.loosen admits

namespace Expr

/-- What an expression is derived from without parentheses around it. -/
def symbol : Expr → Symbol
  | .int _ | .bool _ | .list _ | .ref _ => .primary
  | .binary op _ _ => .chain op.level
  | .letGlobal .. | .letLocal .. => .expr

/-- Tokens of an expression, in parentheses if it may not stand as it is where a symbol is due. -/
def enclosed (e : Expr) (place : Symbol) (tokens : List Token) : List Token :=
  if place.Admits e.symbol then tokens else .punct ['('] :: (tokens ++ [.punct [')']])

def tokens : Expr → List Token
  | .int n => [.number (Text.ofInt n)]
  | .bool true => [.keyword ['t', 'r', 'u', 'e']]
  | .bool false => [.keyword ['f', 'a', 'l', 's', 'e']]
  | .list [] => [.punct ['['], .punct [']']]
  | .list (n :: items) =>
    .punct ['['] :: .number (Text.ofInt n) :: (elements (items.map Text.ofInt) ++ [.punct [']']])
  | .ref name => [.ident name]
  | .binary op lhs rhs =>
    lhs.enclosed (.chain op.level) lhs.tokens ++
      .punct op.symbol :: rhs.enclosed (.chain (op.level + 1)) rhs.tokens
  | .letGlobal name params body => head name params ++ body.enclosed .sum body.tokens
  | .letLocal name params body scope =>
    head name params ++ (body.enclosed .sum body.tokens ++ .keyword ['i', 'n'] :: scope.tokens)

def tokensAt (e : Expr) (place : Symbol) : List Token := e.enclosed place e.tokens

theorem tokensAt_of_admits {e : Expr} {place : Symbol} (admits : place.Admits e.symbol) :
    e.tokensAt place = e.tokens := if_pos admits

theorem tokensAt_of_refuses {e : Expr} {place : Symbol} (refuses : ¬ place.Admits e.symbol) :
    e.tokensAt place = .punct ['('] :: (e.tokens ++ [.punct [')']]) := if_neg refuses

theorem tokensAt_expr (e : Expr) : e.tokensAt .expr = e.tokens := tokensAt_of_admits trivial

theorem tokens_binary (op : BinOp) (lhs rhs : Expr) :
    (binary op lhs rhs).tokens = lhs.tokensAt (.chain op.level) ++
      .punct op.symbol :: rhs.tokensAt (.chain (op.level + 1)) := rfl

theorem tokens_letGlobal (name : Text) (params : List Text) (body : Expr) :
    (letGlobal name params body).tokens = head name params ++ body.tokensAt .sum := rfl

theorem tokens_letLocal (name : Text) (params : List Text) (body scope : Expr) :
    (letLocal name params body scope).tokens =
      head name params ++ (body.tokensAt .sum ++ .keyword ['i', 'n'] :: scope.tokens) := rfl

/-- The text of an expression, with a space between any two tokens. -/
def written (e : Expr) : Text := Text.join [' '] (e.tokens.map Token.text)

def enclosedNesting (e : Expr) (place : Symbol) (nesting : Nat) : Nat :=
  if place.Admits e.symbol then nesting else nesting + parenCalls

/-- How deep parentheses and scopes stand inside one another in what is written, in calls. -/
def nesting : Expr → Nat
  | .int _ | .bool _ | .list _ | .ref _ => 0
  | .binary op lhs rhs =>
    max (lhs.enclosedNesting (.chain op.level) lhs.nesting)
      (rhs.enclosedNesting (.chain (op.level + 1)) rhs.nesting)
  | .letGlobal _ _ body => body.enclosedNesting .sum body.nesting
  | .letLocal _ _ body scope =>
    max (body.enclosedNesting .sum body.nesting) (scope.nesting + scopeCalls)

/-- How deep an expression is where a symbol is due. -/
def nestingAt (e : Expr) (place : Symbol) : Nat := e.enclosedNesting place e.nesting

/-- Whether an expression can be written: its numbers are literals, and its names identifiers. -/
def Writable : Expr → Prop
  | .int n => Token.IsElement n
  | .bool _ => True
  | .list items => ∀ n ∈ items, Token.IsElement n
  | .ref name => (Token.ident name).Readable
  | .binary _ lhs rhs => lhs.Writable ∧ rhs.Writable
  | .letGlobal name params body =>
    (∀ word ∈ name :: params, (Token.ident word).Readable) ∧ body.Writable
  | .letLocal name params body scope =>
    (∀ word ∈ name :: params, (Token.ident word).Readable) ∧ body.Writable ∧ scope.Writable

instance decidableWritable : DecidablePred Writable
  | .int n => inferInstanceAs (Decidable (0 ≤ n ∧ n ≤ Token.maxNumber))
  | .bool _ => inferInstanceAs (Decidable True)
  | .list items => inferInstanceAs (Decidable (∀ n ∈ items, 0 ≤ n ∧ n ≤ Token.maxNumber))
  | .ref name => inferInstanceAs (Decidable (Token.ident name).Readable)
  | .binary _ lhs rhs => @instDecidableAnd _ _ (decidableWritable lhs) (decidableWritable rhs)
  | .letGlobal name params body =>
    @instDecidableAnd _ _ (inferInstanceAs (Decidable (∀ word ∈ name :: params, _)))
      (decidableWritable body)
  | .letLocal name params body scope =>
    @instDecidableAnd _ _ (inferInstanceAs (Decidable (∀ word ∈ name :: params, _)))
      (@instDecidableAnd _ _ (decidableWritable body) (decidableWritable scope))

end Expr

theorem Numeral.value_ofInt {n : Int} (h : 0 ≤ n) : value (Text.ofInt n) = n := by
  obtain ⟨k, rfl⟩ := Int.eq_ofNat_of_zero_le h
  have digits : ∀ c ∈ Text.ofNat k, c.isDigit = true :=
    fun c hc => Nat.isDigit_of_mem_toDigits (by decide) (by decide) hc
  have read : value (Text.ofNat k) = Text.toNat (Text.ofNat k) := value_of_digits digits
  rw [Text.toNat_ofNat] at read
  exact read

theorem Token.IsElement.readable {n : Int} (h : IsElement n) :
    (Token.number (Text.ofInt n)).Readable := by
  obtain ⟨nonneg, small⟩ := h
  obtain ⟨k, rfl⟩ := Int.eq_ofNat_of_zero_le nonneg
  have small : k ≤ maxNumber := Int.ofNat_le.mp small
  have few : (Text.ofNat k).length ≤ 19 := by
    have bound : k < 10 ^ 19 := Nat.lt_of_le_of_lt small (by decide)
    exact (Nat.length_toDigits_le_iff (by decide) (by decide)).mpr bound
  have value : Text.toNat (Text.ofNat k) ≤ maxNumber := (Text.toNat_ofNat k).symm ▸ small
  exact ⟨Nat.toDigits_ne_nil, fun c hc => Nat.isDigit_of_mem_toDigits (by decide) (by decide) hc,
    Nat.le_trans few (by decide), value⟩

/-- A derivation bounds the depth of nesting, but need not reach the bound. -/
theorem Derives.deepen {depth deeper : Nat} {symbol : Symbol} {tokens : List Token} {e : Expr}
    (h : Derives depth symbol tokens e) (le : depth ≤ deeper) : Derives deeper symbol tokens e := by
  induction h generalizing deeper with
  | number => exact .number
  | true => exact .true
  | false => exact .false
  | ref => exact .ref
  | emptyList => exact .emptyList
  | list => exact .list
  | paren _ ih =>
    obtain ⟨more, rfl⟩ := Nat.exists_eq_add_of_le le
    rw [Nat.add_right_comm]
    exact (ih (Nat.le_add_right _ more)).paren
  | tighter _ ih => exact (ih le).tighter
  | binary _ _ ihl ihr => exact (ihl le).binary (ihr le)
  | sum _ ih => exact (ih le).sum
  | letGlobal _ ih => exact (ih le).letGlobal
  | letLocal _ _ ihb ihs =>
    obtain ⟨more, rfl⟩ := Nat.exists_eq_add_of_le le
    rw [Nat.add_right_comm] at le ⊢
    exact (ihb le).letLocal (ihs (Nat.le_add_right _ more))

namespace Expr

/-- Parentheses make room for an expression wherever a primary may stand. -/
theorem derives_tokensAt {e : Expr} {place : Symbol}
    (derived : Derives e.nesting e.symbol e.tokens e) (primary : place.Admits .primary) :
    Derives (e.nestingAt place) place (e.tokensAt place) e := by
  unfold nestingAt enclosedNesting
  by_cases admits : place.Admits e.symbol
  · rw [tokensAt_of_admits admits, if_pos admits]
    exact derived.admitted admits
  · rw [tokensAt_of_refuses admits, if_neg admits]
    have whole : Derives e.nesting .expr e.tokens e := derived.admitted trivial
    exact whole.paren.admitted primary

theorem derives_tokens {e : Expr} (writable : e.Writable) :
    Derives e.nesting e.symbol e.tokens e := by
  induction e with
  | int n =>
    have derived : Derives 0 .primary [.number (Text.ofInt n)]
        (.int (Numeral.value (Text.ofInt n))) := .number
    rwa [Numeral.value_ofInt writable.1] at derived
  | bool b =>
    cases b with
    | true => exact .true
    | false => exact .false
  | list items =>
    cases items with
    | nil => exact .emptyList
    | cons n items =>
      have values : ((n :: items).map Text.ofInt).map Numeral.value = n :: items := by
        rw [List.map_map]
        refine (List.map_congr_left fun m member => ?_).trans (List.map_id _)
        exact Numeral.value_ofInt (writable m member).1
      have derived : Derives 0 .primary (list (n :: items)).tokens
          (.list (((n :: items).map Text.ofInt).map Numeral.value)) := .list
      rwa [values] at derived
  | ref name => exact .ref
  | binary op lhs rhs ihl ihr =>
    have tight : op.level + 1 ≤ 3 := Nat.succ_le_succ op.level_le
    have left := derives_tokensAt (ihl writable.1) (Symbol.admits_primary (Nat.le_of_succ_le tight))
    have right := derives_tokensAt (ihr writable.2) (Symbol.admits_primary tight)
    exact (left.deepen (Nat.le_max_left _ _)).binary (right.deepen (Nat.le_max_right _ _))
  | letGlobal name params body ih =>
    exact (derives_tokensAt (ih writable.2) (Symbol.admits_primary (Nat.zero_le 3))).letGlobal
  | letLocal name params body scope ihb ihs =>
    have left : Derives (body.nestingAt .sum) .sum (body.tokensAt .sum) body :=
      derives_tokensAt (ihb writable.2.1) (Symbol.admits_primary (Nat.zero_le 3))
    have right : Derives scope.nesting .expr scope.tokens scope :=
      (ihs writable.2.2).admitted trivial
    -- a scope is deeper than the binding that it belongs to, and the body is not
    have whole : (letLocal name params body scope).nesting =
        max (body.nestingAt .sum) (scope.nesting + scopeCalls) := rfl
    have deep : max (body.nestingAt .sum) (scope.nesting + scopeCalls) =
        max (body.nestingAt .sum - scopeCalls) scope.nesting + scopeCalls := by omega
    rw [whole, deep]
    exact (left.deepen (by omega)).letLocal (right.deepen (Nat.le_max_right _ _))

end Expr

theorem Grammar.readable_head {name : Text} {params : List Text}
    (h : ∀ word ∈ name :: params, (Token.ident word).Readable) :
    ∀ t ∈ head name params, t.Readable := by
  obtain ⟨named, others⟩ := List.forall_mem_cons.mp h
  have signs : (Token.keyword ['l', 'e', 't']).Readable ∧ (Token.punct ['=']).Readable := by decide
  have parameters : ∀ t ∈ params.map Token.ident, t.Readable := List.forall_mem_map.mpr others
  have ending := List.forall_mem_append.mpr ⟨parameters, List.forall_mem_singleton.mpr signs.2⟩
  exact List.forall_mem_cons.mpr ⟨signs.1, List.forall_mem_cons.mpr ⟨named, ending⟩⟩

theorem Grammar.readable_elements {texts : List Text}
    (h : ∀ text ∈ texts, (Token.number text).Readable) : ∀ t ∈ elements texts, t.Readable := by
  intro t member
  obtain ⟨text, listed, here⟩ := List.mem_flatMap.mp member
  rcases List.mem_cons.mp here with rfl | here
  · decide
  · rw [List.mem_singleton.mp here]
    exact h text listed

namespace Expr

theorem readable_tokensAt {e : Expr} (place : Symbol) (h : ∀ t ∈ e.tokens, t.Readable) :
    ∀ t ∈ e.tokensAt place, t.Readable := by
  by_cases admits : place.Admits e.symbol
  · rw [tokensAt_of_admits admits]
    exact h
  · have parens : (Token.punct ['(']).Readable ∧ (Token.punct [')']).Readable := by decide
    have closed := List.forall_mem_append.mpr ⟨h, List.forall_mem_singleton.mpr parens.2⟩
    rw [tokensAt_of_refuses admits]
    exact List.forall_mem_cons.mpr ⟨parens.1, closed⟩

theorem readable_tokens {e : Expr} (writable : e.Writable) : ∀ t ∈ e.tokens, t.Readable := by
  induction e with
  | int n => exact List.forall_mem_singleton.mpr writable.readable
  | bool b => cases b <;> decide
  | list items =>
    cases items with
    | nil => decide
    | cons n items =>
      obtain ⟨first, others⟩ := List.forall_mem_cons.mp writable
      have signs : (Token.punct ['[']).Readable ∧ (Token.punct [']']).Readable := by decide
      have rest : ∀ text ∈ items.map Text.ofInt, (Token.number text).Readable :=
        List.forall_mem_map.mpr fun m member => (others m member).readable
      have ending := List.forall_mem_append.mpr
        ⟨readable_elements rest, List.forall_mem_singleton.mpr signs.2⟩
      exact List.forall_mem_cons.mpr ⟨signs.1, List.forall_mem_cons.mpr ⟨first.readable, ending⟩⟩
  | ref name => exact List.forall_mem_singleton.mpr writable
  | binary op lhs rhs ihl ihr =>
    have sign : (Token.punct op.symbol).Readable := by cases op <;> decide
    have left := readable_tokensAt (.chain op.level) (ihl writable.1)
    have right := readable_tokensAt (.chain (op.level + 1)) (ihr writable.2)
    exact List.forall_mem_append.mpr ⟨left, List.forall_mem_cons.mpr ⟨sign, right⟩⟩
  | letGlobal name params body ih =>
    have inner := readable_tokensAt .sum (ih writable.2)
    exact List.forall_mem_append.mpr ⟨readable_head writable.1, inner⟩
  | letLocal name params body scope ihb ihs =>
    have sign : (Token.keyword ['i', 'n']).Readable := by decide
    have inner := readable_tokensAt .sum (ihb writable.2.1)
    have ending := List.forall_mem_cons.mpr ⟨sign, ihs writable.2.2⟩
    have rest := List.forall_mem_append.mpr ⟨inner, ending⟩
    exact List.forall_mem_append.mpr ⟨readable_head writable.1, rest⟩

end Expr

theorem spells_token {t : Token} (readable : t.Readable) : Spells t.text [t] := by
  have alone : Spells (t.text ++ []) [t] := Spells.nil.cons readable fun c none => nomatch none
  rwa [List.append_nil] at alone

theorem spells_join {tokens : List Token} (readable : ∀ t ∈ tokens, t.Readable) :
    Spells (Text.join [' '] (tokens.map Token.text)) tokens := by
  induction tokens with
  | nil => exact .nil
  | cons t rest ih =>
    obtain ⟨first, others⟩ := List.forall_mem_cons.mp readable
    cases rest with
    | nil =>
      rw [List.map_singleton, Text.join_singleton]
      exact spells_token first
    | cons u rest =>
      have space : Token.isGap ' ' = true := rfl
      have ends : t.EndsAt (' ' :: Text.join [' '] ((u :: rest).map Token.text)) := by
        rintro c ⟨⟩
        exact continues_gap t space
      rw [List.map_cons, List.map_cons, Text.join_cons_cons, List.append_assoc]
      exact ((ih others).gap space).cons first ends

theorem Grammar.length_elements (texts : List Text) :
    (elements texts).length = 2 * texts.length := by
  induction texts with
  | nil => rfl
  | cons text texts ih =>
    have step : (elements (text :: texts)).length = (elements texts).length + 2 := rfl
    rw [step, ih, List.length_cons]
    omega

namespace Expr

theorem length_tokensAt_of_refuses {e : Expr} {place : Symbol}
    (refuses : ¬ place.Admits e.symbol) : (e.tokensAt place).length = e.tokens.length + 2 := by
  rw [tokensAt_of_refuses refuses, List.length_cons, List.length_append]
  rfl

theorem length_tokensAt_le (e : Expr) (place : Symbol) :
    (e.tokensAt place).length ≤ e.tokens.length + 2 := by
  by_cases admits : place.Admits e.symbol
  · rw [tokensAt_of_admits admits]
    exact Nat.le_add_right _ 2
  · exact Nat.le_of_eq (length_tokensAt_of_refuses admits)

theorem length_tokensAt_mono {e : Expr} {loose tight : Symbol}
    (weaker : tight.Admits e.symbol → loose.Admits e.symbol) :
    (e.tokensAt loose).length ≤ (e.tokensAt tight).length := by
  by_cases admits : tight.Admits e.symbol
  · have same : e.tokensAt loose = e.tokensAt tight := by
      rw [tokensAt_of_admits admits, tokensAt_of_admits (weaker admits)]
    exact Nat.le_of_eq (congrArg List.length same)
  · rw [length_tokensAt_of_refuses admits]
    exact e.length_tokensAt_le loose

end Expr

theorem Derives.length_tokensAt_le {depth : Nat} {place : Symbol} {own : List Token} {e : Expr}
    (h : Derives depth place own e) : (e.tokensAt place).length ≤ own.length := by
  induction h with
  | number => exact Nat.le_refl 1
  | true => exact Nat.le_refl 1
  | false => exact Nat.le_refl 1
  | ref => exact Nat.le_refl 1
  | emptyList => exact Nat.le_refl 2
  | @list _ text texts =>
    have admits : Symbol.primary.Admits .primary := Nat.le_refl 3
    rw [Expr.tokensAt_of_admits admits]
    simp [Expr.tokens, length_elements]
  | @paren _ own e _ ih =>
    have bound := e.length_tokensAt_le .primary
    rw [e.tokensAt_expr] at ih
    rw [List.length_cons, List.length_append]
    exact Nat.le_trans bound (Nat.add_le_add_right ih 2)
  | tighter _ ih => exact Nat.le_trans (Expr.length_tokensAt_mono Symbol.Admits.looser) ih
  | @binary _ op _ _ lhs rhs _ _ ihl ihr =>
    have admits : (Symbol.chain op.level).Admits (.chain op.level) := Nat.le_refl op.level
    rw [Expr.tokensAt_of_admits admits, Expr.tokens_binary, List.length_append, List.length_append]
    exact Nat.add_le_add ihl (Nat.succ_le_succ ihr)
  | sum _ ih => exact Nat.le_trans (Expr.length_tokensAt_mono fun _ => trivial) ih
  | @letGlobal _ name params _ body _ ih =>
    rw [Expr.tokensAt_expr, Expr.tokens_letGlobal, List.length_append, List.length_append]
    exact Nat.add_le_add_left ih _
  | @letLocal _ name params _ body _ scope _ _ ihb ihs =>
    rw [scope.tokensAt_expr] at ihs
    rw [Expr.tokensAt_expr, Expr.tokens_letLocal]
    simp only [List.length_append, List.length_cons]
    omega

/-- What is written for an expression is read back as the expression, unless it is nested too deeply
to be read, and no shorter list of tokens is read as that expression. -/
theorem written_is_read_back {room : Nat} {e : Expr} (writable : e.Writable)
    (shallow : e.nesting ≤ room) :
    Statement.parse room e.written = .ok e ∧
      ∀ tokens, Parser.parse room tokens = .ok e → e.tokens.length ≤ tokens.length := by
  have derived : Derives e.nesting .expr e.tokens e := (e.derives_tokens writable).admitted trivial
  have parsed : Parser.parse room e.tokens = .ok e := Parser.parse_eq_ok_iff.mpr (derived.deepen shallow)
  have read : Token.tokenize e.written = .ok e.tokens :=
    tokenize_eq_ok_iff_spells.mpr (spells_join (e.readable_tokens writable))
  constructor
  · rw [Statement.parse, read]
    exact congrArg (Except.mapError StatementError.parse) parsed
  · intro tokens same
    have least := (Parser.parse_eq_ok_iff.mp same).length_tokensAt_le
    rwa [Expr.tokensAt_expr] at least

/-- Both factors of what is bound to f are written in parentheses, and so is the binding of y that
is compared. -/
theorem written_with_parentheses :
    let body : Expr := .binary .mul (.binary .add (.ref ['x']) (.int 1))
      (.binary .mul (.int 20) (.list [3, 4]))
    let e : Expr := .letLocal ['f'] [['x']] body
      (.binary .eq (.letGlobal ['y'] [] (.bool true)) (.ref ['f']))
    e.Writable ∧ e.nesting ≤ 8 ∧
      e.written = "let f x = ( x + 1 ) * ( 20 * [ 3 ; 4 ] ) in ( let y = true ) == f" ∧
      Statement.parse 8 e.written = .ok e := by
  intro body e
  have writable : e.Writable := by decide
  have shallow : e.nesting ≤ 8 := by decide
  exact ⟨writable, shallow, by decide, (written_is_read_back writable shallow).1⟩

end LetLang
