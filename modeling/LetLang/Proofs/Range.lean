import LetLang.Proofs.BigStep
import LetLang.Proofs.Grammar.Parsing
import LetLang.Proofs.Spelling
import LetLang.Statement

/-! # The range of values

The numbers that statements can make. Literals are bounded where they are read and arithmetic
wraps around, so whatever is bound or printed fits 64 bits. The bounds are followed from the tokens
of a statement to its expression, and along the rules of evaluation to the environment, whether or
not the statement has an output.
-/
namespace LetLang

def Token.IsElement (n : Int) : Prop := 0 ≤ n ∧ n ≤ maxNumber

/-- The values that statements can have. -/
def Value.InRange : Value → Prop
  | .int n => Word.Fits n
  | .list items => ∀ n ∈ items, Token.IsElement n
  | .bool _ | .function => True

/-- Every name is an identifier and stands once, and every value is in range. -/
structure Env.Sound (env : Env) : Prop where
  names : ∀ name ∈ env.names, (Token.ident name).Readable
  nodup : env.names.Nodup
  values : ∀ binding ∈ env.bindings, binding.2.InRange

/-- The names that an expression binds are identifiers, and its numbers are in range. -/
def Expr.Sound : Expr → Prop
  | .int n => Word.Fits n
  | .list items => ∀ n ∈ items, Token.IsElement n
  | .bool _ | .ref _ => True
  | .binary _ lhs rhs => lhs.Sound ∧ rhs.Sound
  | .letGlobal name _ body => (Token.ident name).Readable ∧ body.Sound
  | .letLocal name _ body scope => (Token.ident name).Readable ∧ body.Sound ∧ scope.Sound

theorem Word.fits_quotient (a b : Int) : Fits (quotient a b) := fits_wrap _

namespace Env

theorem sound_empty : Env.empty.Sound :=
  ⟨fun _ h => absurd h List.not_mem_nil, List.nodup_nil, fun _ h => absurd h List.not_mem_nil⟩

theorem mem_of_lookup? {env : Env} {name : Text} {value : Value}
    (h : env.lookup? name = some value) : (name, value) ∈ env.bindings := by
  obtain ⟨before, after, split, _⟩ := List.lookup_eq_some_iff.mp h
  rw [split]
  exact List.mem_append_right before List.mem_cons_self

theorem Sound.inRange_of_lookup? {env : Env} (h : env.Sound) {name : Text} {value : Value}
    (found : env.lookup? name = some value) : value.InRange :=
  h.values _ (mem_of_lookup? found)

theorem mem_rebind {name : Text} {value : Value} {bindings : List (Text × Value)}
    {binding : Text × Value} (h : binding ∈ rebind name value bindings) :
    binding = (name, value) ∨ binding ∈ bindings := by
  induction bindings with
  | nil => exact .inl (List.mem_singleton.mp h)
  | cons first rest ih =>
    rw [rebind] at h
    split at h
    · rcases List.mem_cons.mp h with new | old
      · exact .inl new
      · exact .inr (List.mem_cons_of_mem _ old)
    · rcases List.mem_cons.mp h with same | later
      · exact .inr (same ▸ List.mem_cons_self)
      · exact (ih later).imp_right (List.mem_cons_of_mem _)

theorem Sound.bind {env : Env} (h : env.Sound) {name : Text} (readable : (Token.ident name).Readable)
    {value : Value} (range : value.InRange) : (env.bind name value).Sound := by
  refine ⟨?_, ?_, ?_⟩
  · intro n member
    rw [names_bind] at member
    split at member
    · exact h.names n member
    · rcases List.mem_append.mp member with old | new
      · exact h.names n old
      · rw [List.mem_singleton.mp new]
        exact readable
  · exact nodup_names_bind h.nodup name value
  · intro binding member
    rcases mem_rebind member with rfl | old
    · exact range
    · exact h.values binding old

end Env

theorem BinOp.inRange_of_onInts {op : BinOp} {a b : Int} {value : Value}
    (h : op.onInts a b = .ok value) : value.InRange := by
  cases op with
  | add | sub | mul =>
    cases h
    exact Word.fits_wrap _
  | div =>
    rw [onInts] at h
    split at h <;> cases h
    exact Word.fits_quotient a b
  | eq | ne =>
    cases h
    trivial

theorem BinOp.inRange_of_apply {op : BinOp} {a b value : Value} (h : op.apply a b = .ok value) :
    value.InRange := by
  unfold apply at h
  split at h
  · exact inRange_of_onInts h
  · cases h
    trivial
  · cases h
    trivial
  · cases h

def Outcome.Sound (result : Except EvalError Output) (left : Env) : Prop :=
  left.Sound ∧ ∀ out, result = .ok out → out.value.InRange

theorem Env.Sound.failed {left : Env} (h : left.Sound) (e : EvalError) :
    Outcome.Sound (.error e) left :=
  ⟨h, fun _ passed => nomatch passed⟩

theorem Env.Sound.passed {left : Env} (h : left.Sound) {out : Output} (range : out.value.InRange) :
    Outcome.Sound (.ok out) left :=
  ⟨h, fun _ passed => Except.ok.inj passed ▸ range⟩

mutual

theorem Evaluates.sound {e : Expr} {env left : Env} {result : Except EvalError Output}
    (sound : e.Sound) (h : env.Sound) : Evaluates e env result left → Outcome.Sound result left
  | .int | .list => h.passed sound
  | .bool => h.passed trivial
  | .bound found => h.passed (h.inRange_of_lookup? found)
  | .unbound _ => h.failed _
  | .leftFails hl | .leftBinding hl => (hl.sound sound.1 h).1.failed _
  | .rightFails hl hr | .rightBinding hl hr | .refused hl hr _ =>
      (hr.sound sound.2 (hl.sound sound.1 h).1).1.failed _
  | .applied hl hr ha =>
      (hr.sound sound.2 (hl.sound sound.1 h).1).1.passed (BinOp.inRange_of_apply ha)
  | .letGlobal hb => by
      obtain ⟨left, range⟩ := hb.sound sound.2 h
      have range := range _ rfl
      exact (left.bind sound.1 range).passed range
  | .letGlobalFails hb => (hb.sound sound.2 h).1.failed _
  | .letLocal hb hs => by
      -- the environment of the scope is sound too, but it is not the one that is left
      obtain ⟨left, range⟩ := hb.sound sound.2.1 h
      have inner := hs.sound sound.2.2 (left.bind sound.1 (range _ rfl))
      exact ⟨left, inner.2⟩
  | .letLocalFails hb => (hb.sound sound.2.1 h).1.failed _

theorem Supplies.sound {name : Text} {params : List Text} {body : Expr} {env left : Env}
    {result : Except EvalError Value} (sound : body.Sound) (h : env.Sound) :
    Supplies name params body env result left →
      left.Sound ∧ ∀ value, result = .ok value → value.InRange
  | .function => ⟨h, fun _ passed => Except.ok.inj passed ▸ trivial⟩
  | .value hb => by
      obtain ⟨left, range⟩ := hb.sound sound h
      exact ⟨left, fun value passed => Except.ok.inj passed ▸ range _ rfl⟩
  | .binding hb | .fails hb => ⟨(hb.sound sound h).1, fun _ passed => nomatch passed⟩

end

theorem Token.Readable.isElement {digits : Text} (h : (Token.number digits).Readable) :
    IsElement (Numeral.value digits) := by
  obtain ⟨_, plain, _, small⟩ := h
  rw [Numeral.value_of_digits plain]
  exact ⟨Int.natCast_nonneg _, Int.ofNat_le.mpr small⟩

theorem Token.IsElement.fits {n : Int} (h : IsElement n) : Word.Fits n := by
  unfold IsElement maxNumber at h
  unfold Word.Fits
  omega

theorem Derives.sound {depth : Nat} {symbol : Symbol} {tokens : List Token} {e : Expr}
    (h : Derives depth symbol tokens e) (readable : ∀ t ∈ tokens, t.Readable) : e.Sound := by
  induction h with
  | number => exact (readable _ (List.mem_singleton_self _)).isElement.fits
  | true | false | ref => trivial
  | emptyList => exact fun n h => absurd h List.not_mem_nil
  | @list depth text texts =>
    intro n member
    obtain ⟨digits, listed, rfl⟩ := List.mem_map.mp member
    have written : Token.number digits ∈
        Token.punct ['['] :: .number text :: (Grammar.elements texts ++ [.punct [']']]) := by
      rcases List.mem_cons.mp listed with rfl | later
      · simp
      · simp [Grammar.elements, later]
    exact (readable _ written).isElement
  | paren _ ih => exact ih fun t h => readable t (by simp [h])
  | tighter _ ih | sum _ ih => exact ih readable
  | binary _ _ ihl ihr =>
    exact ⟨ihl fun t h => readable t (by simp [h]), ihr fun t h => readable t (by simp [h])⟩
  | letGlobal _ ih =>
    exact ⟨readable _ (by simp [Grammar.head]), ih fun t h => readable t (by simp [h])⟩
  | letLocal _ _ ihb ihs =>
    exact ⟨readable _ (by simp [Grammar.head]), ihb fun t h => readable t (by simp [h]),
      ihs fun t h => readable t (by simp [h])⟩

namespace Statement

theorem readable_of_tokenize {text : Text} {tokens : List Token}
    (h : Token.tokenize text = .ok tokens) : ∀ t ∈ tokens, t.Readable := by
  obtain ⟨spelling, _, _, rfl⟩ := tokenize_eq_ok_iff_spells.mp h
  intro t member
  obtain ⟨item, _, rfl⟩ := List.mem_map.mp member
  exact item.readable

theorem tokens_of_parse {room : Nat} {text : Text} {e : Expr} (h : parse room text = .ok e) :
    ∃ tokens, Token.tokenize text = .ok tokens ∧ Parser.parse room tokens = .ok e := by
  unfold parse at h
  cases read : Token.tokenize text with
  | error _ =>
    rw [read] at h
    cases h
  | ok tokens =>
    rw [read] at h
    cases parsed : Parser.parse room tokens with
    | error _ =>
      simp only [parsed] at h
      cases h
    | ok e' =>
      simp only [parsed] at h
      cases h
      exact ⟨tokens, rfl, parsed⟩

theorem sound_of_parse {room : Nat} {text : Text} {e : Expr} (h : parse room text = .ok e) :
    e.Sound := by
  obtain ⟨tokens, read, parsed⟩ := tokens_of_parse h
  exact (Parser.parse_eq_ok_iff.mp parsed).sound (readable_of_tokenize read)

theorem evaluates_of_run {room : Nat} {statement : Text} {env left : Env} {out : Output}
    (h : run room statement env = (.ok out, left)) :
    ∃ text e, body statement = .ok text ∧ parse room text = .ok e ∧
      Evaluates e env (.ok out) left := by
  unfold run at h
  cases cut : body statement with
  | error _ =>
    rw [cut] at h
    cases h
  | ok text =>
    cases parsed : parse room text with
    | error _ =>
      simp only [cut, parsed] at h
      cases h
    | ok e =>
      simp only [cut, parsed] at h
      exact ⟨text, e, rfl, parsed, (run_eq_iff_evaluates e env _ _).mp (run_of_runParsed h)⟩

theorem sound_run (room : Nat) {env : Env} (h : env.Sound) (statement : Text) :
    (run room statement env).2.Sound ∧
      ∀ out, (run room statement env).1 = .ok out → out.value.InRange := by
  have untouched (e : StatementError) :
      env.Sound ∧ ∀ out, (.error e : Except StatementError Output) = .ok out → out.value.InRange :=
    ⟨h, fun _ passed => nomatch passed⟩
  unfold run
  split
  · exact untouched _
  · split
    · exact untouched _
    · rename_i e parsed
      unfold runParsed
      split
      · rcases ran : e.run env with ⟨err | out, left⟩
        · have sound := ((run_eq_iff_evaluates e env _ left).mp ran).sound (sound_of_parse parsed) h
          exact ⟨sound.1, fun _ passed => nomatch passed⟩
        · have sound := ((run_eq_iff_evaluates e env _ left).mp ran).sound (sound_of_parse parsed) h
          exact ⟨sound.1, fun _ passed => Except.ok.inj passed ▸ sound.2 out rfl⟩
      · exact untouched _

end Statement

end LetLang
