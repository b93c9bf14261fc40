import LetLang.Proofs.Grammar

/-! # Reading tokens by the grammar

The states of the parser as a machine, with the calls that are open bounded by any limit. What the
grammar derives is read token by token, and each state that is reached says what of the grammar
has been read already: for every limit the machine accepts exactly what is derived within it.
-/
namespace LetLang.Parser

/-- The state behind a list of tokens, no state on the way having more calls open than a limit. -/
inductive Reads (limit : Nat) : State → List Token → State → Prop
  | nil {s} : Reads limit s [] s
  | cons {s next last t tokens} : s.advance t = some next → next.calls ≤ limit →
      Reads limit next tokens last → Reads limit s (t :: tokens) last

namespace Reads

variable {limit : Nat}

theorem single {s next : State} {t : Token} (step : s.advance t = some next)
    (depth : next.calls ≤ limit) : Reads limit s [t] next :=
  .cons step depth .nil

theorem append {s mid last : State} {front back : List Token} (h : Reads limit s front mid)
    (k : Reads limit mid back last) : Reads limit s (front ++ back) last := by
  induction h with
  | nil => exact k
  | cons step depth _ ih => exact .cons step depth (ih k)

theorem unique {other : Nat} {s last last' : State} {tokens : List Token}
    (h : Reads limit s tokens last) (k : Reads other s tokens last') : last = last' := by
  induction h with
  | nil =>
    cases k
    rfl
  | cons step _ _ ih =>
    cases k with
    | cons step' _ k =>
      rw [step] at step'
      cases step'
      exact ih k

end Reads

/-- Whether waiting operators let a chain of a level stand as their right operand: the innermost
of them is looser. -/
def Fits (level : Nat) (ops : Waiting) : Prop := ∀ w ∈ ops.head?, w.2.level < level

theorem Fits.nil (level : Nat) : Fits level [] :=
  fun _ hw => absurd hw (by simp)

theorem Fits.reduce {level : Nat} {ops : Waiting} (h : Fits level ops) (e : Expr) :
    reduce level ops e = (ops, e) := by
  cases ops with
  | nil => rfl
  | cons w ops =>
    obtain ⟨lhs, op⟩ := w
    have looser : op.level < level := h (lhs, op) rfl
    rw [Parser.reduce, if_neg (Nat.not_le.mpr looser)]

theorem Fits.mono {level tight : Nat} {ops : Waiting} (h : Fits level ops) (le : level ≤ tight) :
    Fits tight ops :=
  fun w hw => Nat.lt_of_lt_of_le (h w hw) le

/-- Reducing to a tight level first makes no difference. -/
theorem reduce_reduce {loose tight : Nat} (le : loose ≤ tight) (ops : Waiting) (e : Expr) :
    reduce loose (reduce tight ops e).1 (reduce tight ops e).2 = reduce loose ops e := by
  induction ops generalizing e with
  | nil => rfl
  | cons w ops ih =>
    obtain ⟨lhs, op⟩ := w
    by_cases h : tight ≤ op.level
    · simp only [reduce, if_pos h, if_pos (Nat.le_trans le h), ih]
    · simp only [reduce, if_neg h]

theorem reads_params {limit : Nat} (name : Text) (params done : List Text) {frames : List Frame}
    (depth : openCalls frames ≤ limit) :
    Reads limit ⟨.params name done, frames⟩ (params.map .ident)
      ⟨.params name (params.reverse ++ done), frames⟩ := by
  induction params generalizing done with
  | nil => exact .nil
  | cons param params ih =>
    rw [List.reverse_cons, List.append_assoc]
    exact .cons rfl depth (ih (param :: done))

theorem reads_head {limit : Nat} (name : Text) (params : List Text) {frames : List Frame}
    (depth : openCalls frames ≤ limit) :
    Reads limit ⟨.expression, frames⟩ (Grammar.head name params)
      ⟨.operand [], .binding name params :: frames⟩ := by
  have names := reads_params name params [] depth
  rw [List.append_nil] at names
  have sign : Reads limit ⟨.params name params.reverse, frames⟩ [.punct ['=']]
      ⟨.operand [], .binding name params :: frames⟩ :=
    .single (by simp [State.advance]) depth
  exact .cons rfl depth (.cons rfl depth (names.append sign))

theorem reads_elements {limit : Nat} (ops : Waiting) (texts : List Text) (items : List Int)
    {frames : List Frame} (depth : openCalls frames ≤ limit) :
    Reads limit ⟨.separator ops items, frames⟩ (Grammar.elements texts ++ [.punct [']']])
      ⟨.operator ops (.list (items.reverse ++ texts.map Numeral.value)), frames⟩ := by
  induction texts generalizing items with
  | nil =>
    rw [List.map_nil, List.append_nil]
    exact .single rfl depth
  | cons text texts ih =>
    have rest := ih (Numeral.value text :: items)
    rw [List.reverse_cons, List.append_assoc] at rest
    exact .cons rfl depth (.cons rfl depth rest)

/-- What reading derived tokens comes to. A chain is left with its own operators waiting, which
the next looser operator reduces; an expression is left with its own bindings open, which the end
of what is around it unwinds. -/
def ReadAs (limit depth : Nat) (tokens : List Token) (e : Expr) : Symbol → Prop
  | .chain level => ∀ (ops : Waiting) (frames : List Frame), Fits level ops →
      openCalls frames + depth ≤ limit →
      ∃ ops' e', Reads limit ⟨.operand ops, frames⟩ tokens ⟨.operator ops' e', frames⟩ ∧
        reduce level ops' e' = (ops, e)
  | .expr => ∀ frames : List Frame, openCalls frames + depth ≤ limit →
      ∃ ops' e' frames', Reads limit ⟨.expression, frames⟩ tokens ⟨.operator ops' e', frames'⟩ ∧
        unwind frames' (close ops' e') = unwind frames e

theorem readAs_primary {limit depth : Nat} {t : Token} {e : Expr}
    (step : ∀ ops frames, beginOperand ops frames t = some ⟨.operator ops e, frames⟩) :
    ReadAs limit depth [t] e .primary := by
  intro ops frames fits le
  exact ⟨ops, e, .single (step ops frames) (Nat.le_of_add_right_le le), fits.reduce e⟩

theorem Reads.of_operand {limit : Nat} {frames frames' : List Frame} {tokens : List Token}
    {ops : Waiting} {e : Expr}
    (h : Reads limit ⟨.operand [], frames⟩ tokens ⟨.operator ops e, frames'⟩) :
    Reads limit ⟨.expression, frames⟩ tokens ⟨.operator ops e, frames'⟩ := by
  cases h with
  | @cons _ next _ t rest step depth h =>
    refine .cons ?_ depth h
    by_cases let? : t = .keyword ['l', 'e', 't']
    · subst let?
      cases step
    · exact (if_neg let?).trans step

/-- Behind a sum nothing waits that is not its own. -/
theorem ReadAs.of_sum {limit depth : Nat} {tokens : List Token} {e : Expr}
    (h : ReadAs limit depth tokens e .sum) {frames : List Frame}
    (le : openCalls frames + depth ≤ limit) :
    ∃ ops' e', Reads limit ⟨.operand [], frames⟩ tokens ⟨.operator ops' e', frames⟩ ∧
      close ops' e' = e := by
  obtain ⟨ops', e', reads, reduced⟩ := h [] frames (.nil 0) le
  rw [reduce_zero] at reduced
  exact ⟨ops', e', reads, congrArg Prod.snd reduced⟩

/-- Behind the right-hand side of a binding, the binding is open. -/
theorem ReadAs.of_body {limit depth : Nat} {tokens : List Token} {body : Expr}
    (h : ReadAs limit depth tokens body .sum) (name : Text) (params : List Text)
    {frames : List Frame} (le : openCalls frames + depth ≤ limit) :
    ∃ ops' e', Reads limit ⟨.expression, frames⟩ (Grammar.head name params ++ tokens)
        ⟨.operator ops' e', .binding name params :: frames⟩ ∧ close ops' e' = body := by
  have inside : openCalls (.binding name params :: frames) + depth ≤ limit := le
  obtain ⟨ops', e', reads, closed⟩ := h.of_sum inside
  exact ⟨ops', e', (reads_head name params (Nat.le_of_add_right_le le)).append reads, closed⟩

theorem readAs_of_derives {limit depth : Nat} {symbol : Symbol} {tokens : List Token} {e : Expr}
    (h : Derives depth symbol tokens e) : ReadAs limit depth tokens e symbol := by
  induction h with
  | number => exact readAs_primary fun _ _ => rfl
  | true => exact readAs_primary fun _ _ => rfl
  | false => exact readAs_primary fun _ _ => rfl
  | ref => exact readAs_primary fun _ _ => rfl
  | emptyList =>
    intro ops frames fits le
    have depth := Nat.le_of_add_right_le le
    exact ⟨ops, _, .cons rfl depth (.single rfl depth), fits.reduce _⟩
  | @list _ text texts =>
    intro ops frames fits le
    have depth := Nat.le_of_add_right_le le
    have rest := reads_elements ops texts [Numeral.value text] depth
    exact ⟨ops, _, .cons rfl depth (.cons rfl depth rest), fits.reduce _⟩
  | @paren depth tokens e _ ih =>
    intro ops frames fits le
    have outer := Nat.le_of_add_right_le le
    have inner : openCalls (.paren ops :: frames) + depth ≤ limit := by
      rw [openCalls]
      omega
    obtain ⟨ops', e', frames', reads, unwound⟩ := ih (.paren ops :: frames) inner
    have opened : Reads limit ⟨.operand ops, frames⟩ (.punct ['('] :: tokens)
        ⟨.operator ops' e', frames'⟩ :=
      .cons rfl (Nat.le_of_add_right_le inner) reads
    have closed : State.advance ⟨.operator ops' e', frames'⟩ (.punct [')']) =
        some ⟨.operator ops e, frames⟩ := by
      have noOp : BinOp.ofSymbol? [')'] = none := rfl
      simp only [State.advance, afterOperand, noOp, unwound, unwind, if_true]
    exact ⟨ops, e, opened.append (.single closed outer), fits.reduce e⟩
  | @tighter _ level _ e _ ih =>
    intro ops frames fits le
    obtain ⟨ops', e', reads, reduced⟩ := ih ops frames (fits.mono (Nat.le_succ level)) le
    refine ⟨ops', e', reads, ?_⟩
    rw [← reduce_reduce (Nat.le_succ level), reduced]
    exact fits.reduce e
  | @binary _ op left right lhs rhs _ _ ihl ihr =>
    intro ops frames fits le
    obtain ⟨ops₁, e₁, first, reduced₁⟩ := ihl ops frames fits le
    have sign : State.advance ⟨.operator ops₁ e₁, frames⟩ (.punct op.symbol) =
        some ⟨.operand ((lhs, op) :: ops), frames⟩ := by
      simp only [State.advance, afterOperand, BinOp.ofSymbol?_symbol, reduced₁]
    have waits : Fits (op.level + 1) ((lhs, op) :: ops) := by
      intro w hw
      cases hw
      exact Nat.lt_succ_self _
    obtain ⟨ops₂, e₂, second, reduced₂⟩ := ihr _ frames waits le
    refine ⟨ops₂, e₂, first.append (.cons sign (Nat.le_of_add_right_le le) second), ?_⟩
    rw [← reduce_reduce (Nat.le_succ op.level), reduced₂]
    simp only [reduce, Nat.le_refl, if_true]
    exact fits.reduce _
  | sum _ ih =>
    intro frames le
    obtain ⟨ops', e', reads, rfl⟩ := ReadAs.of_sum ih le
    exact ⟨ops', e', frames, reads.of_operand, rfl⟩
  | @letGlobal _ name params _ body _ ih =>
    intro frames le
    obtain ⟨ops', e', reads, rfl⟩ := ReadAs.of_body ih name params le
    exact ⟨ops', e', _, reads, rfl⟩
  | @letLocal depth name params tokens body _ scope _ _ ihb ihs =>
    intro frames le
    obtain ⟨ops', e', reads, rfl⟩ := ReadAs.of_body ihb name params le
    have inner : openCalls (.scope name params (close ops' e') :: frames) + depth ≤
        limit := by
      rw [openCalls]
      omega
    obtain ⟨ops₂, e₂, frames₂, reads₂, unwound⟩ := ihs _ inner
    have entered : Reads limit ⟨.operator ops' e', .binding name params :: frames⟩
        [.keyword ['i', 'n']] ⟨.expression, .scope name params (close ops' e') :: frames⟩ :=
      .single rfl (Nat.le_of_add_right_le inner)
    refine ⟨ops₂, e₂, frames₂, ?_, unwound⟩
    rw [← List.append_assoc]
    exact reads.append (entered.append reads₂)

end LetLang.Parser
