import LetLang.Proofs.Grammar.Reading

/-! # States that are reached

What a state of the parser has read, told by the grammar: the open constructs, the waiting
operators with their left operands, and the part that the mode is about. Every step keeps this
account, so what the machine accepts is derived.
-/
namespace LetLang.Parser

/-- The tokens of waiting operators and their left operands, whose levels rise inwards. -/
inductive Waits (depth : Nat) : Waiting → List Token → Prop
  | nil : Waits depth [] []
  | cons {ops tokens op left lhs} : Waits depth ops tokens → Fits op.level ops →
      Derives depth (.chain op.level) left lhs →
      Waits depth ((lhs, op) :: ops) (tokens ++ (left ++ [.punct op.symbol]))

/-- The tokens up to the inside of the innermost open construct, where a symbol is due, and the
depth of nesting that is left for it. -/
inductive Opened (limit : Nat) : Nat → List Frame → Symbol → List Token → Prop
  | nil : Opened limit limit [] .expr []
  | paren {depth frames symbol tokens ops waiting} :
      Opened limit (depth + parenCalls) frames symbol tokens →
      Waits (depth + parenCalls) ops waiting →
      Opened limit depth (.paren ops :: frames) .expr (tokens ++ (waiting ++ [.punct ['(']]))
  | binding {depth frames tokens name params} : Opened limit depth frames .expr tokens →
      Opened limit depth (.binding name params :: frames) .sum
        (tokens ++ Grammar.head name params)
  | scope {depth frames tokens name params inner body} :
      Opened limit (depth + scopeCalls) frames .expr tokens →
      Derives (depth + scopeCalls) .sum inner body →
      Opened limit depth (.scope name params body :: frames) .expr
        (tokens ++ (Grammar.head name params ++ (inner ++ [.keyword ['i', 'n']])))

theorem Opened.depth_eq {limit depth : Nat} {frames : List Frame} {symbol : Symbol}
    {tokens : List Token} (h : Opened limit depth frames symbol tokens) :
    openCalls frames + depth = limit := by
  induction h with
  | nil => exact Nat.zero_add limit
  | paren _ _ ih =>
    rw [openCalls]
    omega
  | binding _ ih => exact ih
  | scope _ _ ih =>
    rw [openCalls]
    omega

theorem Opened.of_sum {limit depth : Nat} {frames : List Frame} {symbol : Symbol}
    {outer own : List Token} {e : Expr} (h : Opened limit depth frames symbol outer)
    (derived : Derives depth .sum own e) : Derives depth symbol own e := by
  cases h with
  | binding => exact derived
  | nil | paren | scope => exact derived.sum

/-- The tokens of a list that is open; its elements are reversed. -/
def ListRead (items : List Int) (tokens : List Token) : Prop :=
  ∃ text texts, items = ((text :: texts).map Numeral.value).reverse ∧
    tokens = .punct ['['] :: .number text :: Grammar.elements texts

theorem ListRead.ne_nil {items : List Int} {tokens : List Token} (h : ListRead items tokens) :
    items ≠ [] := by
  obtain ⟨text, texts, rfl, _⟩ := h
  simp

theorem ListRead.snoc {items : List Int} {tokens : List Token} (h : ListRead items tokens)
    (text : Text) :
    ListRead (Numeral.value text :: items) (tokens ++ [.punct [';']] ++ [.number text]) := by
  obtain ⟨first, texts, rfl, rfl⟩ := h
  refine ⟨first, texts ++ [text], ?_, ?_⟩
  · simp only [List.map_cons, List.map_append, List.reverse_cons, List.reverse_append,
      List.map_nil, List.reverse_nil, List.nil_append, List.cons_append]
  · simp only [Grammar.elements, List.flatMap_append, List.flatMap_cons, List.flatMap_nil,
      List.append_nil, List.cons_append, List.append_assoc, List.nil_append]

theorem ListRead.derives {depth : Nat} {items : List Int} {tokens : List Token}
    (h : ListRead items tokens) :
    Derives depth .primary (tokens ++ [.punct [']']]) (.list items.reverse) := by
  obtain ⟨first, texts, rfl, rfl⟩ := h
  rw [List.reverse_reverse]
  exact .list

/-- What a mode has read inside the innermost open construct. -/
def Mode.Read (depth : Nat) (symbol : Symbol) (tokens : List Token) : Mode → Prop
  | .expression => symbol = .expr ∧ tokens = []
  | .operand ops => Waits depth ops tokens
  | .operator ops e => ∃ waiting own, tokens = waiting ++ own ∧ Waits depth ops waiting ∧
      Derives depth .primary own e
  | .name => symbol = .expr ∧ tokens = [.keyword ['l', 'e', 't']]
  | .params bound done => symbol = .expr ∧
      tokens = .keyword ['l', 'e', 't'] :: .ident bound :: done.reverse.map .ident
  | .element ops items => ∃ waiting own, tokens = waiting ++ own ∧ Waits depth ops waiting ∧
      (items = [] ∧ own = [.punct ['[']] ∨
        ∃ read, ListRead items read ∧ own = read ++ [.punct [';']])
  | .separator ops items => ∃ waiting own, tokens = waiting ++ own ∧ Waits depth ops waiting ∧
      ListRead items own

/-- The account of the tokens that led to a state. -/
def Reached (limit : Nat) (s : State) (tokens : List Token) : Prop :=
  ∃ depth symbol outer own, tokens = outer ++ own ∧ Opened limit depth s.frames symbol outer ∧
    s.mode.Read depth symbol own

/-- Reducing the waiting operators derives a chain of the level from the operand. -/
theorem Waits.reduce {depth : Nat} {ops : Waiting} {waiting : List Token}
    (h : Waits depth ops waiting) {level tight : Nat} {own : List Token} {e : Expr}
    (fits : Fits tight ops) (le : level ≤ tight) (derived : Derives depth (.chain tight) own e) :
    ∃ waiting' own', waiting ++ own = waiting' ++ own' ∧
      Waits depth (reduce level ops e).1 waiting' ∧ Fits level (reduce level ops e).1 ∧
      Derives depth (.chain level) own' (reduce level ops e).2 := by
  induction h generalizing tight own e with
  | nil => exact ⟨[], own, rfl, .nil, .nil level, derived.loosen le⟩
  | @cons ops tokens op left lhs outer looser operand ih =>
    by_cases tighter : level ≤ op.level
    · have whole := operand.binary (derived.loosen (fits (lhs, op) rfl))
      obtain ⟨waiting', own', split, rest⟩ := ih looser tighter whole
      rw [Parser.reduce, if_pos tighter]
      refine ⟨waiting', own', ?_, rest⟩
      rw [← split]
      simp only [List.append_assoc, List.singleton_append]
    · rw [Parser.reduce, if_neg tighter]
      refine ⟨_, own, rfl, .cons outer looser operand, ?_, derived.loosen le⟩
      intro w hw
      cases hw
      exact Nat.lt_of_not_le tighter

theorem Waits.close {depth : Nat} {ops : Waiting} {waiting own : List Token} {e : Expr}
    (h : Waits depth ops waiting) (derived : Derives depth .primary own e) :
    Derives depth .sum (waiting ++ own) (close ops e) := by
  have fits : Fits 3 ops := fun w _ => Nat.lt_succ_of_le w.2.level_le
  obtain ⟨waiting', own', split, rest, _, whole⟩ := h.reduce fits (Nat.zero_le 3) derived
  rw [reduce_zero] at rest whole
  cases rest
  rw [split]
  exact whole

/-- Unwinding ends the bindings up to the innermost parenthesis, if there is one. -/
theorem Opened.unwind {limit depth : Nat} {frames : List Frame} {symbol : Symbol}
    {outer own : List Token} {e : Expr} (h : Opened limit depth frames symbol outer)
    (derived : Derives depth symbol own e) :
    ∃ depth' outer' own', outer ++ own = outer' ++ own' ∧
      Opened limit depth' (unwind frames e).1 .expr outer' ∧
      Derives depth' .expr own' (unwind frames e).2 := by
  induction h generalizing own e with
  | nil => exact ⟨limit, [], own, rfl, .nil, derived⟩
  | paren opened waits _ => exact ⟨_, _, own, rfl, .paren opened waits, derived⟩
  | @binding depth frames tokens name params opened ih =>
    obtain ⟨depth', outer', own', split, rest⟩ := ih derived.letGlobal
    refine ⟨depth', outer', own', ?_, rest⟩
    rw [← split, List.append_assoc]
  | @scope depth frames tokens name params inner body opened body_derived ih =>
    obtain ⟨depth', outer', own', split, rest⟩ := ih (body_derived.letLocal derived)
    refine ⟨depth', outer', own', ?_, rest⟩
    rw [← split]
    simp only [List.append_assoc, List.singleton_append]

section

variable {limit depth : Nat} {symbol : Symbol} {frames : List Frame} {outer own : List Token}

theorem Opened.depth_pos (h : Opened limit depth frames symbol outer)
    {calls : Nat}
    (deeper : openCalls frames + calls ≤ limit) : ∃ below, depth = below + calls := by
  have total := h.depth_eq
  exact ⟨depth - calls, by omega⟩

theorem reached_beginOperand {ops : Waiting} {t : Token} {next : State}
    (h : Opened limit depth frames symbol outer) (waits : Waits depth ops own)
    (step : beginOperand ops frames t = some next) (bound : next.calls ≤ limit) :
    Reached limit next (outer ++ (own ++ [t])) := by
  have primary {e : Expr} (derived : Derives depth .primary [t] e) :
      Reached limit ⟨.operator ops e, frames⟩ (outer ++ (own ++ [t])) :=
    ⟨depth, symbol, outer, own ++ [t], rfl, h, own, [t], rfl, waits, derived⟩
  cases t with
  | number text =>
    cases step
    exact primary .number
  | ident name =>
    cases step
    exact primary .ref
  | keyword text =>
    simp only [beginOperand] at step
    split at step
    · subst_vars
      cases step
      exact primary .true
    · split at step
      · subst_vars
        cases step
        exact primary .false
      · cases step
  | punct text =>
    simp only [beginOperand] at step
    split at step
    · subst_vars
      cases step
      exact ⟨depth, symbol, outer, _, rfl, h, own, _, rfl, waits, .inl ⟨rfl, rfl⟩⟩
    · split at step
      · subst_vars
        cases step
        rw [State.calls, openCalls] at bound
        obtain ⟨below, rfl⟩ := h.depth_pos bound
        exact ⟨below, .expr, _, [], (List.append_nil _).symm, .paren h waits, rfl, rfl⟩
      · cases step

theorem reached_afterOperand {ops : Waiting} {e : Expr} {t : Token} {next : State}
    {waiting : List Token} (h : Opened limit depth frames symbol outer)
    (waits : Waits depth ops waiting) (derived : Derives depth .primary own e)
    (step : afterOperand ops e frames t = some next) (bound : next.calls ≤ limit) :
    Reached limit next (outer ++ (waiting ++ own ++ [t])) := by
  cases t with
  | number text => cases step
  | ident name => cases step
  | keyword text =>
    simp only [afterOperand] at step
    split at step
    · rename_i name params rest
      split at step
      · subst_vars
        cases step
        rw [State.calls, openCalls] at bound
        obtain ⟨below, rfl⟩ := h.depth_pos bound
        cases h with
        | @binding _ _ tokens _ _ opened =>
          refine ⟨below, .expr, _, [], ?_, .scope opened (waits.close derived), rfl, rfl⟩
          simp only [List.append_assoc, List.append_nil]
      · cases step
    · cases step
  | punct text =>
    simp only [afterOperand] at step
    split at step
    · rename_i op found
      cases step
      have fits : Fits 3 ops := fun w _ => Nat.lt_succ_of_le w.2.level_le
      obtain ⟨waiting', own', split, rest, looser, chain⟩ :=
        waits.reduce fits (Nat.le_succ_of_le op.level_le) derived
      rw [← BinOp.symbol_of_ofSymbol? found]
      refine ⟨depth, symbol, outer, _, ?_, h, Waits.cons rest looser chain⟩
      rw [split, List.append_assoc]
    · split at step
      · subst_vars
        obtain ⟨depth', outer', own', split, opened, whole⟩ :=
          h.unwind (h.of_sum (waits.close derived))
        split at step
        · rename_i ops' rest inner unwound
          cases step
          rw [unwound] at opened whole
          cases opened with
          | @paren _ _ symbol' tokens _ waiting' opened waits' =>
            refine ⟨depth' + parenCalls, symbol', tokens, _, ?_, opened, waiting', _, rfl, waits',
              whole.paren⟩
            rw [← List.append_assoc outer, split]
            simp only [List.append_assoc, List.singleton_append]
            rfl
        · cases step
      · cases step

theorem reached_element {ops : Waiting} {items : List Int} {t : Token} {next : State}
    {waiting : List Token} (h : Opened limit depth frames symbol outer)
    (waits : Waits depth ops waiting)
    (read : items = [] ∧ own = [.punct ['[']] ∨
      ∃ list, ListRead items list ∧ own = list ++ [.punct [';']])
    (step : State.advance ⟨.element ops items, frames⟩ t = some next) :
    Reached limit next (outer ++ (waiting ++ own ++ [t])) := by
  rw [List.append_assoc waiting]
  cases t with
  | number text =>
    cases step
    refine ⟨depth, symbol, outer, _, rfl, h, waiting, _, rfl, waits, ?_⟩
    rcases read with ⟨rfl, rfl⟩ | ⟨list, read, rfl⟩
    · exact ⟨text, [], rfl, rfl⟩
    · exact read.snoc text
  | punct text =>
    simp only [State.advance] at step
    split at step
    · rename_i closed
      obtain ⟨rfl, rfl⟩ := closed
      cases step
      refine ⟨depth, symbol, outer, _, rfl, h, waiting, _, rfl, waits, ?_⟩
      -- the end of the list is not due behind a separator
      rcases read with ⟨_, rfl⟩ | ⟨list, read, rfl⟩
      · exact .emptyList
      · exact absurd rfl read.ne_nil
    · cases step
  | ident _ | keyword _ => cases step

theorem reached_separator {ops : Waiting} {items : List Int} {t : Token} {next : State}
    {waiting : List Token} (h : Opened limit depth frames symbol outer)
    (waits : Waits depth ops waiting) (read : ListRead items own)
    (step : State.advance ⟨.separator ops items, frames⟩ t = some next) :
    Reached limit next (outer ++ (waiting ++ own ++ [t])) := by
  rw [List.append_assoc waiting]
  cases t with
  | punct text =>
    simp only [State.advance] at step
    split at step
    · subst_vars
      cases step
      exact ⟨depth, symbol, outer, _, rfl, h, waiting, _, rfl, waits, read.derives⟩
    · split at step
      · subst_vars
        cases step
        exact ⟨depth, symbol, outer, _, rfl, h, waiting, _, rfl, waits, .inr ⟨_, read, rfl⟩⟩
      · cases step
  | number _ | ident _ | keyword _ => cases step

theorem Reached.advance {s next : State} {tokens : List Token} {t : Token}
    (h : Reached limit s tokens) (step : s.advance t = some next) (bound : next.calls ≤ limit) :
    Reached limit next (tokens ++ [t]) := by
  obtain ⟨depth, symbol, outer, own, rfl, opened, read⟩ := h
  obtain ⟨mode, frames⟩ := s
  rw [List.append_assoc]
  cases mode with
  | expression =>
    obtain ⟨rfl, rfl⟩ := read
    by_cases let? : t = .keyword ['l', 'e', 't']
    · subst let?
      cases step
      exact ⟨depth, .expr, outer, _, rfl, opened, rfl, rfl⟩
    · exact reached_beginOperand opened .nil ((if_neg let?).symm.trans step) bound
  | operand ops => exact reached_beginOperand opened read step bound
  | operator ops e =>
    obtain ⟨waiting, operand, rfl, waits, derived⟩ := read
    exact reached_afterOperand opened waits derived step bound
  | name =>
    obtain ⟨rfl, rfl⟩ := read
    cases t with
    | ident name =>
      cases step
      exact ⟨depth, .expr, outer, _, rfl, opened, rfl, rfl⟩
    | number _ | punct _ | keyword _ => cases step
  | params name done =>
    obtain ⟨rfl, rfl⟩ := read
    cases t with
    | ident param =>
      cases step
      refine ⟨depth, .expr, outer, _, rfl, opened, rfl, ?_⟩
      simp only [List.reverse_cons, List.map_append, List.map_cons, List.map_nil, List.cons_append]
    | punct text =>
      simp only [State.advance] at step
      split at step
      · subst_vars
        cases step
        exact ⟨depth, .sum, _, [], (List.append_nil _).symm, .binding opened, .nil⟩
      · cases step
    | number _ | keyword _ => cases step
  | element ops items =>
    obtain ⟨waiting, own, rfl, waits, read⟩ := read
    exact reached_element opened waits read step
  | separator ops items =>
    obtain ⟨waiting, own, rfl, waits, read⟩ := read
    exact reached_separator opened waits read step

theorem Reached.reads {s last : State} {front tokens : List Token} (h : Reached limit s front)
    (reads : Reads limit s tokens last) : Reached limit last (front ++ tokens) := by
  induction reads generalizing front with
  | nil => rwa [List.append_nil]
  | cons step bound _ ih =>
    have next := ih (h.advance step bound)
    rwa [List.append_assoc] at next

theorem reached_start (limit : Nat) : Reached limit .start [] :=
  ⟨limit, .expr, [], [], rfl, .nil, rfl, rfl⟩

theorem Reached.finish {s : State} {tokens : List Token} {e : Expr} (h : Reached limit s tokens)
    (finished : s.finish = some e) : Derives limit .expr tokens e := by
  obtain ⟨depth, symbol, outer, own, rfl, opened, read⟩ := h
  obtain ⟨mode, frames⟩ := s
  cases mode with
  | operator ops e₀ =>
    obtain ⟨waiting, operand, rfl, waits, derived⟩ := read
    obtain ⟨depth', outer', own', split, opened, whole⟩ :=
      opened.unwind (opened.of_sum (waits.close derived))
    simp only [State.finish] at finished
    split at finished
    · rename_i whole_expr unwound
      cases finished
      rw [unwound] at opened whole
      cases opened
      rw [split]
      exact whole
    · cases finished
  | expression | operand | name | params | element | separator => cases finished

/-- The machine accepts what the grammar derives. -/
theorem accepts_iff_derives {tokens : List Token} {e : Expr} :
    (∃ last, Reads limit .start tokens last ∧ last.finish = some e) ↔
      Derives limit .expr tokens e := by
  constructor
  · rintro ⟨last, reads, finished⟩
    exact ((reached_start limit).reads reads).finish finished
  · intro h
    obtain ⟨ops, e', frames, reads, unwound⟩ :=
      readAs_of_derives h [] (Nat.le_of_eq (Nat.zero_add limit))
    refine ⟨_, reads, ?_⟩
    simp only [State.finish, unwound, unwind]

end

end LetLang.Parser
