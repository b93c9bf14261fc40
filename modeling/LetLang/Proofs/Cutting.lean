import LetLang.Statement

/-! # Where text is cut

Text falls into pieces at its terminators, each being the first one behind the piece before it.
Pieces are described without saying how they are found, and the two ways of finding them, one cut
or all cuts, are shown to find the pieces described. Cutting goes on where it stopped when text is
appended, which is why text may as well arrive line by line.
-/
namespace LetLang.Statement

def Unterminated (t : Text) : Prop := ¬ terminator <:+: t

/-- The pieces of a text that stand in front of its terminators, and the text behind the last of
them. A piece ends at the first terminator: even with one semicolon more it has none. -/
inductive Cuts : Text → List Text → Text → Prop
  | rest {t} : Unterminated t → Cuts t [] t
  | piece {front t pieces rest} : Unterminated (front ++ [';']) → Cuts t pieces rest →
      Cuts (front ++ terminator ++ t) (front :: pieces) rest

def ended (piece : Text) : Text := piece ++ terminator

theorem Unterminated.of_infix {t u : Text} (h : Unterminated t) (part : u <:+: t) :
    Unterminated u :=
  fun found => h (found.trans part)

theorem unterminated_nil : Unterminated [] := by
  intro found
  have short := found.length_le
  exact absurd short (by decide)

theorem unterminated_singleton (c : Char) : Unterminated [c] := by
  intro found
  have short := found.length_le
  exact absurd short (by simp [terminator])

theorem unterminated_cons {c : Char} {t : Text} :
    Unterminated (c :: t) ↔ ¬ (c = ';' ∧ t.head? = some ';') ∧ Unterminated t := by
  have front : terminator <+: c :: t ↔ c = ';' ∧ t.head? = some ';' := by
    cases t <;> simp [terminator, List.cons_prefix_cons, eq_comm]
  simp only [Unterminated, List.infix_cons_iff, front, not_or]

theorem unterminated_append {t : Text} (h : ';' ∉ t) (u : Text) :
    Unterminated (t ++ u) ↔ Unterminated u := by
  induction t with
  | nil => rfl
  | cons c t ih =>
    simp only [List.mem_cons, not_or] at h
    rw [List.cons_append, unterminated_cons, ih h.2]
    exact and_iff_right fun both => h.1 both.1.symm

theorem unterminated_of_not_mem {t : Text} (h : ';' ∉ t) : Unterminated t :=
  fun found => h (found.subset List.mem_cons_self)

theorem unterminated_semicolon {t : Text} (h : ';' ∉ t) : Unterminated (t ++ [';']) :=
  (unterminated_append h _).mpr (unterminated_singleton ';')

theorem Unterminated.append_of_head {t u : Text} (ht : Unterminated t) (hu : Unterminated u)
    (h : u.head? ≠ some ';') : Unterminated (t ++ u) := by
  induction t with
  | nil => exact hu
  | cons c t ih =>
    obtain ⟨first, rest⟩ := unterminated_cons.mp ht
    rw [List.cons_append, unterminated_cons]
    refine ⟨?_, ih rest⟩
    rintro ⟨rfl, next⟩
    cases t with
    | nil => exact h next
    | cons d t => exact first ⟨rfl, next⟩

theorem unterminated_take_one (t : Text) : Unterminated (t.take 1) := by
  cases t with
  | nil => exact unterminated_nil
  | cons c t => exact unterminated_singleton c

theorem Unterminated.concat {t : Text} {c d : Char} (h : Unterminated (t ++ [c]))
    (apart : ¬ (c = ';' ∧ d = ';')) : Unterminated (t ++ [c] ++ [d]) := by
  by_cases last : d = ';'
  · have pair : Unterminated [c, d] := by
      rw [unterminated_cons]
      exact ⟨fun both => apart ⟨both.1, last⟩, unterminated_singleton d⟩
    rw [List.append_assoc]
    refine (h.of_infix (List.prefix_append t [c]).isInfix).append_of_head pair ?_
    exact fun first => apart ⟨Option.some.inj first, last⟩
  · exact h.append_of_head (unterminated_singleton d) fun first => last (Option.some.inj first)

theorem Unterminated.append_lineFeed {t : Text} (h : Unterminated t) :
    Unterminated (t ++ ['\n'] ++ [';']) := by
  rw [List.append_assoc]
  refine h.append_of_head ?_ (by decide)
  simp only [List.singleton_append, unterminated_cons]
  exact ⟨by decide, by decide, unterminated_nil⟩

/-- Text up to its first terminator is told by the whole. -/
theorem front_unique {front front' t t' : Text} (h : Unterminated (front ++ [';']))
    (h' : Unterminated (front' ++ [';']))
    (same : front ++ terminator ++ t = front' ++ terminator ++ t') : front = front' ∧ t = t' := by
  have eq : front = front' := by
    -- the shorter front would put its terminator into the longer one
    induction front generalizing front' with
    | nil =>
      match front', h' with
      | [], _ => rfl
      | [c], h' =>
        cases same
        exact absurd ⟨rfl, rfl⟩ (unterminated_cons.mp h').1
      | c :: d :: front', h' =>
        cases same
        exact absurd ⟨rfl, rfl⟩ (unterminated_cons.mp h').1
    | cons c front ih =>
      cases front' with
      | nil =>
        match front, h with
        | [], h =>
          cases same
          exact absurd ⟨rfl, rfl⟩ (unterminated_cons.mp h).1
        | d :: front, h =>
          cases same
          exact absurd ⟨rfl, rfl⟩ (unterminated_cons.mp h).1
      | cons d front' =>
        simp only [List.cons_append, List.cons.injEq] at same
        rw [same.1, ih (unterminated_cons.mp h).2 (unterminated_cons.mp h').2 same.2]
  subst eq
  exact ⟨rfl, List.append_cancel_left same⟩

theorem not_unterminated (front t : Text) : ¬ Unterminated (front ++ terminator ++ t) :=
  fun h => h ⟨front, t, rfl⟩

theorem terminator_at_iff {piece : Text} (h : Unterminated (piece ++ [';'])) (i : Nat) :
    terminator <+: (ended piece).drop i ↔ i + 2 = (ended piece).length := by
  have total : (ended piece).length = piece.length + 2 := List.length_append
  constructor
  · rintro ⟨behind, found⟩
    have whole : piece ++ [';'] ++ [';'] = (ended piece).take i ++ terminator ++ behind := by
      rw [List.append_assoc _ terminator, found, List.take_append_drop, ended, List.append_assoc]
      rfl
    -- with text behind it the terminator would end within the piece and one semicolon
    rcases List.eq_nil_or_concat behind with rfl | ⟨before, c, rfl⟩
    · have lengths := congrArg List.length whole
      have bound := List.length_take_le i (ended piece)
      have here := congrArg List.length found
      simp only [List.length_append, List.length_drop, terminator, List.length_cons,
        List.length_nil] at lengths here
      omega
    · rw [List.concat_eq_append, ← List.append_assoc] at whole
      have inner := (List.append_inj' whole rfl).1
      exact absurd ⟨_, before, inner.symm⟩ h
  · intro last
    have here : i = piece.length := by omega
    have behind : terminator ++ [] = (ended piece).drop i := by
      rw [here, ended, List.drop_left, List.append_nil]
    exact ⟨[], behind⟩

namespace Cuts

theorem unique {t rest rest' : Text} {pieces pieces' : List Text} (h : Cuts t pieces rest)
    (h' : Cuts t pieces' rest') : pieces = pieces' ∧ rest = rest' := by
  induction h generalizing pieces' with
  | rest none =>
    cases h' with
    | rest => exact ⟨rfl, rfl⟩
    | piece => exact absurd none (not_unterminated _ _)
  | @piece front t pieces rest first _ ih =>
    generalize whole : front ++ terminator ++ t = text at h'
    cases h' with
    | rest none =>
      rw [← whole] at none
      exact absurd none (not_unterminated _ _)
    | piece first' later =>
      obtain ⟨rfl, rfl⟩ := front_unique first first' whole
      obtain ⟨rfl, rfl⟩ := ih later
      exact ⟨rfl, rfl⟩

theorem unterminated_rest {t rest : Text} {pieces : List Text} (h : Cuts t pieces rest) :
    Unterminated rest := by
  induction h with
  | rest none => exact none
  | piece _ _ ih => exact ih

theorem unterminated_piece {t rest : Text} {pieces : List Text} (h : Cuts t pieces rest) :
    ∀ p ∈ pieces, Unterminated (p ++ [';']) := by
  induction h with
  | rest _ => exact fun p hp => absurd hp List.not_mem_nil
  | piece first _ ih => exact List.forall_mem_cons.mpr ⟨first, ih⟩

/-- Cutting loses nothing. -/
theorem flatMap_ended {t rest : Text} {pieces : List Text} (h : Cuts t pieces rest) :
    pieces.flatMap ended ++ rest = t := by
  induction h with
  | rest _ => rfl
  | piece _ _ ih => rw [List.flatMap_cons, List.append_assoc, ih, ended]

/-- Text that is appended is cut together with what was left over. -/
theorem append {t rest u rest' : Text} {pieces later : List Text} (h : Cuts t pieces rest)
    (more : Cuts (rest ++ u) later rest') : Cuts (t ++ u) (pieces ++ later) rest' := by
  induction h with
  | rest _ => exact more
  | piece first _ ih =>
    rw [List.append_assoc]
    exact .piece first (ih more)

/-- Text without semicolons in front goes to the first piece, or else to what is left over. -/
theorem append_left {gap t rest : Text} {pieces : List Text} (plain : ';' ∉ gap)
    (h : Cuts t pieces rest) :
    match pieces with
    | [] => Cuts (gap ++ t) [] (gap ++ rest)
    | front :: later => Cuts (gap ++ t) ((gap ++ front) :: later) rest := by
  cases h with
  | rest none => exact .rest ((unterminated_append plain _).mpr none)
  | @piece front t pieces _ first later =>
    have open_front : Unterminated (gap ++ front ++ [';']) := by
      rw [List.append_assoc]
      exact (unterminated_append plain _).mpr first
    have whole := later.piece open_front
    rw [List.append_assoc gap, List.append_assoc gap] at whole
    exact whole

theorem exists_behind {t rest piece : Text} {before behind : List Text}
    (h : Cuts t (before ++ piece :: behind) rest) :
    ∃ after, t = before.flatMap ended ++ piece ++ terminator ++ after := by
  refine ⟨behind.flatMap ended ++ rest, ?_⟩
  rw [← h.flatMap_ended]
  simp only [List.flatMap_append, List.flatMap_cons, ended, List.append_assoc]

/-- No terminator stands within text that has none, even with a semicolon behind it. -/
theorem starts_behind {front line rest piece : Text} {before behind : List Text}
    (none : Unterminated (front ++ [';'])) (h : Cuts (front ++ line) (before ++ piece :: behind) rest) :
    ∃ own after, line = own ++ terminator ++ after ∧
      before.flatMap ended ++ piece = front ++ own := by
  obtain ⟨after, whole⟩ := h.exists_behind
  rw [List.append_assoc (before.flatMap ended ++ piece)] at whole
  rcases List.append_eq_append_iff.mp whole with ⟨own, start, tail⟩ | ⟨own, start, tail⟩
  · exact ⟨own, after, by rw [tail, List.append_assoc], start⟩
  · match own, start, tail with
    | [], start, tail =>
      refine ⟨[], after, tail.symm, ?_⟩
      rw [start, List.append_nil, List.append_nil]
    | [c], start, tail =>
      cases tail
      rw [start, List.append_assoc] at none
      exact absurd ⟨_, [], List.append_nil _⟩ none
    | c :: d :: own, start, tail =>
      cases tail
      rw [start, List.append_assoc] at none
      refine absurd ⟨before.flatMap ended ++ piece, own ++ [';'], ?_⟩ none
      simp [terminator]

end Cuts

theorem Unterminated.advance {before rest : Text} {c : Char}
    (h : Unterminated (before.reverse ++ (c :: rest).take 1))
    (apart : ∀ t, c = ';' → rest = ';' :: t → False) :
    Unterminated ((c :: before).reverse ++ rest.take 1) := by
  rw [List.reverse_cons]
  cases rest with
  | nil => simpa using h
  | cons d rest =>
    refine Unterminated.concat h ?_
    rintro ⟨rfl, rfl⟩
    exact apart rest rfl rfl

theorem front_of_cutFrom {before t : Text} (h : Unterminated (before.reverse ++ t.take 1)) :
    match cutFrom before t with
    | some (front, rest) =>
      before.reverse ++ t = front ++ terminator ++ rest ∧ Unterminated (front ++ [';'])
    | none => Unterminated (before.reverse ++ t) := by
  fun_induction cutFrom before t with
  | case1 before rest =>
    refine ⟨?_, h⟩
    rw [List.append_assoc]
    rfl
  | case2 before c rest apart ih =>
    have later := ih (h.advance apart)
    rw [List.reverse_cons, List.append_assoc] at later
    exact later
  | case3 before => exact h

theorem cut?_eq_some_iff {t front rest : Text} :
    cut? t = some (front, rest) ↔
      t = front ++ terminator ++ rest ∧ Unterminated (front ++ [';']) := by
  have start : Unterminated (([] : Text).reverse ++ t.take 1) := unterminated_take_one t
  have found := front_of_cutFrom start
  rw [cut?]
  constructor
  · intro cut
    rw [cut] at found
    exact found
  · rintro ⟨rfl, first⟩
    split at found
    · rename_i front' rest' cut
      obtain ⟨rfl, rfl⟩ := front_unique first found.2 found.1
      exact cut
    · exact absurd found (not_unterminated _ _)

theorem cut?_eq_none {t : Text} (h : Unterminated t) : cut? t = none := by
  cases cut : cut? t with
  | none => rfl
  | some parts =>
    rw [(cut?_eq_some_iff.mp cut).1] at h
    exact absurd h (not_unterminated _ _)

theorem body_ended {piece : Text} (h : Unterminated (piece ++ [';'])) :
    body (ended piece) = .ok (Text.strip piece) := by
  have cut : cut? (ended piece) = some (piece, []) :=
    cut?_eq_some_iff.mpr ⟨(List.append_nil _).symm, h⟩
  rw [body, cut]

theorem body_unterminated {t : Text} (h : Unterminated t) :
    body t = .error (.unterminated (Text.strip t)) := by
  rw [body, cut?_eq_none h]

theorem cuts_splitFrom (complete : List Text) {before t : Text}
    (h : Unterminated (before.reverse ++ t.take 1)) :
    ∃ pieces, (splitFrom complete before t).1 = complete.reverse ++ pieces.map ended ∧
      Cuts (before.reverse ++ t) pieces (splitFrom complete before t).2 := by
  fun_induction splitFrom complete before t with
  | case1 complete before rest ih =>
    obtain ⟨pieces, found, cuts⟩ := ih (unterminated_take_one rest)
    refine ⟨before.reverse :: pieces, ?_, ?_⟩
    · rw [found, List.reverse_cons, List.append_assoc]
      rfl
    · have whole := cuts.piece h
      rw [List.append_assoc] at whole
      exact whole
  | case2 complete before c rest apart ih =>
    obtain ⟨pieces, found, cuts⟩ := ih (h.advance apart)
    rw [List.reverse_cons, List.append_assoc] at cuts
    exact ⟨pieces, found, cuts⟩
  | case3 complete before =>
    have none : Unterminated before.reverse := by simpa using h
    rw [List.append_nil]
    exact ⟨[], (List.append_nil _).symm, .rest none⟩

theorem exists_cuts (t : Text) :
    ∃ pieces rest, Cuts t pieces rest ∧ split t = (pieces.map ended, rest) := by
  have start : Unterminated (([] : Text).reverse ++ t.take 1) := unterminated_take_one t
  obtain ⟨pieces, found, cuts⟩ := cuts_splitFrom [] start
  exact ⟨pieces, _, cuts, Prod.ext found rfl⟩

theorem split_of_cuts {t rest : Text} {pieces : List Text} (h : Cuts t pieces rest) :
    split t = (pieces.map ended, rest) := by
  obtain ⟨pieces', rest', cuts, found⟩ := exists_cuts t
  obtain ⟨rfl, rfl⟩ := h.unique cuts
  exact found

end LetLang.Statement
