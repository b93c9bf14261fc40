import LetLang.Proofs.Cutting
import LetLang.Proofs.Spelling
import LetLang.Text.Lines

/-! # Gaps

The width of gaps makes no difference to a text. A text is squeezed by making each of its gaps a
single space, and what is squeezed is cut into the squeezed pieces and read as the same tokens. Two
texts that are squeezed to the same therefore have the same meaning; only the places of errors move.
-/
namespace LetLang

open Token

namespace Text

/-- A text with a single space for each gap, and none for a gap in front if one stands before it. -/
def squeeze : Bool → Text → Text
  | _, [] => []
  | behind, c :: t =>
    if isGap c then if behind then squeeze true t else ' ' :: squeeze true t
    else c :: squeeze false t

/-- Whether a gap ends a text, given whether one stands in front of it. -/
def endsInGap : Bool → Text → Bool
  | behind, [] => behind
  | _, c :: t => endsInGap (isGap c) t

/-- A text squeezed as if it stood between gaps. Each word of it has a space behind it. -/
def spaced (t : Text) : Text := squeeze true (t ++ [' '])

theorem squeeze_of_gap {c : Char} (h : isGap c = true) (behind : Bool) (t : Text) :
    squeeze behind (c :: t) = squeeze behind [' '] ++ squeeze true t := by
  cases behind <;> simp [squeeze, h, show isGap ' ' = true from rfl]

theorem squeeze_of_not_gap {c : Char} (h : isGap c = false) (behind : Bool) (t : Text) :
    squeeze behind (c :: t) = c :: squeeze false t := by
  simp [squeeze, h]

theorem squeeze_append (behind : Bool) (t u : Text) :
    squeeze behind (t ++ u) = squeeze behind t ++ squeeze (endsInGap behind t) u := by
  induction t generalizing behind with
  | nil => rfl
  | cons c t ih =>
    rw [List.cons_append, endsInGap]
    cases gap : isGap c with
    | true => rw [squeeze_of_gap gap, squeeze_of_gap gap, ih, List.append_assoc]
    | false => rw [squeeze_of_not_gap gap, squeeze_of_not_gap gap, ih, List.cons_append]

theorem squeeze_append_cons {c : Char} (h : isGap c = false) (behind : Bool) (t u : Text) :
    squeeze behind (t ++ c :: u) = squeeze behind t ++ c :: squeeze false u := by
  rw [squeeze_append, squeeze_of_not_gap h]

/-- A text all of whose blank characters are those of gaps. -/
def Plain (t : Text) : Prop := ∀ c ∈ t, isBlank c = true → isGap c = true

theorem Plain.of_subset {t u : Text} (h : Plain u) (part : t ⊆ u) : Plain t :=
  fun c member => h c (part member)

theorem Plain.gap {t : Text} (h : Plain t) (blank : Text.blank t = true) :
    ∀ c ∈ t, isGap c = true :=
  fun c member => h c member (List.all_eq_true.mp blank c member)

/-- Squeezing a squeezed text makes no difference to it, if it drops no less in front. -/
theorem squeeze_squeeze {behind behind' : Bool} (h : behind = true → behind' = true) (t : Text) :
    squeeze behind' (squeeze behind t) = squeeze behind' t := by
  induction t generalizing behind behind' with
  | nil => rfl
  | cons c t ih =>
    cases gap : isGap c with
    | true =>
      cases behind with
      | true =>
        rw [squeeze_of_gap gap true, squeeze_of_gap gap behind', h rfl]
        exact ih id
      | false =>
        rw [squeeze_of_gap gap false, squeeze_of_gap gap behind']
        have space : squeeze false [' '] = [' '] := rfl
        rw [space, List.singleton_append, squeeze_of_gap (by rfl) behind', ih id]
    | false =>
      rw [squeeze_of_not_gap gap, squeeze_of_not_gap gap, squeeze_of_not_gap gap, ih id]

theorem spaced_eq_of_squeeze {behind : Bool} {t u : Text}
    (h : squeeze behind (t ++ [' ']) = squeeze behind (u ++ [' '])) : spaced t = spaced u := by
  rw [spaced, spaced, ← @squeeze_squeeze behind true (fun _ => rfl), h,
    squeeze_squeeze fun _ => rfl]

/-- What is behind a place is squeezed to begin like it began. -/
theorem head?_squeeze (t : Text) :
    (squeeze false t).head? = t.head?.map fun c => if isGap c then ' ' else c := by
  cases t with
  | nil => rfl
  | cons c t =>
    cases gap : isGap c with
    | true => simp [squeeze, gap]
    | false => simp [squeeze, gap]

end Text

namespace Statement

open Text

theorem Unterminated.squeeze {t : Text} (h : Unterminated t) (behind : Bool) :
    Unterminated (squeeze behind t) := by
  induction t generalizing behind with
  | nil => exact unterminated_nil
  | cons c t ih =>
    obtain ⟨first, later⟩ := unterminated_cons.mp h
    cases gap : isGap c with
    | true =>
      have plain : ';' ∉ Text.squeeze behind [' '] := by cases behind <;> decide
      rw [squeeze_of_gap gap, unterminated_append plain]
      exact ih later true
    | false =>
      rw [squeeze_of_not_gap gap, unterminated_cons]
      refine ⟨?_, ih later false⟩
      rintro ⟨rfl, next⟩
      rw [head?_squeeze] at next
      obtain ⟨d, head, same⟩ := Option.map_eq_some_iff.mp next
      split at same
      · exact absurd same (by decide)
      · rw [same] at head
        exact first ⟨rfl, head⟩

/-- Only the first piece may begin behind a gap. -/
def squeezeAll : Bool → List Text → List Text
  | _, [] => []
  | behind, piece :: pieces => Text.squeeze behind piece :: squeezeAll false pieces

theorem Cuts.squeeze {t rest : Text} {pieces : List Text} (h : Cuts t pieces rest)
    (behind : Bool) :
    Cuts (Text.squeeze behind (t ++ [' '])) (squeezeAll behind pieces)
      (Text.squeeze (behind && pieces.isEmpty) (rest ++ [' '])) := by
  -- a gap may stand before the first piece only: all others begin behind a terminator
  induction h generalizing behind with
  | @rest t none =>
    have open_end : Unterminated (t ++ [' ']) :=
      none.append_of_head (unterminated_singleton ' ') (by decide)
    rw [List.isEmpty_nil, Bool.and_true]
    exact .rest (open_end.squeeze behind)
  | @piece front t pieces rest first _ ih =>
    have open_front := first.squeeze behind
    have whole := ih false
    rw [squeeze_append_cons (by rfl)] at open_front
    have split : Text.squeeze behind (front ++ terminator ++ t ++ [' ']) =
        Text.squeeze behind front ++ terminator ++ Text.squeeze false (t ++ [' ']) := by
      have shape : front ++ terminator ++ t ++ [' '] = front ++ ';' :: ([] ++ ';' :: (t ++ [' '])) := by
        simp [terminator]
      rw [shape, squeeze_append_cons (by rfl), squeeze_append_cons (by rfl)]
      simp [terminator, Text.squeeze]
    rw [split, List.isEmpty_cons, Bool.and_false]
    exact .piece open_front whole

/-- Pieces that are squeezed to the same. -/
inductive Alike : List Text → List Text → Prop
  | nil : Alike [] []
  | cons {behind p q pieces others} : Text.squeeze behind p = Text.squeeze behind q →
      Alike pieces others → Alike (p :: pieces) (q :: others)

theorem alike_of_squeezeAll {behind : Bool} {pieces others : List Text}
    (h : squeezeAll behind pieces = squeezeAll behind others) : Alike pieces others := by
  induction pieces generalizing behind others with
  | nil =>
    cases others with
    | nil => exact .nil
    | cons _ _ => cases h
  | cons p pieces ih =>
    cases others with
    | nil => cases h
    | cons q others =>
      simp only [squeezeAll, List.cons.injEq] at h
      exact .cons h.1 (ih h.2)

theorem Cuts.alike {t u rest rest' : Text} {pieces others : List Text} (h : Cuts t pieces rest)
    (h' : Cuts u others rest') (same : spaced t = spaced u) :
    Alike pieces others ∧ spaced rest = spaced rest' := by
  have cuts := h.squeeze true
  have cuts' := h'.squeeze true
  rw [spaced] at same
  rw [same] at cuts
  obtain ⟨all, last⟩ := cuts.unique cuts'
  have alike := alike_of_squeezeAll all
  have count : pieces.isEmpty = others.isEmpty := by
    cases alike <;> rfl
  rw [count] at last
  exact ⟨alike, spaced_eq_of_squeeze last⟩

end Statement

end LetLang
