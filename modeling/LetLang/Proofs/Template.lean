import LetLang.Diagnostic

/-! # Filling empty slots

The templates of the program's own errors are wordings without braces, with empty slots between
them. Such a template takes any subjects, if there are enough of them, and shows them verbatim.
-/
namespace LetLang.Template

def Plain (t : Text) : Prop := ∀ c ∈ t, c ≠ opening ∧ c ≠ closing

instance (t : Text) : Decidable (Plain t) := List.decidableBAll _ t

theorem Plain.append {t u : Text} (ht : Plain t) (hu : Plain u) : Plain (t ++ u) := by
  intro c hc
  rcases List.mem_append.mp hc with hc | hc
  · exact ht c hc
  · exact hu c hc

/-- The characters of a literal are told by the literal; decoding it would take long. -/
theorem plain_literal {literal : List Char}
    (h : literal.all (fun c => c != opening && c != closing) = true) :
    Plain (String.ofList literal) := by
  rw [String.toList_ofList]
  intro c member
  simpa using List.all_eq_true.mp h c member

/-- The template of wordings with a slot between any two of them. -/
def compose (front : Text) : List Text → Text
  | [] => front
  | next :: rest => front ++ slot ++ compose next rest

/-- Wordings with a subject between any two of them. -/
def weave (front : Text) : List Text → List Text → Text
  | next :: rest, subject :: subjects => front ++ subject ++ weave next rest subjects
  | _, _ => front

def composed (front : Text) : List Text → List Piece
  | [] => [.wording front]
  | next :: rest => .wording front :: .slot [] none [] :: composed next rest

theorem pieces_compose {front : Text} {rest : List Text} (plain : ∀ w ∈ front :: rest, Plain w) :
    pieces (compose front rest) = composed front rest := by
  induction rest generalizing front with
  | nil =>
    have here := piecesFrom_append [] front [] (plain front List.mem_cons_self)
    rw [List.append_nil, List.append_nil] at here
    rw [pieces, compose, here, piecesFrom, Place.atEnd, List.reverse_reverse]
    rfl
  | cons next rest ih =>
    have here := piecesFrom_append [] front (slot ++ compose next rest)
      (plain front List.mem_cons_self)
    have others := ih fun w hw => plain w (List.mem_cons_of_mem front hw)
    rw [List.append_nil] at here
    rw [pieces, compose, List.append_assoc, here, composed, ← others, slot, List.cons_append,
      List.cons_append, List.nil_append, piecesFrom, if_pos rfl, List.reverse_reverse, piecesFrom,
      if_neg (by decide), if_pos rfl, List.reverse_nil, pieces]

def counted : Nat → Numbering
  | 0 => .undecided
  | n + 1 => .automatic (n + 1)

section

variable {subjects : List Text} (fillLayout : Numbering → Text → Except Fault (Text × Numbering))

theorem fillSlot_empty {n : Nat} {subject : Text} (h : subjects[n]? = some subject) :
    fillSlot subjects fillLayout (counted n) [] none [] =
      .ok ([.text subject], counted (n + 1)) := by
  have number : (counted n).advance none = .ok (n, counted (n + 1)) := by
    cases n <;> rfl
  have found : resolve subjects (counted n) [] = .ok (subject, counted (n + 1)) := by
    change ((counted n).advance none >>= _) = _
    rw [number]
    simp only [bind, Except.bind, h]
    rfl
  change (resolve subjects (counted n) [] >>= _) = _
  rw [found]
  rfl

theorem fillPieces_slot {n : Nat} {subject : Text} (rest : List Piece)
    (h : subjects[n]? = some subject) :
    fillPieces subjects fillLayout (counted n) (.slot [] none [] :: rest) =
      (fillPieces subjects fillLayout (counted (n + 1)) rest).map
        fun (segments, numbering) => (.text subject :: segments, numbering) := by
  rw [fillPieces, fillSlot_empty fillLayout h]
  rfl

theorem fillPieces_composed (front : Text) (rest next : List Text) {n : Nat}
    (due : subjects.drop n = next) (enough : rest.length ≤ next.length) :
    ∃ segments, fillPieces subjects fillLayout (counted n) (composed front rest) =
        .ok (segments, counted (n + rest.length)) ∧
      Segment.join segments = weave front rest next := by
  induction rest generalizing front next n with
  | nil => exact ⟨[.text front], rfl, List.append_nil front⟩
  | cons wording rest ih =>
    cases next with
    | nil => exact absurd enough (Nat.not_succ_le_zero _)
    | cons subject next =>
      have here : subjects[n]? = some subject := by
        rw [← List.head?_drop, due, List.head?_cons]
      have later : subjects.drop (n + 1) = next := by
        rw [← List.drop_drop, due, List.drop_succ_cons, List.drop_zero]
      obtain ⟨segments, filled, joined⟩ := ih wording next later (Nat.le_of_succ_le_succ enough)
      refine ⟨.text front :: .text subject :: segments, ?_, ?_⟩
      · rw [composed, fillPieces, fillPieces_slot fillLayout _ here, filled, List.length_cons,
          Nat.add_right_comm n 1]
        rfl
      · rw [weave, ← joined, List.append_assoc]
        rfl

end

/-- A template with empty slots shows its subjects between its wordings, whatever they are. -/
theorem fill_compose {front : Text} {rest subjects : List Text}
    (plain : ∀ w ∈ front :: rest, Plain w) (enough : rest.length ≤ subjects.length) :
    fill (compose front rest) subjects = .ok (weave front rest subjects) := by
  obtain ⟨segments, filled, joined⟩ :=
    fillPieces_composed (fillNested subjects 1) front rest subjects (n := 0) List.drop_zero enough
  rw [fill, maxDepth, fillNested, pieces_compose plain]
  change (((fillPieces subjects (fillNested subjects 1) (counted 0) (composed front rest)).map
    _).map _) = _
  rw [filled, ← joined]
  rfl

end LetLang.Template

namespace LetLang

open Template

theorem Complaint.diagnostic_compose (style : Style) (kind : ErrorKind) {front : Text}
    {rest : List Text} (subject : Text) (subjects : List Text)
    (plain : ∀ w ∈ front :: rest, Plain w) (enough : rest.length ≤ (subject :: subjects).length) :
    (Complaint.about kind (compose front rest) (subject :: subjects)).diagnostic style =
      .ok ⟨kind, weave front rest (subject :: subjects),
        weave front rest ((subject :: subjects).map style.bold), subject, 0, subject.length,
        kind.diagnoses, false⟩ := by
  have styled : rest.length ≤ ((subject :: subjects).map style.bold).length := by
    rw [List.length_map]
    exact enough
  rw [diagnostic, substitutes_about, Complaint.about]
  simp only [fill_compose plain enough, fill_compose plain styled]
  rfl

end LetLang
