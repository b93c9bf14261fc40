import LetLang.Proofs.Cutting
import LetLang.Session

/-! # Histories of sessions

The sessions that come about by any operations, in any order, whether or not they succeed. The
text that waits for its terminator is the same kind of text in all of them.
-/
namespace LetLang.Session

open Statement (Unterminated Cuts ended)

inductive Operation where
  | complete (line : Text)
  | flush
  | add (room : Nat) (statement : Text) (line : Option Int)
  | pop
  | report
  | envLines
  | reset
  deriving DecidableEq, Repr

/-- The session behind an operation. A failed operation leaves a session too. -/
def after (s : Session) : Operation → Session
  | .complete line => (s.complete line).2
  | .flush => s.flush.2
  | .add room statement line => (s.add room statement line).2
  | .pop => s.pop.2
  | .report => s.report.2
  | .envLines => s
  | .reset => s.reset

/-- Sessions that come about. The handler is not theirs alone, so that it may be changed between
any two operations. -/
inductive Reachable : Session → Prop
  | new {handler path interactive showEnv s} :
      Session.new handler path interactive showEnv = .ok s → Reachable s
  | after {s} (op : Operation) : Reachable s → Reachable (s.after op)
  | handled {s} (handler : Handler) : Reachable s → Reachable { s with handler }

/-- Waiting text has no terminator, and is not blank unless it is empty. -/
structure Tidy (s : Session) : Prop where
  unterminated : Unterminated s.pending
  visible : s.pending = [] ∨ ∃ c ∈ s.pending, Text.isBlank c = false

theorem Tidy.of_pending {s t : Session} (h : s.Tidy) (same : t.pending = s.pending) : t.Tidy := by
  obtain ⟨unterminated, visible⟩ := h
  rw [← same] at unterminated visible
  exact ⟨unterminated, visible⟩

theorem Tidy.of_empty {s : Session} (empty : s.pending = []) : s.Tidy := by
  refine ⟨?_, .inl empty⟩
  rw [empty]
  exact Statement.unterminated_nil

theorem Tidy.isEmpty_pending {s : Session} (h : s.Tidy) :
    s.pending.isEmpty = Text.blank s.pending := by
  rcases h.visible with empty | ⟨c, member, visible⟩
  · rw [empty]
    rfl
  · have some : s.pending ≠ [] := List.ne_nil_of_mem member
    have seen : Text.blank s.pending = false := List.all_eq_false.mpr ⟨c, member, by simp [visible]⟩
    rw [seen, List.isEmpty_eq_false_iff]
    exact some

/-- What stands in front of the next line when it is cut. -/
def opening (s : Session) : Text := if s.pending.isEmpty then [] else s.pending ++ ['\n']

/-- A line completes the pieces of the waiting text and the line, and leaves their rest waiting
unless it is blank. -/
theorem complete_of_cuts {s : Session} {line rest : Text} {pieces : List Text}
    (h : Cuts (s.opening ++ line) pieces rest) :
    s.complete line =
      (pieces.map ended, { s with pending := if Text.blank rest then [] else rest }) := by
  have text : (if s.pending.isEmpty then line else s.pending ++ '\n' :: line) =
      s.opening ++ line := by
    unfold opening
    split
    · rfl
    · rw [List.append_assoc]
      rfl
  simp only [complete, text, Statement.split_of_cuts h]

theorem infix_of_complete (s : Session) (line : Text) :
    (∀ statement ∈ (s.complete line).1, statement <:+: s.opening ++ line) ∧
      (s.complete line).2.pending <:+: s.opening ++ line := by
  obtain ⟨pieces, rest, cuts, _⟩ := Statement.exists_cuts (s.opening ++ line)
  rw [complete_of_cuts cuts]
  constructor
  · intro statement member
    obtain ⟨piece, listed, rfl⟩ := List.mem_map.mp member
    obtain ⟨before, behind, rfl⟩ := List.append_of_mem listed
    obtain ⟨after, split⟩ := cuts.exists_behind
    refine ⟨before.flatMap ended, after, ?_⟩
    rw [split, ended, List.append_assoc _ piece]
  · have left : rest <:+: s.opening ++ line :=
      ⟨_, [], by rw [List.append_nil, cuts.flatMap_ended]⟩
    show (if Text.blank rest then [] else rest) <:+: s.opening ++ line
    split
    · exact List.nil_infix
    · exact left

theorem tidy_complete (s : Session) (line : Text) : (s.complete line).2.Tidy := by
  obtain ⟨pieces, rest, cuts, _⟩ := Statement.exists_cuts (s.opening ++ line)
  rw [complete_of_cuts cuts]
  by_cases blank : Text.blank rest = true
  · exact .of_empty (if_pos blank)
  · have kept : (if Text.blank rest then [] else rest) = rest := if_neg blank
    refine ⟨?_, .inr ?_⟩
    · simp only [kept]
      exact cuts.unterminated_rest
    · simp only [kept]
      simpa [Text.blank] using blank

@[simp] theorem pending_add (room : Nat) (s : Session) (statement : Text) (line : Option Int) :
    (s.add room statement line).2.pending = s.pending := by
  unfold add
  rcases Statement.evaluate room statement s.env with ⟨_ | _, env⟩ <;> rfl

@[simp] theorem pending_pop (s : Session) : s.pop.2.pending = s.pending := by
  unfold pop
  split <;> rfl

theorem Tidy.after {s : Session} (h : s.Tidy) (op : Operation) : (s.after op).Tidy := by
  cases op with
  | complete line => exact tidy_complete s line
  | flush => exact .of_empty rfl
  | add room statement line => exact h.of_pending (pending_add room s statement line)
  | pop => exact h.of_pending (pending_pop s)
  | report => exact h.of_pending rfl
  | envLines => exact h
  | reset => exact .of_empty rfl

theorem new_blank {handler : Handler} {path : Text} {interactive showEnv : Bool} {s : Session}
    (h : Session.new handler path interactive showEnv = .ok s) :
    s.env = .empty ∧ s.results = [] ∧ s.pending = [] := by
  unfold Session.new at h
  split at h
  · cases h
    exact ⟨rfl, rfl, rfl⟩
  · split at h <;> cases h
    exact ⟨rfl, rfl, rfl⟩

theorem Reachable.tidy {s : Session} (h : s.Reachable) : s.Tidy := by
  induction h with
  | new start => exact .of_empty (new_blank start).2.2
  | after op _ ih => exact ih.after op
  | handled handler _ ih => exact ih.of_pending rfl

end LetLang.Session
