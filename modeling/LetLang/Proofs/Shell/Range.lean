import LetLang.Program
import LetLang.Proofs.Range
import LetLang.Proofs.Shell.Journal

/-! # The range of bindings and results

The bounds of values hold in every session and every shell at any time: of all that is bound, and
of all that is printed as a result.
-/
namespace LetLang

open Statement (series)

structure Series.Sound (s : Series) : Prop where
  outputs : ∀ out ∈ s.outputs, out.1.value.InRange
  left : s.left.Sound

theorem Statement.sound_series (room : Nat) {env : Env} (h : env.Sound) (statements : List Text) :
    (series room env statements).Sound := by
  induction statements generalizing env with
  | nil => exact ⟨fun _ member => absurd member List.not_mem_nil, h⟩
  | cons statement rest ih =>
    have first := sound_run room h statement
    rcases ran : run room statement env with ⟨e | out, left⟩
    · rw [ran] at first
      rw [series_of_error ran]
      exact ⟨fun _ member => absurd member List.not_mem_nil, first.1⟩
    · rw [ran] at first
      rw [series_of_ok ran]
      have later := ih first.1
      exact ⟨List.forall_mem_cons.mpr ⟨first.2 out rfl, later.outputs⟩, later.left⟩

namespace Session

/-- What a session has bound is sound, and the results not read yet are those of outputs in range.
-/
structure Bounded (s : Session) : Prop where
  env : s.env.Sound
  results : ∀ result ∈ s.results, ∃ out : Output, result = out.text ∧ out.value.InRange

theorem Bounded.add {s : Session} (h : s.Bounded) (room : Nat) (statement : Text) (line : Option Int) :
    (s.add room statement line).2.Bounded := by
  have run := Statement.sound_run room h.env statement
  rcases ran : Statement.run room statement s.env with ⟨e | out, left⟩
  · rw [ran] at run
    rw [add_of_error ran]
    exact ⟨run.1, h.results⟩
  · rw [ran] at run
    rw [add_of_ok ran]
    refine ⟨run.1, ?_⟩
    intro result member
    rcases List.mem_append.mp member with old | new
    · exact h.results result old
    · exact ⟨out, List.mem_singleton.mp new, run.2 out rfl⟩

theorem Bounded.pop {s : Session} (h : s.Bounded) : s.pop.2.Bounded := by
  unfold Session.pop
  split
  · exact h
  · rename_i result rest queue
    refine ⟨h.env, fun r member => h.results r ?_⟩
    rw [queue]
    exact List.mem_cons_of_mem result member

theorem Bounded.after {s : Session} (h : s.Bounded) (op : Operation) : (s.after op).Bounded := by
  cases op with
  | complete line => exact ⟨h.env, h.results⟩
  | flush => exact ⟨h.env, h.results⟩
  | add room statement line => exact h.add room statement line
  | pop => exact h.pop
  | report => exact ⟨h.env, fun _ member => absurd member List.not_mem_nil⟩
  | envLines => exact h
  | reset => exact ⟨Env.sound_empty, h.results⟩

theorem bounded_new {handler : Handler} {path : Text} {interactive showEnv : Bool} {s : Session}
    (h : Session.new handler path interactive showEnv = .ok s) : s.Bounded := by
  obtain ⟨env, results, _⟩ := new_blank h
  refine ⟨env ▸ Env.sound_empty, ?_⟩
  rw [results]
  exact fun _ member => absurd member List.not_mem_nil

theorem Reachable.bounded {s : Session} (h : s.Reachable) : s.Bounded := by
  induction h with
  | new start => exact bounded_new start
  | after op _ ih => exact ih.after op
  | handled handler _ ih => exact ⟨ih.env, ih.results⟩

end Session

namespace Shell

def EntriesInRange (entries : List Entry) : Prop :=
  ∀ out left, Entry.result out left ∈ entries → out.value.InRange

variable (style : Style) {showEnv : Bool} {sh : Shell}

theorem EntriesInRange.append {entries more : List Entry} (h : EntriesInRange entries)
    (h' : EntriesInRange more) : EntriesInRange (entries ++ more) := by
  intro out left member
  rcases List.mem_append.mp member with first | second
  · exact h out left first
  · exact h' out left second

theorem inRange_directed (sh : Shell) (name : Text) : EntriesInRange (sh.directed name) := by
  intro out left member
  unfold directed at member
  split at member
  · simp at member
  · split at member
    · simp at member
    · split at member <;> simp at member

theorem inRange_atEnd (sh : Shell) : EntriesInRange sh.atEnd := by
  intro out left member
  unfold atEnd at member
  split at member <;> simp at member

theorem inRange_ran {s : Series} (h : s.Sound) (location : Option Location) :
    EntriesInRange (ran location s) := by
  unfold ran
  refine EntriesInRange.append ?_ ?_
  · intro out left member
    obtain ⟨pair, listed, same⟩ := List.mem_map.mp member
    cases same
    exact h.outputs pair listed
  · intro out left member
    split at member <;> simp at member

theorem Settled.inRange_commanded (h : sh.Settled showEnv) (room : Nat) (line : Text) :
    EntriesInRange (sh.commanded style room line) := by
  fun_induction Shell.command style room sh line with
  | case1 room sh line takes r halts =>
    rw [commanded_of_done style takes (.inl halts)]
    exact inRange_directed sh _
  | case2 room sh line takes r goes none =>
    rw [commanded_of_done style takes (.inr none)]
    exact inRange_directed sh _
  | case3 sh line takes r goes more =>
    rw [commanded_of_spent style takes]
    exact inRange_directed sh _
  | case4 sh line takes r goes more room ih =>
    have first := h.directive style (cutDirective line).1
    rw [commanded_of_more style takes goes more]
    exact (inRange_directed sh _).append (ih first.settled)
  | case5 room sh line plain =>
    rw [commanded_of_statements style plain]
    exact inRange_ran (Statement.sound_series room h.reached.bounded.env _) _

theorem Settled.inRange_journal (h : sh.Settled showEnv) (room : Nat) (line : Text) :
    EntriesInRange (sh.journal style room line) := by
  unfold journal
  split
  · exact fun _ _ member => absurd member List.not_mem_nil
  · split
    · exact inRange_atEnd sh
    · exact h.inRange_commanded style room _

end Shell

/-- Whatever is done with a session, and whatever lines a shell is fed, with or without success: all
bindings have identifiers for names, each name once, and values in range, and so have all results.
The results of a session wait to be read; those of a shell are in the journal of a line, the text of
which is printed. -/
theorem bindings_and_results_inRange :
    (∀ s, Session.Reachable s → s.env.Sound ∧
      ∀ result ∈ s.results, ∃ out : Output, result = out.text ∧ out.value.InRange) ∧
    ∀ style room handler showEnv lines,
      let sh := (Shell.new handler showEnv).after style room lines
      sh.session.env.Sound ∧ ∀ line,
        (sh.feed style room line).out =
          (sh.journal style room line).flatMap (Shell.Entry.text style showEnv) ∧
        ∀ out left, .result out left ∈ sh.journal style room line → out.value.InRange := by
  constructor
  · intro s reached
    exact ⟨reached.bounded.env, reached.bounded.results⟩
  · intro style room handler showEnv lines sh
    have settled := (Shell.settled_new handler showEnv).after style room lines
    refine ⟨settled.reached.bounded.env, fun line => ?_⟩
    exact ⟨(settled.feed style room line).out, settled.inRange_journal style room line⟩

/-- The largest integer and one make the smallest one. -/
theorem largest_wraps_in_session :
    let s := (Session.typed .initial false).after
      (.add (Program.shellRoom Program.callLimit) "let a = 9223372036854775807 + 1;;" none)
    s.Reachable ∧ s.env.bindings = [(['a'], .int (-9223372036854775808))] ∧ s.env.Sound ∧
      s.results = [("val a : int = -9223372036854775808" : Text)] ∧
      ∀ result ∈ s.results, ∃ out : Output, result = out.text ∧ out.value.InRange := by
  intro s
  have reached : s.Reachable := (Session.reachable_typed .initial false).after _
  have bounds := bindings_and_results_inRange.1 s reached
  exact ⟨reached, by decide +kernel, bounds.1, by decide +kernel, bounds.2⟩

end LetLang
