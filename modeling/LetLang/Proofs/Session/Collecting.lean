import LetLang.Proofs.Session.History

/-! # Collecting statements from lines

A session that is given lines one by one cuts each of them together with what waits, and forgets
blank text that waits. What it collects is told by the text as a whole: the main statement is that
it makes no difference where the lines end.
-/
namespace LetLang.Session

open Statement (Unterminated Cuts body ended terminator)

def collect (s : Session) : List Text → List Text × Session
  | [] => ([], s)
  | line :: rest =>
    let (complete, s) := s.complete line
    let (more, s) := s.collect rest
    (complete ++ more, s)

theorem collect_cons (s : Session) (line : Text) (rest : List Text) :
    s.collect (line :: rest) =
      ((s.complete line).1 ++ ((s.complete line).2.collect rest).1,
        ((s.complete line).2.collect rest).2) := rfl

/-- A text of which the waiting text is left, but for blank text in front. -/
def Keeps (s : Session) (text : Text) : Prop :=
  ∃ gap, Text.blank gap = true ∧ text = gap ++ s.pending

/-- A text with which the next line is cut, but for blank text in front. -/
def Opens (s : Session) (text : Text) : Prop :=
  ∃ gap, Text.blank gap = true ∧ text = gap ++ s.opening

theorem opens_opening (s : Session) : s.Opens s.opening := ⟨[], rfl, rfl⟩

/-- The line end in front of the next line is left out only where nothing waits. -/
theorem Keeps.opens {s : Session} {text : Text} (h : s.Keeps text) : s.Opens (text ++ ['\n']) := by
  obtain ⟨gap, blank, rfl⟩ := h
  unfold Opens opening
  cases s.pending with
  | nil =>
    refine ⟨gap ++ ['\n'], ?_, by simp⟩
    rw [Text.blank_append, blank]
    rfl
  | cons c pending => exact ⟨gap, blank, by simp⟩

theorem Keeps.strip_eq {s : Session} {text : Text} (h : s.Keeps text) :
    Text.strip s.pending = Text.strip text := by
  obtain ⟨gap, blank, rfl⟩ := h
  rw [Text.strip_append_of_blank blank]

theorem keeps_rest (s : Session) (rest : Text) :
    ({ s with pending := if Text.blank rest then [] else rest } : Session).Keeps rest := by
  by_cases blank : Text.blank rest = true
  · exact ⟨rest, blank, by simp only [if_pos blank, List.append_nil]⟩
  · exact ⟨[], rfl, by simp only [if_neg blank, List.nil_append]⟩

theorem semicolon_not_mem {gap : Text} (blank : Text.blank gap = true) : ';' ∉ gap := by
  intro member
  exact absurd (List.all_eq_true.mp blank _ member) (by decide)

theorem map_body_ended {pieces : List Text} (h : ∀ p ∈ pieces, Unterminated (p ++ [';'])) :
    (pieces.map ended).map body = pieces.map fun p => .ok (Text.strip p) := by
  rw [List.map_map]
  exact List.map_congr_left fun p hp => Statement.body_ended (h p hp)

/-- No terminator reaches back behind the line that completes it. -/
theorem Tidy.unterminated_opening {s : Session} (h : s.Tidy) :
    Unterminated (s.opening ++ [';']) := by
  unfold opening
  split
  · exact Statement.unterminated_singleton ';'
  · exact h.unterminated.append_lineFeed

theorem Opens.complete {s : Session} {front : Text} (h : s.Opens front) (line : Text) :
    ∃ pieces rest, Cuts (front ++ line) pieces rest ∧
      (s.complete line).1.map body = pieces.map (fun p => .ok (Text.strip p)) ∧
      (s.complete line).2.Keeps rest := by
  obtain ⟨gap, blank, rfl⟩ := h
  obtain ⟨pieces, rest, cuts, _⟩ := Statement.exists_cuts (s.opening ++ line)
  have bodies := map_body_ended cuts.unterminated_piece
  have whole := cuts.append_left (semicolon_not_mem blank)
  rw [complete_of_cuts cuts, List.append_assoc]
  cases pieces with
  | nil =>
    obtain ⟨gap', blank', left⟩ := keeps_rest s rest
    refine ⟨[], gap ++ rest, whole, rfl, gap ++ gap', ?_, ?_⟩
    · rw [Text.blank_append, blank, blank']
      rfl
    · rw [List.append_assoc, ← left]
  | cons piece pieces =>
    refine ⟨(gap ++ piece) :: pieces, rest, whole, ?_, keeps_rest s rest⟩
    rw [bodies, List.map_cons, List.map_cons, Text.strip_append_of_blank blank]

theorem Opens.collect {s : Session} {front : Text} (h : s.Opens front) (line : Text)
    (lines : List Text) :
    ∃ pieces rest, Cuts (front ++ Text.join ['\n'] (line :: lines)) pieces rest ∧
      (s.collect (line :: lines)).1.map body = pieces.map (fun p => .ok (Text.strip p)) ∧
      (s.collect (line :: lines)).2.Keeps rest := by
  obtain ⟨pieces, rest, cuts, bodies, keeps⟩ := h.complete line
  -- what waits behind each line is the rest of the text so far, but for blank text in front
  induction lines generalizing s front line pieces rest with
  | nil =>
    refine ⟨pieces, rest, ?_, ?_, keeps⟩
    · rw [Text.join_singleton]
      exact cuts
    · rw [collect_cons, Session.collect, List.append_nil]
      exact bodies
  | cons next lines ih =>
    obtain ⟨pieces', rest', cuts', bodies', keeps'⟩ := keeps.opens.complete next
    obtain ⟨later, left, more, rest_bodies, last⟩ :=
      ih keeps.opens next pieces' rest' cuts' bodies' keeps'
    refine ⟨pieces ++ later, left, ?_, ?_, ?_⟩
    · rw [List.append_assoc] at more
      have whole := cuts.append more
      rw [Text.join_cons_cons, List.append_assoc line, ← List.append_assoc front]
      exact whole
    · rw [collect_cons, List.map_append, bodies, rest_bodies, List.map_append]
    · rw [collect_cons]
      exact last

/-- Line ends do not change how text falls into statements. Whatever waits, lines given one by one
complete the pieces of the text that they make together, and what is left waiting is the rest of
that text, both up to blanks around them. Each line completes statements by terminators of its own,
one for each and at its end, and leaves no terminator and no blank text waiting. -/
theorem lines_complete_pieces_of_text {s : Session} (h : s.Reachable) :
    (∀ lines, ∃ pieces rest,
      Cuts (Text.join ['\n'] (if s.pending.isEmpty then lines else s.pending :: lines)) pieces
        rest ∧
      (s.collect lines).1.map body = pieces.map (fun p => .ok (Text.strip p)) ∧
      Text.strip (s.collect lines).2.pending = Text.strip rest) ∧
    ∀ line, (s.complete line).2.Tidy ∧
      ∀ earlier statement later, (s.complete line).1 = earlier ++ statement :: later →
        terminator <:+ statement ∧
        (∀ i, terminator <+: statement.drop i ↔ i + 2 = statement.length) ∧
        ∃ own behind, line = own ++ terminator ++ behind ∧
          (earlier ++ [statement]).flatten = s.opening ++ own ++ terminator := by
  have tidy := h.tidy
  constructor
  · intro lines
    cases lines with
    | nil =>
      have text : Text.join ['\n'] (if s.pending.isEmpty then [] else [s.pending]) = s.pending := by
        cases s.pending <;> simp
      refine ⟨[], s.pending, ?_, rfl, rfl⟩
      rw [text]
      exact .rest tidy.unterminated
    | cons line lines =>
      have text : Text.join ['\n'] (if s.pending.isEmpty then line :: lines
          else s.pending :: line :: lines) = s.opening ++ Text.join ['\n'] (line :: lines) := by
        unfold opening
        split
        · rfl
        · rw [Text.join_cons_cons]
      obtain ⟨pieces, rest, cuts, bodies, keeps⟩ := (opens_opening s).collect line lines
      refine ⟨pieces, rest, ?_, bodies, keeps.strip_eq⟩
      rw [text]
      exact cuts
  · intro line
    refine ⟨tidy_complete s line, ?_⟩
    intro earlier statement later found
    obtain ⟨pieces, rest, cuts, _⟩ := Statement.exists_cuts (s.opening ++ line)
    rw [complete_of_cuts cuts] at found
    obtain ⟨before, more, rfl, rfl, ends⟩ := List.map_eq_append_iff.mp found
    obtain ⟨piece, behind, rfl, rfl, rfl⟩ := List.map_eq_cons_iff.mp ends
    have first : Unterminated (piece ++ [';']) :=
      cuts.unterminated_piece piece (List.mem_append_right _ List.mem_cons_self)
    refine ⟨List.suffix_append piece terminator, Statement.terminator_at_iff first, ?_⟩
    obtain ⟨own, after, split, start⟩ := cuts.starts_behind tidy.unterminated_opening
    refine ⟨own, after, split, ?_⟩
    rw [List.flatten_append, ← List.flatMap_def, List.flatten_singleton, ended,
      ← List.append_assoc, start]

/-- A semicolon at the end of a line and one on the next line are no terminator. -/
theorem semicolons_apart :
    ((typed .initial false).after (.complete ['1', ';'])).Reachable ∧
      (((typed .initial false).after (.complete ['1', ';'])).collect [[';', '2', ';', ';']]).1 =
        [['1', ';', '\n', ';', '2', ';', ';']] ∧
      ∃ pieces rest, Cuts ['1', ';', '\n', ';', '2', ';', ';'] pieces rest ∧
        [body ['1', ';', '\n', ';', '2', ';', ';']] = pieces.map (fun p => .ok (Text.strip p)) := by
  have reached : ((typed .initial false).after (.complete ['1', ';'])).Reachable :=
    .after _ (@Reachable.new .initial inputPath true false _ rfl)
  obtain ⟨pieces, rest, cuts, bodies, _⟩ :=
    (lines_complete_pieces_of_text reached).1 [[';', '2', ';', ';']]
  exact ⟨reached, rfl, pieces, rest, cuts, bodies⟩

end LetLang.Session
