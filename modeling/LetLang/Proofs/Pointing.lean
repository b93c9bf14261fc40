import LetLang.Program
import LetLang.Proofs.Failing

/-! # Where the marker points

The report of a statement that has no tokens shows the text of the statement and, on a line of its
own behind it, a marker under the place that cannot be read. In front of the marker there is one
blank for each character before the place, line ends included, so that it only stands below the
place if the text is on one line.
-/
namespace LetLang

open Statement (body evaluate Fails)

namespace Text

/-- How many lines have been ended by a text. -/
def row (t : Text) : Nat := t.count '\n'

/-- How many characters a text has behind its last line end. -/
def column (t : Text) : Nat := (t.reverse.takeWhile (· != '\n')).length

theorem row_append (t u : Text) : (t ++ u).row = t.row + u.row := List.count_append

theorem row_eq_zero {t : Text} : t.row = 0 ↔ '\n' ∉ t := List.count_eq_zero

theorem row_lineFeed (t : Text) : row ('\n' :: t) = t.row + 1 := List.count_cons_self

theorem column_append {u : Text} (line : '\n' ∉ u) (t : Text) :
    (t ++ u).column = t.column + u.length := by
  have all : ∀ c ∈ u.reverse, (c != '\n') = true := by
    intro c member
    rw [bne_iff_ne]
    rintro rfl
    exact line (List.mem_reverse.mp member)
  rw [column, List.reverse_append, List.takeWhile_append_of_pos all, List.length_append,
    List.length_reverse, Nat.add_comm, column]

theorem column_lineFeed (t : Text) : (t ++ ['\n']).column = 0 := by
  rw [column, List.reverse_append, List.reverse_singleton, List.singleton_append,
    List.takeWhile_cons_of_neg (by decide)]
  rfl

theorem column_append_line {u : Text} (line : '\n' ∉ u) (t : Text) :
    (t ++ '\n' :: u).column = u.length := by
  have split : t ++ '\n' :: u = (t ++ ['\n']) ++ u := by rw [List.append_assoc]; rfl
  rw [split, column_append line, column_lineFeed, Nat.zero_add]

theorem column_append_lt {u : Text} (lines : '\n' ∈ u) (t : Text) : (t ++ u).column < u.length := by
  -- behind the last line end of the text, nothing in front of it matters
  obtain ⟨back, front, split, last⟩ := List.eq_append_cons_of_mem (List.mem_reverse.mpr lines)
  have shape : u = front.reverse ++ '\n' :: back.reverse := by
    rw [← List.reverse_reverse u, split, List.reverse_append, List.reverse_cons, List.append_assoc]
    rfl
  have line : '\n' ∉ back.reverse := fun member => last (List.mem_reverse.mp member)
  rw [shape, ← List.append_assoc, column_append_line line, List.length_append, List.length_cons]
  omega

theorem last_line_unique {t t' u u' : Text} (line : '\n' ∉ u) (line' : '\n' ∉ u')
    (same : t ++ '\n' :: u = t' ++ '\n' :: u') : t = t' ∧ u = u' := by
  have lengths : u.length = u'.length := by
    rw [← column_append_line line t, same, column_append_line line' t']
  obtain ⟨front, back⟩ := List.append_inj' same (congrArg Nat.succ lengths)
  exact ⟨front, (List.cons_eq_cons.mp back).2⟩

end Text

/-- What is printed ends in a text as it is and, on a line behind it, a marker of a width. -/
structure Underlines (printed text : Text) (width : Nat) (front gap : Text) : Prop where
  line : '\n' ∉ gap
  shown : printed = front ++ (text ++ '\n' :: gap) ++ (Diagnostic.marker width ++ ['\n'])

/-- The marker is on the line below the character at an offset of the text. -/
def MarkerBelow (text : Text) (start : Nat) (front gap : Text) : Prop :=
  (front ++ (text ++ '\n' :: gap)).row = (front ++ text.take start).row + 1

/-- The marker is in the column of the character at an offset of the text. -/
def MarkerUnder (text : Text) (start : Nat) (front gap : Text) : Prop :=
  (front ++ (text ++ '\n' :: gap)).column = (front ++ text.take start).column

theorem Diagnostic.length_marker {width : Nat} (some : 0 < width) :
    (marker width).length = width := by
  rw [marker, List.length_cons, List.length_replicate]
  omega

theorem Underlines.unique {printed text front front' gap gap' : Text} {width : Nat}
    (h : Underlines printed text width front gap) (h' : Underlines printed text width front' gap') :
    front = front' ∧ gap = gap' := by
  have same := List.append_cancel_right (h.shown.symm.trans h'.shown)
  rw [← List.append_assoc, ← List.append_assoc] at same
  obtain ⟨fronts, gaps⟩ := Text.last_line_unique h.line h'.line same
  exact ⟨List.append_cancel_right fronts, gaps⟩

theorem markerBelow_iff {text gap : Text} (line : '\n' ∉ gap) (start : Nat) (front : Text) :
    MarkerBelow text start front gap ↔ '\n' ∉ text.drop start := by
  have whole : text.row = Text.row (text.take start) + Text.row (text.drop start) := by
    rw [← Text.row_append, List.take_append_drop]
  rw [MarkerBelow, Text.row_append, Text.row_append, Text.row_lineFeed, Text.row_eq_zero.mpr line,
    Text.row_append, whole, ← Text.row_eq_zero]
  omega

/-- A marker that is indented like the first line of the text, and then by the number of characters
before a place, is in the column of the place if no line of the text ends before it. -/
theorem markerUnder_iff {text front gap : Text} (line : '\n' ∉ gap) {start : Nat}
    (within : start ≤ text.length) (indent : gap.length = front.column + start) :
    MarkerUnder text start front gap ↔ '\n' ∉ text.take start := by
  have taken : (text.take start).length = start := List.length_take_of_le within
  rw [MarkerUnder, ← List.append_assoc, Text.column_append_line line, indent]
  constructor
  · intro same member
    have less := Text.column_append_lt member front
    omega
  · intro single
    rw [Text.column_append single, taken]

namespace Handler

theorem report_underlined (h : Handler) {d : Diagnostic} (diagnosis : d.diagnosis = true)
    (some : d.subject ≠ []) (external : d.internal = false) :
    ∃ heading, h.report .plain d = heading ++ '\n' :: (d.underline .plain ++ ['\n']) := by
  have shown : (d.diagnosis && !d.subject.isEmpty && !d.internal) = true := by
    rw [diagnosis, external]
    simpa using some
  obtain ⟨fatal, location⟩ := h
  have plain : initial.report .plain d =
      tag d ++ d.styled ++ '\n' :: (d.underline .plain ++ ['\n']) := by
    rw [report, reportLines, if_pos shown]
    change Text.line (Text.join ['\n'] [tag d ++ d.styled, d.underline .plain]) = _
    rw [Text.join_cons_cons, Text.join_singleton, Text.line, List.append_assoc, List.append_assoc]
    rfl
  cases location with
  | none => exact ⟨_, plain⟩
  | some l =>
    refine ⟨Text.line l.text ++ (tag d ++ d.styled), ?_⟩
    rw [report_located, plain, ← List.append_assoc]

end Handler

theorem Diagnostic.underline_plain {d : Diagnostic} {before place after : Text}
    (subject : d.subject = before ++ (place ++ after)) (start : d.start = before.length)
    (stop : d.stop = (before ++ place).length) (some : place ≠ []) :
    d.underline .plain = "  " ++ (d.subject ++
      '\n' :: (List.replicate (2 + before.length) ' ' ++ marker place.length)) := by
  have width : 0 < place.length := List.length_pos_iff.mpr some
  have parts : d.parts = (before, place, after) := by
    have from_start : d.subject.position d.start = before.length := by
      rw [start, Text.position, if_neg (by omega)]
      rfl
    have to_stop : d.subject.position (max d.stop (d.start + 1)) = (before ++ place).length := by
      have later : max d.stop (d.start + 1) = (before ++ place).length := by
        rw [start, stop, List.length_append]
        omega
      rw [later, Text.position, if_neg (by omega)]
      rfl
    have whole : d.subject = before ++ place ++ after := by rw [subject, List.append_assoc]
    have front : d.subject.take before.length = before := by rw [subject, List.take_left]
    have both : d.subject.take (before ++ place).length = before ++ place := by
      rw [whole, List.take_left]
    have rest : d.subject.drop (before ++ place).length = after := by rw [whole, List.drop_left]
    simp only [Diagnostic.parts, from_start, to_stop, front, both, rest, List.drop_left]
  have shape : d.underline .plain = "  " ++ d.parts.1 ++ Style.plain.alert d.parts.2.1 ++ d.parts.2.2 ++
      "\n  " ++ List.replicate d.parts.1.length ' ' ++
      Style.plain.alert (marker d.parts.2.1.length) := rfl
  rw [shape, parts, subject, List.replicate_add]
  simp only [Style.alert, List.append_assoc]
  rfl

/-- A report that shows a place in its subject underlines it, in one way only, and the marker is
below the place as far as the lines of the subject admit. -/
theorem Handler.underlines_report (h : Handler) {d : Diagnostic} {before place after : Text}
    (subject : d.subject = before ++ (place ++ after)) (start : d.start = before.length)
    (stop : d.stop = (before ++ place).length) (some : place ≠ []) (diagnosis : d.diagnosis = true)
    (external : d.internal = false) :
    (∃ front gap, Underlines (h.report .plain d) d.subject place.length front gap) ∧
      ∀ front gap, Underlines (h.report .plain d) d.subject place.length front gap →
        (MarkerBelow d.subject before.length front gap ↔ '\n' ∉ d.subject.drop before.length) ∧
        (MarkerUnder d.subject before.length front gap ↔ '\n' ∉ d.subject.take before.length) := by
  have visible : d.subject ≠ [] := by
    rw [subject]
    exact List.append_ne_nil_of_right_ne_nil before (List.append_ne_nil_of_left_ne_nil some after)
  have within : before.length ≤ d.subject.length := by
    rw [subject, List.length_append]
    exact Nat.le_add_right _ _
  have line : '\n' ∉ List.replicate (2 + before.length) ' ' := by
    intro member
    exact absurd (List.eq_of_mem_replicate member) (by decide)
  obtain ⟨heading, printed⟩ := h.report_underlined diagnosis visible external
  rw [Diagnostic.underline_plain subject start stop some] at printed
  have own : Underlines (h.report .plain d) d.subject place.length (heading ++ '\n' :: [' ', ' '])
      (List.replicate (2 + before.length) ' ') := by
    refine ⟨line, printed.trans ?_⟩
    simp only [List.append_assoc, List.cons_append, List.nil_append]
    rfl
  refine ⟨⟨_, _, own⟩, fun front gap other => ?_⟩
  -- there is no other way to see the subject and a marker at the end of what is printed
  obtain ⟨rfl, rfl⟩ := other.unique own
  refine ⟨markerBelow_iff line _ _, markerUnder_iff line within ?_⟩
  rw [Text.column_append_line (by decide), List.length_replicate]
  rfl

namespace Statement

/-- A report of the first text that is no token, told by the text in front of it and by the text. -/
theorem Fails.unreadable {style : Style} {room : Nat} {statement : Text} {env left : Env}
    {e : StatementError} {report : Diagnostic} (fails : Fails room statement env e left)
    (made : e.failure.diagnostic style = .ok report) (lex : report.kind = .lex) :
    ∃ before place after, body statement = .ok report.subject ∧
      report.subject = before ++ (place ++ after) ∧ place ≠ [] ∧ report.start = before.length ∧
      report.stop = (before ++ place).length ∧ report.diagnosis = true ∧ report.internal = false := by
  obtain ⟨fault, rfl⟩ :=
    StatementError.eq_lex_of_kind ((StatementError.kind_of_diagnostic made).symm.trans lex)
  cases fails with
  | lex stripped refused =>
    obtain ⟨stop, told, rfl⟩ := exists_stop_of_tokenize refused
    obtain ⟨before, place, after, split, stops, _, subject, start, behind, diagnosis, external, _⟩ :=
      LexStop.Tells.about told made
    rw [subject]
    exact ⟨before, place, after, stripped, split, stops.unreadable.ne_nil, start, behind, diagnosis,
      external⟩

/-- The report of a statement that has no tokens shows its text as it is, and on a line behind it a
marker as long as the place that cannot be read. The marker is on the line below the beginning of
the place exactly if no line of the text ends behind there, and in its column exactly if none ends
before there. So it points at the place just where the statement is on one line. -/
theorem marker_points_on_one_line (handler : Handler) {room : Nat} {statement : Text}
    {env left : Env} {failure : Failure} {report : Diagnostic}
    (failed : evaluate room statement env = (.error failure, left)) (made : failure.diagnostic .plain = .ok report) (lex : report.kind = .lex) :
    ∃ (text : Text) (start width : Nat), body statement = .ok text ∧ report.subject = text ∧
      report.start = start ∧ report.stop = (start + width : Nat) ∧ start + width ≤ text.length ∧
      (Diagnostic.marker width).length = width ∧
      (∃ front gap, Underlines (handler.report .plain report) text width front gap) ∧
      ∀ front gap, Underlines (handler.report .plain report) text width front gap →
        (MarkerBelow text start front gap ↔ '\n' ∉ text.drop start) ∧
        (MarkerUnder text start front gap ↔ '\n' ∉ text.take start) ∧
        (MarkerBelow text start front gap ∧ MarkerUnder text start front gap ↔ '\n' ∉ text) := by
  obtain ⟨e, rfl, fails⟩ := fails_of_evaluate failed
  obtain ⟨before, place, after, stripped, subject, some, start, stop, diagnosis, external⟩ :=
    fails.unreadable made lex
  obtain ⟨shown, placed⟩ :=
    handler.underlines_report subject start stop some diagnosis external
  rw [List.length_append] at stop
  refine ⟨report.subject, before.length, place.length, stripped, rfl, start, stop, ?_,
    Diagnostic.length_marker (List.length_pos_iff.mpr some), shown, fun front gap underlines => ?_⟩
  · rw [subject, List.length_append, List.length_append]
    omega
  · obtain ⟨below, under⟩ := placed front gap underlines
    have parts : '\n' ∉ report.subject ↔
        '\n' ∉ report.subject.drop before.length ∧ '\n' ∉ report.subject.take before.length := by
      rw [← not_or, or_comm, ← List.mem_append, List.take_append_drop]
    exact ⟨below, under, (and_congr below under).trans parts.symm⟩

theorem stray_on_one_line :
    ∃ failure report, evaluate 0 "12 ? 3;;" .empty = (.error failure, .empty) ∧
      failure.diagnostic .plain = .ok report ∧ report.kind = .lex ∧
      ∃ front gap, Underlines (Handler.initial.report .plain report) "12 ? 3" 1 front gap ∧
        MarkerBelow "12 ? 3" 3 front gap ∧ MarkerUnder "12 ? 3" 3 front gap := by
  have failed : evaluate 0 "12 ? 3;;" .empty =
      (.error (StatementError.lex (.noToken "12 ? 3" 3)).failure, .empty) := by decide +kernel
  have made := StatementError.diagnostic_noToken .plain "12 ? 3" 3
  obtain ⟨text, start, width, _, rfl, at_start, at_stop, _, _, ⟨front, gap, underlines⟩, placed⟩ :=
    marker_points_on_one_line .initial failed made rfl
  obtain rfl : start = 3 := (Int.ofNat.inj at_start).symm
  obtain rfl : width = 1 := by
    have stop : (3 : Int) + 1 = (3 + width : Nat) := at_stop
    omega
  obtain ⟨_, _, both⟩ := placed front gap underlines
  exact ⟨_, _, failed, made, rfl, front, gap, underlines, both.mpr (by decide)⟩

/-- In a statement on two lines the marker is as far behind the stray character on the second one as
the first one is long. -/
theorem marker_misses_second_line :
    ¬ ∀ (statement : Text) (env left : Env) (failure : Failure) (report : Diagnostic)
      (handler : Handler) (text : Text) (start width : Nat),
      evaluate (Program.shellRoom Program.callLimit) statement env = (.error failure, left) →
      failure.diagnostic .plain = .ok report → report.kind = .lex → body statement = .ok text → report.start = start →
      report.stop = (start + width : Nat) →
        ∃ front gap, Underlines (handler.report .plain report) text width front gap ∧
          MarkerBelow text start front gap ∧ MarkerUnder text start front gap := by
  intro points
  have failed : evaluate (Program.shellRoom Program.callLimit) "1 +\n2 ? 3;;" .empty =
      (.error (StatementError.lex (.noToken "1 +\n2 ? 3" 6)).failure, .empty) := by decide +kernel
  have stripped : body "1 +\n2 ? 3;;" = .ok "1 +\n2 ? 3" := by decide +kernel
  let before : Text := "1 +\n2 "
  let place : Text := "?"
  obtain ⟨report, made, lex, subject, start, stop, diagnosis, external⟩ : ∃ report : Diagnostic,
      (StatementError.lex (.noToken "1 +\n2 ? 3" 6)).failure.diagnostic .plain = .ok report ∧
        report.kind = .lex ∧ report.subject = before ++ (place ++ " 3") ∧
        report.start = before.length ∧ report.stop = (before ++ place).length ∧
        report.diagnosis = true ∧ report.internal = false :=
    ⟨_, StatementError.diagnostic_noToken .plain _ 6, rfl, rfl, rfl, rfl, rfl, rfl⟩
  obtain ⟨_, placed⟩ :=
    Handler.initial.underlines_report subject start stop (by decide) diagnosis external
  rw [subject] at placed
  obtain ⟨front, gap, underlines, _, under⟩ :=
    points _ _ _ _ report .initial _ 6 1 failed made lex stripped start stop
  exact absurd ((placed front gap underlines).2.mp under) (by decide)

end Statement

end LetLang
