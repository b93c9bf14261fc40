import LetLang.Proofs.Pointing
import LetLang.Proofs.Session.File

/-! # Line numbers of a file

The lines of a file end at line feeds and at some other characters, and they are numbered in the
order in which they end. The number that heads a report counts all these line ends in front of the
terminator of the statement that fails, so that it is the number of its line in the file where
line feeds are the only ones among them, and too large otherwise.
-/
namespace LetLang

open Statement (Unterminated Cuts ended series terminator)

namespace Text

def lineFed (t : Text) : Text := t.map fun c => if endsFileLine c then '\n' else c

theorem lineFed_append (t u : Text) : (t ++ u).lineFed = t.lineFed ++ u.lineFed := List.map_append

theorem lineFed_of_endsFileLine {c : Char} (h : endsFileLine c = true) (t : Text) :
    lineFed (c :: t) = '\n' :: t.lineFed := by
  rw [lineFed, List.map_cons, if_pos h, lineFed]

theorem lineFed_of_not {c : Char} (h : ¬ endsFileLine c = true) (t : Text) :
    lineFed (c :: t) = c :: t.lineFed := by
  rw [lineFed, List.map_cons, if_neg h, lineFed]

/-- Whether a line of a file ends at a character although it is no line feed. -/
def endsUnfed (c : Char) : Bool := endsFileLine c && c != '\n'

theorem row_lineFed (t : Text) : row t.lineFed = row t + t.countP endsUnfed := by
  induction t with
  | nil => rfl
  | cons c t ih =>
    by_cases feed : c = '\n'
    · subst feed
      rw [lineFed_of_endsFileLine (by rfl), row_lineFeed, row_lineFeed, ih,
        List.countP_cons_of_neg (by decide)]
      omega
    · have alike : endsUnfed c = endsFileLine c := by simp [endsUnfed, feed]
      have same_row (u : Text) : row (c :: u) = row u := List.count_cons_of_ne feed
      rw [same_row]
      by_cases h : endsFileLine c = true
      · rw [lineFed_of_endsFileLine h, row_lineFeed, ih, List.countP_cons_of_pos (alike.trans h)]
        omega
      · rw [lineFed_of_not h, same_row, ih, List.countP_cons_of_neg (alike ▸ h)]

theorem countP_endsUnfed_eq_zero {t : Text} :
    t.countP endsUnfed = 0 ↔ ∀ c ∈ t, endsFileLine c = true → c = '\n' := by
  simp only [List.countP_eq_zero, endsUnfed, Bool.and_eq_true, bne_iff_ne, not_and, not_not]

theorem not_endsFileLine_of_mem {line t : Text} (within : ∀ c ∈ line, endsFileLine c = false) :
    ∀ l ∈ linesFrom endsFileLine [] line t, ∀ c ∈ l, endsFileLine c = false := by
  induction t generalizing line with
  | nil =>
    cases line with
    | nil => exact fun l listed => absurd listed List.not_mem_nil
    | cons c line =>
      intro l listed d member
      rw [List.mem_singleton.mp listed] at member
      exact within d (List.mem_reverse.mp member)
  | cons c t ih =>
    rw [linesFrom]
    split
    · rw [linesFrom_closed, List.reverse_singleton, List.singleton_append]
      refine List.forall_mem_cons.mpr ⟨fun d member => within d (List.mem_reverse.mp member), ?_⟩
      exact ih fun d member => absurd member List.not_mem_nil
    · rename_i h
      exact ih (List.forall_mem_cons.mpr ⟨eq_false_of_ne_true h, within⟩)

theorem flatMap_line_linesFrom (line t : Text) :
    ∃ last, (last = [] ∨ last = ['\n']) ∧
      (linesFrom endsFileLine [] line t).flatMap Text.line = line.reverse ++ t.lineFed ++ last := by
  induction t generalizing line with
  | nil =>
    cases line with
    | nil => exact ⟨[], .inl rfl, rfl⟩
    | cons c line => exact ⟨['\n'], .inr rfl, by simp [linesFrom, lineFed, Text.line]⟩
  | cons c t ih =>
    rw [linesFrom]
    split
    · rename_i h
      obtain ⟨last, shape, whole⟩ := ih []
      refine ⟨last, shape, ?_⟩
      rw [linesFrom_closed, List.flatMap_append, whole, lineFed_of_endsFileLine h]
      simp [Text.line]
    · rename_i h
      obtain ⟨last, shape, whole⟩ := ih (c :: line)
      refine ⟨last, shape, ?_⟩
      rw [whole, lineFed_of_not h]
      simp

theorem join_lineFeed (line : Text) (lines : List Text) :
    join ['\n'] (line :: lines) ++ ['\n'] = (line :: lines).flatMap Text.line := by
  induction lines generalizing line with
  | nil => rw [join_singleton, List.flatMap_singleton, Text.line]
  | cons next lines ih =>
    rw [join_cons_cons, List.append_assoc, ih, @List.flatMap_cons _ _ line, Text.line]

theorem lineFed_eq_join (t : Text) :
    ∃ last, (last = [] ∨ last = ['\n']) ∧ t.lineFed = join ['\n'] (fileLines t) ++ last := by
  obtain ⟨last, shape, whole⟩ := flatMap_line_linesFrom [] t
  rw [List.reverse_nil, List.nil_append] at whole
  cases lines : linesFrom endsFileLine [] [] t with
  | nil =>
    rw [lines, List.flatMap_nil] at whole
    have none : t.lineFed = [] := (List.append_eq_nil_iff.mp whole.symm).1
    exact ⟨[], .inl rfl, by rw [none, fileLines, linesBy, lines]; rfl⟩
  | cons line more =>
    rw [lines, ← join_lineFeed] at whole
    rcases shape with rfl | rfl
    · refine ⟨['\n'], .inr rfl, ?_⟩
      rw [fileLines, linesBy, lines, whole, List.append_nil]
    · refine ⟨[], .inl rfl, ?_⟩
      rw [fileLines, linesBy, lines, List.append_nil]
      exact (List.append_cancel_right whole).symm

theorem row_flatMap_line {lines : List Text} (single : ∀ l ∈ lines, '\n' ∉ l) :
    row (lines.flatMap Text.line) = lines.length := by
  induction lines with
  | nil => rfl
  | cons line lines ih =>
    obtain ⟨first, later⟩ := List.forall_mem_cons.mp single
    rw [List.flatMap_cons, row_append, ih later, Text.line, row_append,
      row_eq_zero.mpr first, List.length_cons, Nat.zero_add, Nat.add_comm]
    rfl

end Text

namespace Statement

theorem lineFed_terminator : Text.lineFed terminator = terminator := by decide

theorem lineFed_ended (piece : Text) : (ended piece).lineFed = ended piece.lineFed := by
  rw [ended, Text.lineFed_append, lineFed_terminator, ended]

theorem lineFed_flatMap_ended (pieces : List Text) :
    Text.lineFed (pieces.flatMap ended) = (pieces.map Text.lineFed).flatMap ended := by
  induction pieces with
  | nil => rfl
  | cons piece pieces ih =>
    rw [List.flatMap_cons, Text.lineFed_append, lineFed_ended, ih, List.map_cons, List.flatMap_cons]

theorem Unterminated.lineFed {t : Text} (h : Unterminated t) : Unterminated t.lineFed := by
  have kept {c : Char} (fed : (if Text.endsFileLine c then '\n' else c) = ';') : c = ';' := by
    split at fed
    · cases fed
    · exact fed
  induction t with
  | nil => exact unterminated_nil
  | cons c t ih =>
    obtain ⟨first, later⟩ := unterminated_cons.mp h
    refine unterminated_cons.mpr ⟨?_, ih later⟩
    rintro ⟨here, next⟩
    refine first ⟨kept here, ?_⟩
    cases t with
    | nil => cases next
    | cons d t => exact congrArg some (kept (Option.some.inj next))

/-- Line ends are no part of a terminator, so that it does not matter which ones a text has. -/
theorem Cuts.lineFed {t rest : Text} {pieces : List Text} (h : Cuts t pieces rest) :
    Cuts t.lineFed (pieces.map Text.lineFed) rest.lineFed := by
  induction h with
  | rest none => exact .rest none.lineFed
  | piece first _ ih =>
    have front := first.lineFed
    rw [Text.lineFed_append] at front
    rw [Text.lineFed_append, Text.lineFed_append, lineFed_terminator]
    exact .piece front ih

theorem Cuts.of_fileLines {t rest rest' : Text} {pieces pieces' : List Text} (h : Cuts t pieces rest)
    (lines : Cuts (Text.join ['\n'] (Text.fileLines t)) pieces' rest') :
    pieces' = pieces.map Text.lineFed := by
  obtain ⟨last, shape, whole⟩ := Text.lineFed_eq_join t
  have open_end : Unterminated (rest' ++ last) := by
    rcases shape with rfl | rfl
    · rw [List.append_nil]
      exact lines.unterminated_rest
    · exact lines.unterminated_rest.append_of_head (unterminated_singleton '\n') (by decide)
  have joined := lines.append (.rest open_end)
  rw [← whole, List.append_nil] at joined
  exact (joined.unique h.lineFed).1

theorem Cuts.piece_of_not_mem {piece : Text} (plain : ';' ∉ piece) {t rest : Text} {pieces : List Text}
    (h : Cuts t pieces rest) : Cuts (piece ++ terminator ++ t) (piece :: pieces) rest :=
  .piece (unterminated_semicolon plain) h

end Statement

/-- The number of a line is one more than the number of line ends that are read up to it. -/
theorem EndsIn.number_eq {lines : List Text} {read : Text} {number : Nat} (h : EndsIn [] lines read number)
    (single : ∀ l ∈ lines, '\n' ∉ l) : number = read.row + 1 := by
  obtain ⟨before, own, behind, after, rfl, rfl, rfl⟩ := h
  have row_before : Text.row (before.flatMap Text.line) = before.length :=
    Text.row_flatMap_line fun l listed => single l (List.mem_append_left _ listed)
  have row_own : own.row = 0 := by
    refine Text.row_eq_zero.mpr fun member => ?_
    refine single _ (List.mem_append_right _ List.mem_cons_self) ?_
    exact List.mem_append_left _ (List.mem_append_left _ member)
  have row_terminator : Text.row terminator = 0 := by decide
  rw [List.nil_append, Text.row_append, Text.row_append, row_before, row_own, row_terminator]

namespace Program

open Text (fileLines lineFed unifyLineEnds endsFileLine endsUnfed)

/-- What the statements of a file come to, line feeds standing for its line ends. -/
def fileSeries (limit : Nat) (pieces : List Text) : Series :=
  series (fileRoom limit) .empty ((pieces.map lineFed).map ended)

theorem exists_failed {limit : Nat} {pieces : List Text} {e : StatementError}
    (failed : (fileSeries limit pieces).error = some e) :
    ∃ earlier piece later, pieces = earlier ++ piece :: later ∧
      earlier.length = (fileSeries limit pieces).outputs.length := by
  have bound : (fileSeries limit pieces).outputs.length < pieces.length := by
    rw [← List.length_map (f := lineFed)]
    exact Session.length_told_of_error (s := Session.opened [] false) failed
  generalize (fileSeries limit pieces).outputs.length = k at bound ⊢
  refine ⟨pieces.take k, pieces[k], pieces.drop (k + 1), ?_, List.length_take_of_le (Nat.le_of_lt bound)⟩
  rw [← List.drop_eq_getElem_cons bound, List.take_append_drop]

theorem number_eq {file : Text} {number : Nat} {earlier : List Text} {piece : Text}
    (ends : EndsIn [] (fileLines file) (((earlier ++ [piece]).map lineFed).flatMap ended) number) :
    let front : Text := earlier.flatMap ended ++ piece
    number = front.row + front.countP endsUnfed + 1 := by
  intro front
  have single : ∀ l ∈ fileLines file, '\n' ∉ l := by
    intro l listed member
    have kept : endsFileLine '\n' = false :=
      Text.not_endsFileLine_of_mem (fun c member => absurd member List.not_mem_nil) l listed _ member
    exact absurd kept (by decide)
  have shape : (earlier ++ [piece]).flatMap ended = front ++ terminator := by
    rw [List.flatMap_append, List.flatMap_singleton, ended, ← List.append_assoc]
  have row_terminator : Text.row terminator = 0 := by decide
  have unfed_terminator : terminator.countP endsUnfed = 0 := by decide
  rw [ends.number_eq single, ← Statement.lineFed_flatMap_ended, Text.row_lineFed, shape,
    Text.row_append, List.countP_append, row_terminator, unfed_terminator]
  rfl

/-- A statement of a file that fails is reported at the number of line ends in front of its
terminator, counted from one. That is more than the number of line feeds there by the number of the
other characters that end a line of a file, so that it is the line of the terminator in the file
exactly if none of them is in front of it. -/
theorem reported_line_counts_line_ends (limit : Nat) {path : Text}
    (named : path ≠ Session.inputPath) (style : Style) (showEnv : Bool) {file rest : Text}
    {pieces : List Text} {e : StatementError} (cuts : Cuts (unifyLineEnds file) pieces rest) (failed : (fileSeries limit pieces).error = some e) :
    ∃ earlier piece later behind, pieces = earlier ++ piece :: later ∧
      earlier.length = (fileSeries limit pieces).outputs.length ∧
      let front : Text := earlier.flatMap ended ++ piece
      let number : Nat := front.row + front.countP endsUnfed + 1
      unifyLineEnds file = front ++ terminator ++ behind ∧
      runFile limit style path showEnv (some file) =
        ((fileSeries limit pieces).outputs.flatMap (Session.opened path showEnv).printed ++
          (Text.line (Location.text ⟨path, some number⟩) ++
            Handler.initial.report style (e.failure.reported style)), .exit 1) ∧
      (number = front.row + 1 ↔ ∀ c ∈ front, endsFileLine c = true → c = '\n') := by
  obtain ⟨pieces', rest', lines, out, ends⟩ :=
    Session.runText_told (fileRoom limit) (Session.idle_opened path showEnv) rfl rfl (unifyLineEnds file)
  obtain rfl : pieces' = pieces.map lineFed := cuts.of_fileLines lines
  obtain ⟨earlier, piece, later, split, count⟩ := exists_failed failed
  obtain ⟨behind, whole⟩ := (split ▸ cuts).exists_behind
  refine ⟨earlier, piece, later, behind, split, count, whole, ?_, ?_⟩
  · cases ends with
    | @failed e' n error ends failure handler =>
      obtain rfl : e = e' := Option.some.inj (failed.symm.trans error)
      have taken : (pieces.map lineFed).take ((fileSeries limit pieces).outputs.length + 1) =
          (earlier ++ [piece]).map lineFed := by
        rw [← List.map_take, ← count, split, List.take_length_add_append, List.take_succ_cons,
          List.take_zero]
      have number := number_eq (taken ▸ ends)
      rw [number] at handler
      rw [runFile_of_failure named style rfl failure handler, out]
      rfl
    | short passed => exact absurd (failed.symm.trans passed) (Option.some_ne_none e)
    | done passed => exact absurd (failed.symm.trans passed) (Option.some_ne_none e)
  · rw [← Text.countP_endsUnfed_eq_zero]
    omega

/-- Of the three line ends in front of the second terminator one is a form feed. -/
theorem unbound_behind_form_feed :
    let file : Text := "1;;\x0c\r\nx\n;;2;;"
    let pieces : List Text := ["1".toList, "\x0c\nx\n".toList, "2".toList]
    ['f'] ≠ Session.inputPath ∧ Cuts (unifyLineEnds file) pieces [] ∧
      (fileSeries callLimit pieces).error = some (.eval (.unbound ['x'])) ∧
      ∃ out report, runFile callLimit .plain ['f'] false (some file) =
        (out ++ (Text.line "File 'f', line 4:" ++ report), .exit 1) := by
  intro file pieces
  have named : (['f'] : Text) ≠ Session.inputPath := by decide
  have one : ';' ∉ "1".toList := by decide
  have unbound : ';' ∉ "\x0c\nx\n".toList := by decide
  have two : ';' ∉ "2".toList := by decide
  have cuts : Cuts (unifyLineEnds file) pieces [] :=
    .piece_of_not_mem one (.piece_of_not_mem unbound (.piece_of_not_mem two
      (.rest Statement.unterminated_nil)))
  have failed : (fileSeries callLimit pieces).error = some (.eval (.unbound ['x'])) := by decide +kernel
  refine ⟨named, cuts, failed, ?_⟩
  obtain ⟨earlier, piece, later, behind, split, count, _, ran, _⟩ :=
    reported_line_counts_line_ends callLimit named .plain false cuts failed
  have passed : (fileSeries callLimit pieces).outputs.length = 1 := by decide +kernel
  obtain ⟨first, rfl⟩ := List.length_eq_one_iff.mp (count.trans passed)
  obtain ⟨rfl, more⟩ := List.cons_eq_cons.mp split
  obtain ⟨rfl, rfl⟩ := List.cons_eq_cons.mp more
  have heading : Location.text ⟨['f'], some 4⟩ = "File 'f', line 4:".toList := by decide +kernel
  rw [← heading]
  exact ⟨_, _, ran⟩

/-- A form feed does not end a line of the text, but the reported number counts it. -/
theorem form_feed_counts_as_line_end :
    ¬ ∀ (style : Style) (path file rest piece : Text) (showEnv : Bool) (earlier later : List Text)
      (e : StatementError), path ≠ Session.inputPath →
      Cuts (unifyLineEnds file) (earlier ++ piece :: later) rest →
      (fileSeries callLimit (earlier ++ piece :: later)).error = some e →
      earlier.length = (fileSeries callLimit (earlier ++ piece :: later)).outputs.length →
      let number : Nat := Text.row (earlier.flatMap ended ++ piece) + 1
      Text.line (Location.text ⟨path, some number⟩) <:+:
        (runFile callLimit style path showEnv (some file)).1 := by
  intro located
  let file : Text := "1;;\x0cx;;"
  have one : ';' ∉ "1".toList := by decide
  have unbound : ';' ∉ "\x0cx".toList := by decide
  have cuts : Cuts (unifyLineEnds file) (["1".toList] ++ "\x0cx".toList :: []) [] :=
    .piece_of_not_mem one (.piece_of_not_mem unbound (.rest Statement.unterminated_nil))
  have shown := located .plain ['f'] file [] _ false _ [] (.eval (.unbound ['x'])) (by decide) cuts
    (by decide +kernel) (by decide +kernel)
  revert shown
  decide +kernel

end Program

end LetLang
