import LetLang.Proofs.Markup
import LetLang.Proofs.Template

/-! # Filling templates with marked-up subjects

A template is filled once with its subjects as they are and once with the subjects marked up. Slots
that show their subjects whole cannot tell the two apart, so that the two messages differ by markup
only. A slot that selects, quotes, cuts or pads its subject can.
-/
namespace LetLang

open Text (Bare)
open Style (Erases erases_bare erases_bold)

namespace Template

/-- A slot that shows its subject as it is, if it shows anything. -/
structure WholeSlot (name : Text) (conversion : Option Char) (layout : Text) : Prop where
  unselected : selectors name = []
  unquoted : conversion ≠ some 'r' ∧ conversion ≠ some 'a'
  unnested : opening ∉ layout
  unpadded : ∀ l, Layout.read "str" 's' layout = .ok l → l.width = 0 ∧ l.precision = none

def Piece.Whole : Piece → Prop
  | .slot name conversion layout => WholeSlot name conversion layout
  | .wording _ | .broken _ => True

/-- A template in which all slots show their subjects as they are. -/
def Whole (template : Text) : Prop := ∀ piece ∈ pieces template, piece.Whole

def Piece.Bare : Piece → Prop
  | .wording text => text.Bare
  | .slot .. | .broken _ => True

theorem wholeSlot_of_noLayout {name : Text} {conversion : Option Char} (unselected : selectors name = [])
    (unquoted : conversion ≠ some 'r' ∧ conversion ≠ some 'a') : WholeSlot name conversion [] := by
  refine ⟨unselected, unquoted, List.not_mem_nil, ?_⟩
  intro l read
  cases read
  exact ⟨rfl, rfl⟩

theorem whole_compose {front : Text} {rest : List Text} (plain : ∀ w ∈ front :: rest, Plain w) :
    Whole (compose front rest) := by
  rw [Whole, pieces_compose plain]
  clear plain
  induction rest generalizing front with
  | nil => exact List.forall_mem_singleton.mpr trivial
  | cons next rest ih =>
    have empty : WholeSlot [] none [] := wholeSlot_of_noLayout rfl ⟨nofun, nofun⟩
    exact List.forall_mem_cons.mpr ⟨trivial, List.forall_mem_cons.mpr ⟨empty, ih⟩⟩

def Place.Bare : Place → Prop
  | .wording text => text.Bare
  | .name .. | .conversion _ | .converted .. | .layout .. | .closed => True

theorem Place.bare_atEnd {place : Place} (h : place.Bare) : place.atEnd.Bare := by
  cases place with
  | wording text => exact h.of_subset (List.reverse_subset.mpr (List.Subset.refl text))
  | name bracket name => cases name <;> trivial
  | conversion _ | converted _ _ | layout _ _ _ _ | closed => trivial

theorem bare_piecesFrom {place : Place} {t : Text} (here : place.Bare) (h : t.Bare) :
    ∀ piece ∈ piecesFrom place t, piece.Bare := by
  have empty : Bare [] := List.not_mem_nil
  have brace : Bare [opening] ∧ Bare [closing] := by decide
  fun_induction piecesFrom place t with
  | case1 place => exact List.forall_mem_singleton.mpr (Place.bare_atEnd here)
  | case2 text | case3 text =>
    rename_i ih
    have read : Bare text.reverse := here.of_subset (List.reverse_subset.mpr (List.Subset.refl text))
    exact List.forall_mem_cons.mpr ⟨read, ih trivial (Text.bare_cons.mp h).2⟩
  | case4 text c =>
    rename_i ih
    obtain ⟨first, behind⟩ := Text.bare_cons.mp h
    exact ih (Text.bare_cons.mpr ⟨first, here⟩) behind
  | case5 _ ih => exact ih brace.2 (Text.bare_cons.mp h).2
  | case8 _ _ _ ih => exact ih brace.1 (Text.bare_cons.mp h).2
  | case6 | case9 | case17 => exact List.forall_mem_singleton.mpr trivial
  | case10 | case15 | case19 =>
    -- a slot is complete, and wording begins behind it
    rename_i ih
    exact List.forall_mem_cons.mpr ⟨trivial, ih empty (Text.bare_cons.mp h).2⟩
  | case7 | case11 | case12 | case13 | case14 | case16 | case18 | case20 | case21 =>
    rename_i ih
    exact ih trivial (Text.bare_cons.mp h).2

/-- Two attempts that end in the same way, either with the same fault or with related results. -/
def Paired {α β : Type} (r : α → β → Prop) : Except Fault α → Except Fault β → Prop
  | .ok a, .ok b => r a b
  | .error fault, .error fault' => fault = fault'
  | _, _ => False

theorem Paired.elim {α β : Type} {r : α → β → Prop} {x : Except Fault α} {y : Except Fault β}
    (h : Paired r x y) :
    (∃ fault, x = .error fault ∧ y = .error fault) ∨ ∃ a b, x = .ok a ∧ y = .ok b ∧ r a b := by
  cases x with
  | error fault =>
    cases y with
    | error fault' => exact .inl ⟨fault, rfl, congrArg Except.error h.symm⟩
    | ok b => exact False.elim h
  | ok a =>
    cases y with
    | error fault' => exact False.elim h
    | ok b => exact .inr ⟨a, b, rfl, rfl, h⟩

theorem Paired.bind {α β γ δ : Type} {r : α → β → Prop} {s : γ → δ → Prop} {x : Except Fault α}
    {y : Except Fault β} (h : Paired r x y) {f : α → Except Fault γ} {g : β → Except Fault δ}
    (next : ∀ a b, r a b → Paired s (f a) (g b)) : Paired s (x >>= f) (y >>= g) := by
  rcases h.elim with ⟨fault, rfl, rfl⟩ | ⟨a, b, rfl, rfl, related⟩
  · rfl
  · exact next a b related

/-- The results of filling pieces, of which one has markup and the other has none. -/
def Agree (marked plain : List Segment × Numbering) : Prop :=
  Erases (Segment.join marked.1) (Segment.join plain.1) ∧ marked.2 = plain.2

theorem Agree.append {segments segments' more more' : List Segment} {n n' m m' : Numbering}
    (h : Agree (segments, n) (segments', n')) (h' : Agree (more, m) (more', m')) :
    Agree (segments ++ more, m) (segments' ++ more', m') := by
  refine ⟨?_, h'.2⟩
  simp only [Segment.join, List.flatMap_append]
  exact h.1.append h'.1

/-- Which subject a slot takes does not depend on what the subjects are. -/
theorem exists_place (numbering : Numbering) (name : Text) :
    ∃ place : Except Fault (Nat × Numbering), ∀ subjects : List Text,
      resolve subjects numbering name =
        match place with
        | .error fault => .error fault
        | .ok next =>
          match subjects[next.1]? with
          | some subject => .ok (subject, next.2)
          | none => .error (.missingSubject next.1) := by
  unfold resolve
  cases wholeNumber name with
  | error fault => exact ⟨.error fault, fun _ => rfl⟩
  | ok number =>
    cases named : number.isNone && !name.isEmpty with
    | true =>
      refine ⟨.error (.namedSlot name), fun subjects => ?_⟩
      simp only [bind, Except.bind, named, if_true]
      rfl
    | false =>
      refine ⟨numbering.advance number, fun subjects => ?_⟩
      simp only [bind, Except.bind, named, Bool.false_eq_true, if_false]
      cases numbering.advance number <;> rfl

theorem resolve_map (f : Text → Text) (subjects : List Text) (numbering : Numbering) (name : Text) :
    resolve (subjects.map f) numbering name =
      (resolve subjects numbering name).map fun found => (f found.1, found.2) := by
  obtain ⟨place, resolved⟩ := exists_place numbering name
  rw [resolved, resolved]
  cases place with
  | error fault => rfl
  | ok next =>
    simp only [List.getElem?_map]
    cases subjects[next.1]? <;> rfl

theorem mem_of_resolve {subjects : List Text} {numbering : Numbering} {name : Text}
    {found : Text × Numbering} (h : resolve subjects numbering name = .ok found) :
    found.1 ∈ subjects := by
  obtain ⟨place, resolved⟩ := exists_place numbering name
  rw [resolved] at h
  cases place with
  | error fault => cases h
  | ok next =>
    cases here : subjects[next.1]? with
    | none =>
      simp only [here] at h
      cases h
    | some subject =>
      simp only [here] at h
      cases h
      exact List.mem_of_getElem? here

theorem join_pad {l : Layout} (h : l.width = 0) (align : Char) (front back : List Segment) :
    Segment.join (l.pad align front back) = Segment.join front ++ Segment.join back := by
  simp [Layout.pad, h, Segment.join, Segment.toText]

theorem arrangeText_whole {layout : Text}
    (h : ∀ l, Layout.read "str" 's' layout = .ok l → l.width = 0 ∧ l.precision = none) :
    (∀ subject, ∃ segments, Layout.arrangeText layout subject = .ok segments ∧
      Segment.join segments = subject) ∨
    ∃ fault, ∀ subject, Layout.arrangeText layout subject = .error fault := by
  by_cases empty : layout.isEmpty = true
  · refine .inl fun subject => ⟨[.text subject], ?_, List.append_nil subject⟩
    rw [Layout.arrangeText, if_pos empty]
  cases read : Layout.read "str" 's' layout with
  | error fault =>
    refine .inr ⟨fault, fun subject => ?_⟩
    rw [Layout.arrangeText, if_neg empty, read]
    rfl
  | ok l =>
    obtain ⟨width, precision⟩ := h l read
    cases refused : l.textFault? with
    | some fault =>
      refine .inr ⟨fault, fun subject => ?_⟩
      rw [Layout.arrangeText, if_neg empty, read]
      simp only [bind, Except.bind, refused]
      rfl
    | none =>
      refine .inl fun subject => ⟨l.pad (l.align.getD '<') [] [.text subject], ?_, ?_⟩
      · rw [Layout.arrangeText, if_neg empty, read]
        simp only [bind, Except.bind, refused, precision]
        rfl
      · rw [join_pad width]
        exact List.append_nil subject

theorem convert_text {conversion : Option Char} (notRepr : conversion ≠ some 'r')
    (notAscii : conversion ≠ some 'a') :
    (∀ subject, convert (.text subject) conversion = .ok (.text subject)) ∨
      ∃ fault, ∀ subject, convert (.text subject) conversion = .error fault := by
  cases conversion with
  | none => exact .inl fun _ => rfl
  | some c =>
    by_cases null : c = '\x00'
    · subst null
      exact .inl fun _ => rfl
    by_cases shown : c = 's'
    · subst shown
      exact .inl fun _ => rfl
    · refine .inr ⟨.unknownConversion c, fun subject => ?_⟩
      unfold convert
      split <;> simp_all

section

variable {name : Text} {conversion : Option Char} {layout : Text} {subjects : List Text}
  {fillLayout : Numbering → Text → Except Fault (Text × Numbering)} {numbering : Numbering}

theorem fillSlot_of_error {fault : Fault}
    (h : resolve subjects numbering (subjectName name) = .error fault) :
    fillSlot subjects fillLayout numbering name conversion layout = .error fault := by
  unfold fillSlot
  rw [h]
  rfl

/-- A slot that shows its subject whole either shows every subject or fails for all of them. -/
theorem WholeSlot.shows (h : WholeSlot name conversion layout) :
    (∀ {subjects fillLayout numbering found},
      resolve subjects numbering (subjectName name) = .ok found →
      ∃ segments, fillSlot subjects fillLayout numbering name conversion layout =
        .ok (segments, found.2) ∧ Segment.join segments = found.1) ∨
    ∃ fault, ∀ {subjects fillLayout numbering found},
      resolve subjects numbering (subjectName name) = .ok found →
      fillSlot subjects fillLayout numbering name conversion layout = .error fault := by
  obtain ⟨unselected, ⟨notRepr, notAscii⟩, unnested, unpadded⟩ := h
  have plain : layout.contains opening = false := by simpa using unnested
  rcases convert_text notRepr notAscii with converted | ⟨fault, converted⟩
  · rcases arrangeText_whole unpadded with arranged | ⟨fault, arranged⟩
    · refine .inl fun {subjects fillLayout numbering found} resolved => ?_
      obtain ⟨segments, laid, joined⟩ := arranged found.1
      refine ⟨segments, ?_, joined⟩
      simp only [fillSlot, bind, Except.bind, resolved, unselected, select_nil, converted, plain,
        Bool.false_eq_true, if_false, pure, Except.pure, arrange, laid]
    · refine .inr ⟨fault, fun {subjects fillLayout numbering found} resolved => ?_⟩
      simp only [fillSlot, bind, Except.bind, resolved, unselected, select_nil, converted, plain,
        Bool.false_eq_true, if_false, pure, Except.pure, arrange, arranged]
  · refine .inr ⟨fault, fun {subjects fillLayout numbering found} resolved => ?_⟩
    simp only [fillSlot, bind, Except.bind, resolved, unselected, select_nil, converted]

theorem WholeSlot.agree (h : WholeSlot name conversion layout) {f : Text → Text}
    (marks : ∀ s ∈ subjects, Erases (f s) s)
    (fillLayout' : Numbering → Text → Except Fault (Text × Numbering)) :
    Paired Agree (fillSlot (subjects.map f) fillLayout' numbering name conversion layout)
      (fillSlot subjects fillLayout numbering name conversion layout) := by
  have moved := resolve_map f subjects numbering (subjectName name)
  cases resolved : resolve subjects numbering (subjectName name) with
  | error fault =>
    rw [resolved] at moved
    rw [fillSlot_of_error moved, fillSlot_of_error resolved]
    rfl
  | ok found =>
    rw [resolved] at moved
    rcases h.shows with shown | ⟨fault, fails⟩
    · obtain ⟨segments, filled, joined⟩ := shown resolved
      obtain ⟨segments', filled', joined'⟩ := shown moved
      rw [filled, filled']
      refine ⟨?_, rfl⟩
      rw [joined, joined']
      exact marks _ (mem_of_resolve resolved)
    · rw [fails resolved, fails moved]
      rfl

/-- Pieces whose slots show their subjects whole are filled alike with and without markup. -/
theorem agree_fillPieces {pieces : List Piece} (whole : ∀ piece ∈ pieces, piece.Whole)
    (bare : ∀ piece ∈ pieces, piece.Bare) {f : Text → Text} (marks : ∀ s ∈ subjects, Erases (f s) s)
    (fillLayout' : Numbering → Text → Except Fault (Text × Numbering)) :
    Paired Agree (fillPieces (subjects.map f) fillLayout' numbering pieces)
      (fillPieces subjects fillLayout numbering pieces) := by
  induction pieces generalizing numbering with
  | nil => exact ⟨fun t => rfl, rfl⟩
  | cons piece pieces ih =>
    obtain ⟨wholeHere, wholeRest⟩ := List.forall_mem_cons.mp whole
    obtain ⟨bareHere, bareRest⟩ := List.forall_mem_cons.mp bare
    cases piece with
    | wording text =>
      have here : Agree ([.text text], numbering) ([.text text], numbering) :=
        ⟨erases_bare (Text.bare_append.mpr ⟨bareHere, List.not_mem_nil⟩), rfl⟩
      refine (ih wholeRest bareRest).bind fun more more' agree => ?_
      exact here.append agree
    | slot name conversion layout =>
      refine (wholeHere.agree marks fillLayout').bind fun shown shown' agree => ?_
      obtain ⟨segments, next⟩ := shown
      obtain ⟨segments', next'⟩ := shown'
      -- the numbering goes on from the same place, as the rest is filled from there
      obtain rfl : next = next' := agree.2
      refine (ih wholeRest bareRest).bind fun more more' agree' => ?_
      exact agree.append agree'
    | broken fault => rfl

end

theorem Whole.erases_fill {template : Text} (whole : Whole template) (bare : template.Bare)
    {f : Text → Text} {subjects : List Text} (marks : ∀ s ∈ subjects, Erases (f s) s) :
    Paired Erases (fill template (subjects.map f)) (fill template subjects) := by
  have wordings : ∀ piece ∈ pieces template, piece.Bare := bare_piecesFrom List.not_mem_nil bare
  have filled : Paired Agree
      (fillPieces (subjects.map f) (fillNested (subjects.map f) 1) .undecided (pieces template))
      (fillPieces subjects (fillNested subjects 1) .undecided (pieces template)) :=
    agree_fillPieces whole wordings marks _
  unfold fill maxDepth fillNested
  rcases filled.elim with ⟨fault, fails, fails'⟩ | ⟨a, b, filled, filled', agree⟩
  · rw [fails, fails']
    rfl
  · rw [filled, filled']
    exact agree.1

end Template

open Template

theorem Complaint.marks {c : Complaint} (whole : Whole c.template) (bare : c.template.Bare)
    (subjects : ∀ s ∈ c.substitutes, s.Bare) :
    match c.diagnostic .colored, c.diagnostic .plain with
    | .ok marked, .ok plain => marked.Marks plain
    | .error crash, .error crash' => crash = crash'
    | _, _ => False := by
  have same : c.substitutes.map (Style.bold .plain) = c.substitutes := List.map_id c.substitutes
  have filled := whole.erases_fill bare fun s member => erases_bold .colored (subjects s member)
  unfold diagnostic
  rw [same]
  rcases filled.elim with ⟨fault, fails, fails'⟩ | ⟨a, b, filled, filled', agree⟩
  · simp only [fails, fails']
  · simp only [filled, filled']
    cases listed : c.substitutes with
    | nil => rfl
    | cons subject rest =>
      have bareSubject := subjects subject (by rw [listed]; exact List.mem_cons_self)
      exact ⟨agree, rfl, bareSubject⟩

end LetLang
