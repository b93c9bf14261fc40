import LetLang.Text

/-! # Blank characters and stripping

Blank is the Unicode notion of white space together with the four information separators.
A text is stripped by dropping the blank characters at both of its ends.
-/
namespace LetLang.Text

/-- White space in the wide sense: what may surround a statement without being part of it. -/
def isBlank (c : Char) : Bool :=
  let n := c.toNat
  (0x09 ≤ n && n ≤ 0x0d) || (0x1c ≤ n && n ≤ 0x20) || n == 0x85 || n == 0xa0 || n == 0x1680 ||
    (0x2000 ≤ n && n ≤ 0x200a) || n == 0x2028 || n == 0x2029 || n == 0x202f || n == 0x205f ||
    n == 0x3000

def stripLeft (t : Text) : Text := t.dropWhile isBlank

def stripRight (t : Text) : Text := (stripLeft t.reverse).reverse

/-- The text without the blank characters at its ends. -/
def strip (t : Text) : Text := stripRight (stripLeft t)

/-- A text of blank characters only, the empty text included. -/
def blank (t : Text) : Bool := t.all isBlank

@[simp] theorem stripLeft_nil : stripLeft [] = [] := rfl

theorem stripLeft_cons (c : Char) (t : Text) :
    stripLeft (c :: t) = if isBlank c then stripLeft t else c :: t := by
  simp only [stripLeft, List.dropWhile_cons]

@[simp] theorem blank_append (t u : Text) : blank (t ++ u) = (blank t && blank u) :=
  List.all_append

@[simp] theorem blank_reverse (t : Text) : blank t.reverse = blank t := List.all_reverse

theorem stripLeft_append_of_blank {t : Text} (h : blank t = true) (u : Text) :
    stripLeft (t ++ u) = stripLeft u :=
  List.dropWhile_append_of_pos (List.all_eq_true.mp h)

theorem strip_append_of_blank {t : Text} (h : blank t = true) (u : Text) :
    strip (t ++ u) = strip u := by
  rw [strip, stripLeft_append_of_blank h, strip]

theorem stripLeft_of_head {t : Text} (h : ∀ c ∈ t.head?, isBlank c = false) : stripLeft t = t := by
  cases t with
  | nil => rfl
  | cons c t => rw [stripLeft_cons, if_neg (ne_true_of_eq_false (h c rfl))]

theorem stripRight_of_last {t : Text} (h : ∀ c ∈ t.getLast?, isBlank c = false) :
    stripRight t = t := by
  have head : ∀ c ∈ t.reverse.head?, isBlank c = false := by rwa [List.head?_reverse]
  rw [stripRight, stripLeft_of_head head, List.reverse_reverse]

/-- A text that begins and ends with visible characters has nothing to be stripped. -/
theorem strip_of_ends {t : Text} (first : ∀ c ∈ t.head?, isBlank c = false)
    (last : ∀ c ∈ t.getLast?, isBlank c = false) : strip t = t := by
  rw [strip, stripLeft_of_head first, stripRight_of_last last]

theorem exists_strip (t : Text) :
    ∃ front back, t = front ++ (strip t ++ back) ∧ blank front = true ∧ blank back = true := by
  have dropped (u : Text) : u.takeWhile isBlank ++ stripLeft u = u := List.takeWhile_append_dropWhile
  have front (u : Text) : blank (u.takeWhile isBlank) = true := List.all_takeWhile
  refine ⟨t.takeWhile isBlank, ((stripLeft t).reverse.takeWhile isBlank).reverse, ?_, front t, ?_⟩
  · rw [strip, stripRight, ← List.reverse_append, dropped, List.reverse_reverse, dropped]
  · rw [blank_reverse]
    exact front _

theorem infix_strip (t : Text) : strip t <:+: t := by
  obtain ⟨front, back, split, _⟩ := exists_strip t
  exact ⟨front, back, (split.trans (List.append_assoc ..).symm).symm⟩

end LetLang.Text
