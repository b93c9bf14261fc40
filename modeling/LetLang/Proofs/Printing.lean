import LetLang.Eval
import LetLang.Proofs.Spelling

/-! # Characters of printed text

Names, types and values are printed with few characters. Whatever holds parts of a printed line
together, or marks it up, can be told from the parts if it is none of these.
-/
namespace LetLang

namespace Text

/-- The characters that names, types and values are printed with. -/
def isInner (c : Char) : Bool :=
  c.isAlpha || c.isDigit || [' ', '-', '>', '<', '\x27', '[', ';', ']'].contains c

def Inner (t : Text) : Prop := ∀ c ∈ t, isInner c = true

instance (t : Text) : Decidable t.Inner := List.decidableBAll _ t

theorem Inner.append {t u : Text} (ht : t.Inner) (hu : u.Inner) : (t ++ u).Inner :=
  List.forall_mem_append.mpr ⟨ht, hu⟩

theorem mem_join {separator : Text} {parts : List Text} {c : Char} (h : c ∈ join separator parts) :
    c ∈ separator ∨ ∃ part ∈ parts, c ∈ part := by
  induction parts with
  | nil => exact absurd h List.not_mem_nil
  | cons first rest ih =>
    cases rest with
    | nil =>
      rw [join_singleton] at h
      exact .inr ⟨first, List.mem_cons_self, h⟩
    | cons second rest =>
      rw [join_cons_cons, List.mem_append, List.mem_append] at h
      rcases h with (here | between) | later
      · exact .inr ⟨first, List.mem_cons_self, here⟩
      · exact .inl between
      · obtain within | ⟨part, listed, within⟩ := ih later
        · exact .inl within
        · exact .inr ⟨part, List.mem_cons_of_mem first listed, within⟩

theorem Inner.join {separator : Text} {parts : List Text} (hs : separator.Inner)
    (hp : ∀ part ∈ parts, part.Inner) : (join separator parts).Inner := by
  intro c member
  obtain within | ⟨part, listed, within⟩ := mem_join member
  · exact hs c within
  · exact hp part listed c within

theorem Inner.of_alpha {t : Text} (h : ∀ c ∈ t, c.isAlpha = true) : t.Inner := by
  intro c member
  rw [isInner, h c member]
  rfl

theorem Inner.of_digits {t : Text} (h : ∀ c ∈ t, c.isDigit = true) : t.Inner := by
  intro c member
  rw [isInner, h c member, Bool.or_true]
  rfl

theorem inner_ofNat (n : Nat) : (ofNat n).Inner :=
  .of_digits fun _ member => Nat.isDigit_of_mem_toDigits (by decide) (by decide) member

theorem inner_ofInt (n : Int) : (ofInt n).Inner := by
  cases n with
  | ofNat n => exact inner_ofNat n
  | negSucc n =>
    have sign : Inner ['-'] := by decide
    exact sign.append (inner_ofNat (n + 1))

end Text

theorem Token.Readable.inner {name : Text} (h : (Token.ident name).Readable) : name.Inner :=
  .of_alpha h.2.1

theorem ValueType.inner_text (type : ValueType) : type.text.Inner := by
  cases type <;> decide

theorem Value.inner_text (value : Value) : value.text.Inner := by
  cases value with
  | int n => exact Text.inner_ofInt n
  | bool b => cases b <;> decide
  | list items =>
    have opening : Text.Inner ['['] := by decide
    have separator : Text.Inner "; " := by decide
    have closing : Text.Inner [']'] := by decide
    have elements : ∀ part ∈ items.map Text.ofInt, part.Inner := by
      intro part listed
      obtain ⟨n, _, rfl⟩ := List.mem_map.mp listed
      exact Text.inner_ofInt n
    exact opening.append ((separator.join elements).append closing)
  | function => decide

end LetLang
