import LetLang.Token.Lexer

/-! # Spellings

A spelling writes a list of tokens out as text, with a gap of blanks in front, between and behind
them. The gap may be empty unless the two tokens around it would fuse. The main statement is that
reading tokens is the inverse of spelling them: a text has the tokens that it spells with the
needed gaps, it has no others, and nothing else has tokens at all.
-/
namespace LetLang

namespace Token

def puncts : List Text := doublePuncts ++ singlePuncts.map fun c => [c]

/-- The tokens that a text can have: decimal numbers of 64 bits in any notation, keywords, runs of
letters that are none, and the punctuators. -/
def Readable : Token → Prop
  | .number digits => digits ≠ [] ∧ (∀ c ∈ digits, c.isDigit = true) ∧
      digits.length ≤ Numeral.maxDigits ∧ Text.toNat digits ≤ maxNumber
  | .punct text => text ∈ puncts
  | .keyword word => word ∈ keywords
  | .ident name => name ≠ [] ∧ (∀ c ∈ name, c.isAlpha = true) ∧ name ∉ keywords

instance : DecidablePred Readable
  | .number digits =>
    @instDecidableAnd _ _ inferInstance
      (@instDecidableAnd _ _ (List.decidableBAll _ digits) inferInstance)
  | .punct _ => inferInstanceAs (Decidable (_ ∈ _))
  | .keyword _ => inferInstanceAs (Decidable (_ ∈ _))
  | .ident name =>
    @instDecidableAnd _ _ inferInstance
      (@instDecidableAnd _ _ (List.decidableBAll _ name) inferInstance)

def isNumber : Token → Bool
  | .number _ => true
  | _ => false

/-- Keywords and identifiers are words. -/
def isWord : Token → Bool
  | .keyword _ | .ident _ => true
  | _ => false

/-- Whether two tokens with no gap between them would be read as something else: two numbers, two
words, or an equals sign in front of another. -/
def Fuses (t u : Token) : Prop :=
  (t.isNumber ∧ u.isNumber) ∨ (t.isWord ∧ u.isWord) ∨
    (t = .punct ['='] ∧ u.text.head? = some '=')

/-- Whether a character behind a token would be read as part of it. -/
def continues : Token → Char → Bool
  | .number _, c => c.isDigit
  | .keyword _, c | .ident _, c => c.isAlpha
  | .punct p, c => p == ['='] && c == '='

def EndsAt (t : Token) (rest : Text) : Prop := ∀ c ∈ rest.head?, t.continues c = false

end Token

open Token

theorem isGap_cases {c : Char} (h : isGap c = true) :
    c = ' ' ∨ c = '\t' ∨ c = '\n' ∨ c = '\r' ∨ c = '\x0c' ∨ c = '\x0b' := by
  simpa [isGap, or_assoc] using h

theorem continues_gap (t : Token) {c : Char} (h : isGap c = true) : t.continues c = false := by
  rcases isGap_cases h with rfl | rfl | rfl | rfl | rfl | rfl <;> cases t <;> simp [continues]

theorem isGap_of_isDigit {c : Char} (h : c.isDigit = true) : isGap c = false := by
  cases hg : isGap c with
  | false => rfl
  | true => exact absurd ((continues_gap (.number []) hg).symm.trans h) Bool.false_ne_true

theorem isGap_of_isAlpha {c : Char} (h : c.isAlpha = true) : isGap c = false := by
  cases hg : isGap c with
  | false => rfl
  | true => exact absurd ((continues_gap (.ident []) hg).symm.trans h) Bool.false_ne_true

theorem isDigit_of_isAlpha {c : Char} (h : c.isAlpha = true) : c.isDigit = false := by
  change (decide (65 ≤ c.toNat ∧ c.toNat ≤ 90) ||
    (decide (97 ≤ c.toNat) && decide (c.toNat ≤ 122))) = true at h
  simp only [Bool.or_eq_true, Bool.and_eq_true, decide_eq_true_eq] at h
  cases hd : c.isDigit with
  | false => rfl
  | true =>
    have digit := Char.isDigit_iff_toNat.mp hd
    change 48 ≤ c.toNat ∧ c.toNat ≤ 57 at digit
    omega

theorem takeWhile_of_head {p : Char → Bool} {run rest : Text} (h : ∀ c ∈ run, p c = true)
    (stop : ∀ c ∈ rest.head?, p c = false) : (run ++ rest).takeWhile p = run := by
  rw [List.takeWhile_append_of_pos h]
  cases rest with
  | nil => simp
  | cons c rest => simp [stop c rfl]

theorem dropWhile_of_head {p : Char → Bool} {run rest : Text} (h : ∀ c ∈ run, p c = true)
    (stop : ∀ c ∈ rest.head?, p c = false) : (run ++ rest).dropWhile p = rest := by
  rw [List.dropWhile_append_of_pos h]
  cases rest with
  | nil => rfl
  | cons c rest => simp [stop c rfl]

theorem scan_gap (done : List Token) {gap : Text} (rest : Text)
    (h : ∀ c ∈ gap, isGap c = true) : scan done (gap ++ rest) = scan done rest := by
  induction gap with
  | nil => rfl
  | cons c gap ih =>
    rw [List.cons_append, scan, if_pos (h c List.mem_cons_self)]
    exact ih fun d hd => h d (List.mem_cons_of_mem c hd)

theorem punct?_append {p rest : Text} (h : p ∈ puncts) (ends : (Token.punct p).EndsAt rest) :
    punct? (p ++ rest) = some (p, rest) := by
  rcases List.mem_append.mp h with double | single
  · simp only [doublePuncts, List.mem_cons, List.not_mem_nil, or_false] at double
    rcases double with rfl | rfl <;> rfl
  · obtain ⟨c, hc, rfl⟩ := List.mem_map.mp single
    have listed : singlePuncts.contains c = true := List.contains_iff_mem.mpr hc
    cases rest with
    | nil =>
      simp only [List.append_nil, punct?, listed, if_true]
    | cons d rest =>
      have alone : doublePuncts.contains [c, d] = false := by
        cases hd : doublePuncts.contains [c, d] with
        | false => rfl
        | true =>
          have stop := ends d rfl
          have double := List.contains_iff_mem.mp hd
          simp only [doublePuncts, List.mem_cons, List.cons.injEq, and_true, List.not_mem_nil,
            or_false] at double
          rcases double with ⟨rfl, rfl⟩ | ⟨rfl, rfl⟩
          · exact absurd stop (by decide)
          · exact absurd hc (by decide)
      rw [List.singleton_append, punct?, alone, listed]
      rfl

theorem scan_number (done : List Token) {digits rest : Text} (h : (Token.number digits).Readable)
    (ends : (Token.number digits).EndsAt rest) :
    scan done (digits ++ rest) = scan (.number digits :: done) rest := by
  obtain ⟨nonempty, all, short, small⟩ := h
  cases digits with
  | nil => exact absurd rfl nonempty
  | cons c digits =>
    have first := all c List.mem_cons_self
    have others (d) (hd : d ∈ digits) := all d (List.mem_cons_of_mem c hd)
    rw [List.cons_append, scan]
    simp only [isGap_of_isDigit first, first, Bool.false_eq_true, if_false, if_true,
      takeWhile_of_head others ends, dropWhile_of_head others ends]
    rw [if_neg (Nat.not_lt.mpr short), if_neg (Nat.not_lt.mpr small)]

theorem scan_word (done : List Token) {word rest : Text} (nonempty : word ≠ [])
    (all : ∀ c ∈ word, c.isAlpha = true) (ends : ∀ c ∈ rest.head?, c.isAlpha = false) :
    scan done (word ++ rest) = scan (ofWord word :: done) rest := by
  cases word with
  | nil => exact absurd rfl nonempty
  | cons c word =>
    have first := all c List.mem_cons_self
    have others (d) (hd : d ∈ word) := all d (List.mem_cons_of_mem c hd)
    rw [List.cons_append, scan]
    simp only [isGap_of_isAlpha first, isDigit_of_isAlpha first, first, Bool.false_eq_true,
      if_false, if_true, takeWhile_of_head others ends, dropWhile_of_head others ends]

theorem punct_begins {p : Text} (h : p ∈ puncts) :
    ∃ c tail, p = c :: tail ∧ isGap c = false ∧ c.isDigit = false ∧ c.isAlpha = false := by
  have first : ∀ p ∈ puncts, p ≠ [] ∧
      p.all (fun c => !isGap c && !c.isDigit && !c.isAlpha) = true := by decide
  obtain ⟨nonempty, others⟩ := first p h
  obtain ⟨c, tail, rfl⟩ := List.exists_cons_of_ne_nil nonempty
  have other := List.all_eq_true.mp others c List.mem_cons_self
  simp only [Bool.and_eq_true, Bool.not_eq_true'] at other
  exact ⟨c, tail, rfl, other.1.1, other.1.2, other.2⟩

theorem scan_punct (done : List Token) {p rest : Text} (h : p ∈ puncts)
    (ends : (Token.punct p).EndsAt rest) :
    scan done (p ++ rest) = scan (.punct p :: done) rest := by
  have found := punct?_append h ends
  obtain ⟨c, tail, rfl, gap, digit, alpha⟩ := punct_begins h
  rw [List.cons_append] at found ⊢
  rw [scan]
  simp only [gap, digit, alpha, Bool.false_eq_true, if_false]
  split
  · rename_i q rest' taken
    rw [found] at taken
    cases taken
    rfl
  · rename_i taken
    rw [found] at taken
    cases taken

theorem letters_of_keyword {word : Text} (h : word ∈ keywords) :
    word ≠ [] ∧ ∀ c ∈ word, c.isAlpha = true := by
  have letters : ∀ word ∈ keywords, word ≠ [] ∧ word.all Char.isAlpha = true := by decide
  exact ⟨(letters word h).1, List.all_eq_true.mp (letters word h).2⟩

/-- A token that ends where the rest begins is read off the front of a text. -/
theorem scan_token (done : List Token) {t : Token} {rest : Text} (h : t.Readable)
    (ends : t.EndsAt rest) : scan done (t.text ++ rest) = scan (t :: done) rest := by
  cases t with
  | number digits => exact scan_number done h ends
  | punct p => exact scan_punct done h ends
  | keyword word =>
    obtain ⟨nonempty, letters⟩ := letters_of_keyword h
    have same : ofWord word = .keyword word := if_pos (List.contains_iff_mem.mpr h)
    rw [← same, text_ofWord]
    exact scan_word done nonempty letters ends
  | ident name =>
    have same : ofWord name = .ident name :=
      if_neg fun listed => h.2.2 (List.contains_iff_mem.mp listed)
    rw [← same, text_ofWord]
    exact scan_word done h.1 h.2.1 ends

theorem isAlpha_of_isDigit {c : Char} (h : c.isDigit = true) : c.isAlpha = false := by
  cases ha : c.isAlpha with
  | false => rfl
  | true => exact absurd ((isDigit_of_isAlpha ha).symm.trans h) Bool.false_ne_true

/-- The first character of a token tells what kind of token it is, and is no blank. -/
theorem Token.Readable.begins {t : Token} (h : t.Readable) :
    ∃ c tail, t.text = c :: tail ∧ isGap c = false ∧ c.isDigit = t.isNumber ∧
      c.isAlpha = t.isWord := by
  cases t with
  | number digits =>
    obtain ⟨c, tail, rfl⟩ := List.exists_cons_of_ne_nil h.1
    have digit := h.2.1 c List.mem_cons_self
    exact ⟨c, tail, rfl, isGap_of_isDigit digit, digit, isAlpha_of_isDigit digit⟩
  | punct p =>
    obtain ⟨c, tail, rfl, first⟩ := punct_begins h
    exact ⟨c, tail, rfl, first⟩
  | keyword word =>
    obtain ⟨nonempty, letters⟩ := letters_of_keyword h
    obtain ⟨c, tail, rfl⟩ := List.exists_cons_of_ne_nil nonempty
    have letter := letters c List.mem_cons_self
    exact ⟨c, tail, rfl, isGap_of_isAlpha letter, isDigit_of_isAlpha letter, letter⟩
  | ident name =>
    obtain ⟨c, tail, rfl⟩ := List.exists_cons_of_ne_nil h.1
    have letter := h.2.1 c List.mem_cons_self
    exact ⟨c, tail, rfl, isGap_of_isAlpha letter, isDigit_of_isAlpha letter, letter⟩

theorem Token.Readable.fuses_iff {t u : Token} (h : u.Readable) :
    t.Fuses u ↔ ∃ c ∈ u.text.head?, t.continues c = true := by
  obtain ⟨c, tail, text, _, digit, alpha⟩ := h.begins
  simp only [Fuses, text, List.head?_cons, Option.mem_def, Option.some.injEq, exists_eq_left']
  cases t <;> simp [isNumber, isWord, continues, digit, alpha]

/-- A token and the gap behind it. -/
structure Spelled where
  token : Token
  gap : Text
  readable : token.Readable
  blank : ∀ c ∈ gap, isGap c = true

namespace Spelled

/-- The text of tokens with their gaps. -/
def texts (items : List Spelled) : Text := items.flatMap fun x => x.token.text ++ x.gap

/-- Whether tokens that would fuse have a gap between them. -/
def Separated : List Spelled → Prop
  | x :: y :: rest => (x.token.Fuses y.token → x.gap ≠ []) ∧ Separated (y :: rest)
  | _ => True

@[simp] theorem texts_nil : texts [] = [] := rfl

theorem texts_cons (x : Spelled) (rest : List Spelled) :
    texts (x :: rest) = x.token.text ++ (x.gap ++ texts rest) := by
  rw [texts, List.flatMap_cons, List.append_assoc]
  rfl

theorem Separated.tail {x : Spelled} {rest : List Spelled} (h : Separated (x :: rest)) :
    Separated rest := by
  cases rest with
  | nil => trivial
  | cons y rest => exact h.2

end Spelled

theorem Spelled.endsAt {x : Spelled} {rest : List Spelled} (h : Separated (x :: rest)) :
    x.token.EndsAt (x.gap ++ texts rest) := by
  intro c hc
  cases gap : x.gap with
  | cons d tail =>
    rw [gap] at hc
    cases hc
    exact continues_gap _ (x.blank _ (gap ▸ List.mem_cons_self))
  | nil =>
    cases rest with
    | nil =>
      rw [gap] at hc
      cases hc
    | cons y rest =>
      cases ends : x.token.continues c with
      | false => rfl
      | true =>
        obtain ⟨d, tail, text, _⟩ := y.readable.begins
        have first : c ∈ y.token.text.head? := by
          rw [gap, List.nil_append, texts_cons, text] at hc
          rw [text]
          exact hc
        exact absurd gap (h.1 (y.readable.fuses_iff.mpr ⟨c, first, ends⟩))

theorem Spelled.scan_texts (done : List Token) {items : List Spelled} (h : Separated items) :
    scan done (texts items) = .ok (done.reverse ++ items.map token) := by
  induction items generalizing done with
  | nil =>
    rw [texts_nil, scan, List.map_nil, List.append_nil]
  | cons x rest ih =>
    rw [texts_cons, scan_token done x.readable (endsAt h), scan_gap _ _ x.blank, ih _ h.tail,
      List.reverse_cons, List.map_cons, List.append_assoc, List.singleton_append]

/-- A list of tokens written out as text. -/
structure Spelling where
  lead : Text
  blank : ∀ c ∈ lead, isGap c = true
  items : List Spelled

namespace Spelling

def text (s : Spelling) : Text := s.lead ++ Spelled.texts s.items

def tokens (s : Spelling) : List Token := s.items.map Spelled.token

/-- Whether no two neighbours of the tokens fuse. -/
def Separated (s : Spelling) : Prop := Spelled.Separated s.items

theorem scan_text (done : List Token) {s : Spelling} (h : s.Separated) :
    scan done s.text = .ok (done.reverse ++ s.tokens) := by
  rw [text, scan_gap _ _ s.blank, Spelled.scan_texts _ h, tokens]

end Spelling

/-- A text is a spelling of tokens in which no two neighbours fuse. -/
def Spells (s : Text) (tokens : List Token) : Prop :=
  ∃ sp : Spelling, sp.Separated ∧ sp.text = s ∧ sp.tokens = tokens

theorem Spells.nil : Spells [] [] :=
  ⟨⟨[], fun _ hc => absurd hc List.not_mem_nil, []⟩, trivial, rfl, rfl⟩

theorem Spells.gap {c : Char} {s : Text} {tokens : List Token} (h : isGap c = true)
    (spelled : Spells s tokens) : Spells (c :: s) tokens := by
  obtain ⟨sp, sep, rfl, rfl⟩ := spelled
  exact ⟨⟨c :: sp.lead, List.forall_mem_cons.mpr ⟨h, sp.blank⟩, sp.items⟩, sep, rfl, rfl⟩

theorem Spells.cons {t : Token} {rest : Text} {tokens : List Token} (h : t.Readable)
    (ends : t.EndsAt rest) (spelled : Spells rest tokens) :
    Spells (t.text ++ rest) (t :: tokens) := by
  obtain ⟨⟨lead, blank, items⟩, sep, rfl, rfl⟩ := spelled
  refine ⟨⟨[], fun _ hc => absurd hc List.not_mem_nil, ⟨t, lead, h, blank⟩ :: items⟩, ?_,
    Spelled.texts_cons _ _, rfl⟩
  cases items with
  | nil => trivial
  | cons y rest =>
    refine ⟨fun fuses (empty : lead = []) => ?_, sep⟩
    obtain ⟨c, hc, continued⟩ := y.readable.fuses_iff.mp fuses
    obtain ⟨d, tail, text, _⟩ := y.readable.begins
    have first : c ∈ (lead ++ Spelled.texts (y :: rest)).head? := by
      rw [text] at hc
      rw [empty, List.nil_append, Spelled.texts_cons, text]
      exact hc
    exact absurd ((ends c first).symm.trans continued) Bool.false_ne_true

theorem punct?_eq_some {s p rest : Text} (h : punct? s = some (p, rest)) :
    s = p ++ rest ∧ p ∈ puncts ∧ (Token.punct p).EndsAt rest := by
  have single {c : Char} (listed : singlePuncts.contains c = true) : [c] ∈ puncts :=
    List.mem_append_right _ (List.mem_map_of_mem (List.contains_iff_mem.mp listed))
  unfold punct? at h
  split at h
  · rename_i c d tail
    split at h
    · rename_i listed
      cases h
      refine ⟨rfl, List.mem_append_left _ (List.contains_iff_mem.mp listed), fun x _ => ?_⟩
      simp [continues]
    · rename_i unlisted
      split at h <;> cases h
      rename_i listed
      refine ⟨rfl, single listed, fun x hx => ?_⟩
      cases hx
      cases joined : (Token.punct [c]).continues d with
      | false => rfl
      | true =>
        simp only [continues, Bool.and_eq_true, beq_iff_eq, List.cons.injEq, and_true] at joined
        obtain ⟨rfl, rfl⟩ := joined
        exact absurd (by decide) unlisted
  · split at h <;> cases h
    rename_i listed
    exact ⟨rfl, single listed, fun x hx => absurd hx (by simp)⟩
  · cases h

theorem endsAt_dropWhile {p : Char → Bool} (s : Text) :
    ∀ c ∈ (s.dropWhile p).head?, p c = false := by
  intro c hc
  have stop := List.head?_dropWhile_not p s
  rw [Option.mem_def.mp hc] at stop
  exact stop

theorem all_run {p : Char → Bool} {c : Char} (h : p c = true) (s : Text) :
    ∀ d ∈ c :: s.takeWhile p, p d = true :=
  List.forall_mem_cons.mpr ⟨h, List.all_eq_true.mp List.all_takeWhile⟩

theorem readable_ofWord {word : Text} (nonempty : word ≠ []) (h : ∀ c ∈ word, c.isAlpha = true) :
    (ofWord word).Readable := by
  unfold ofWord
  split
  · rename_i listed
    exact List.contains_iff_mem.mp listed
  · rename_i unlisted
    exact ⟨nonempty, h, fun listed => unlisted (List.contains_iff_mem.mpr listed)⟩

theorem continues_ofWord (word : Text) (c : Char) : (ofWord word).continues c = c.isAlpha := by
  unfold ofWord
  split <;> rfl

theorem endsAt_ofWord (word s : Text) : (ofWord word).EndsAt (s.dropWhile Char.isAlpha) := by
  intro c hc
  rw [continues_ofWord]
  exact endsAt_dropWhile s c hc

theorem spells_of_scan {done : List Token} {s : Text} {tokens : List Token}
    (h : scan done s = .ok tokens) : ∃ new, tokens = done.reverse ++ new ∧ Spells s new := by
  fun_induction scan done s with
  | case1 done =>
    cases h
    exact ⟨[], (List.append_nil _).symm, .nil⟩
  | case2 done c cs gap ih =>
    obtain ⟨new, split, spelled⟩ := ih h
    exact ⟨new, split, spelled.gap gap⟩
  | case3 => cases h
  | case4 => cases h
  | case5 done c cs _ digit digits short small ih =>
    have all : ∀ d ∈ digits, d.isDigit = true := all_run digit cs
    have readable : (Token.number digits).Readable :=
      ⟨List.cons_ne_nil _ _, all, Nat.not_lt.mp short, Nat.not_lt.mp small⟩
    have ends : (Token.number digits).EndsAt (cs.dropWhile Char.isDigit) := endsAt_dropWhile cs
    obtain ⟨new, split, spelled⟩ := ih h
    have whole := spelled.cons readable ends
    rw [Token.text, List.cons_append, List.takeWhile_append_dropWhile] at whole
    exact ⟨.number digits :: new, by simpa using split, whole⟩
  | case6 done c cs _ _ letter ih =>
    have readable := readable_ofWord (List.cons_ne_nil _ _) (all_run letter cs)
    have ends := endsAt_ofWord (c :: cs.takeWhile Char.isAlpha) cs
    obtain ⟨new, split, spelled⟩ := ih h
    have whole := spelled.cons readable ends
    rw [text_ofWord, List.cons_append, List.takeWhile_append_dropWhile] at whole
    exact ⟨_ :: new, by simpa using split, whole⟩
  | case7 done c cs _ _ _ p rest taken ih =>
    obtain ⟨split, listed, ends⟩ := punct?_eq_some taken
    obtain ⟨new, tokens, spelled⟩ := ih h
    have whole := spelled.cons (t := .punct p) listed ends
    rw [Token.text, ← split] at whole
    exact ⟨.punct p :: new, by simpa using tokens, whole⟩
  | case8 => cases h

theorem tokenize_eq_ok {s : Text} {tokens : List Token} :
    tokenize s = .ok tokens ↔ scan [] s = .ok tokens := by
  rw [tokenize]
  cases scan [] s with
  | ok read =>
    constructor <;> intro h <;> cases h <;> rfl
  | error fault =>
    constructor <;> intro h <;> cases h

theorem tokenize_eq_ok_iff_spells {s : Text} {tokens : List Token} :
    tokenize s = .ok tokens ↔ Spells s tokens := by
  rw [tokenize_eq_ok]
  constructor
  · intro h
    obtain ⟨new, rfl, spelled⟩ := spells_of_scan h
    exact spelled
  · rintro ⟨sp, sep, rfl, rfl⟩
    exact sp.scan_text [] sep

/-- The gap in front of what is no blank is told by the text. -/
theorem gap_unique {g g' r r' : Text} (hg : ∀ c ∈ g, isGap c = true)
    (hg' : ∀ c ∈ g', isGap c = true) (hr : ∀ c ∈ r.head?, isGap c = false)
    (hr' : ∀ c ∈ r'.head?, isGap c = false) (h : g ++ r = g' ++ r') : g = g' ∧ r = r' := by
  have same : g = g' := by
    rw [← takeWhile_of_head hg hr, h, takeWhile_of_head hg' hr']
  subst same
  exact ⟨rfl, List.append_cancel_left h⟩

theorem Spelled.head_texts (items : List Spelled) :
    ∀ c ∈ (texts items).head?, isGap c = false := by
  intro c hc
  cases items with
  | nil => cases hc
  | cons x rest =>
    obtain ⟨d, tail, text, gap, _⟩ := x.readable.begins
    rw [texts_cons, text] at hc
    cases hc
    exact gap

/-- Given the tokens, a text has but one spelling. -/
theorem Spelled.eq_of_texts {items others : List Spelled} (text : texts items = texts others)
    (tokens : items.map token = others.map token) : items = others := by
  induction items generalizing others with
  | nil =>
    cases others with
    | nil => rfl
    | cons y others => cases tokens
  | cons x items ih =>
    cases others with
    | nil => cases tokens
    | cons y others =>
      obtain ⟨t, g, readable, blank⟩ := x
      obtain ⟨u, g', readable', blank'⟩ := y
      simp only [List.map_cons, List.cons.injEq] at tokens
      obtain ⟨rfl, tokens⟩ := tokens
      simp only [texts_cons] at text
      obtain ⟨rfl, rest⟩ := gap_unique blank blank' (head_texts _) (head_texts _)
        (List.append_cancel_left text)
      rw [ih rest tokens]

theorem Spelling.eq_of_text {s s' : Spelling} (text : s.text = s'.text)
    (tokens : s.tokens = s'.tokens) : s = s' := by
  obtain ⟨lead, blank, items⟩ := s
  obtain ⟨lead', blank', items'⟩ := s'
  obtain ⟨rfl, rest⟩ := gap_unique blank blank' (Spelled.head_texts _) (Spelled.head_texts _) text
  obtain rfl := Spelled.eq_of_texts rest tokens
  rfl

/-- Reading tokens inverts spelling them. A text has exactly the tokens that it spells without
fusing neighbours, and where a spelling lets neighbours fuse, its text has other tokens or none. -/
theorem tokenize_inverts_spelling :
    (∀ (s : Text) (tokens : List Token), tokenize s = .ok tokens ↔ Spells s tokens) ∧
      ∀ sp : Spelling, tokenize sp.text = .ok sp.tokens ↔ sp.Separated := by
  refine ⟨fun s tokens => tokenize_eq_ok_iff_spells, fun sp => ?_⟩
  rw [tokenize_eq_ok_iff_spells]
  constructor
  · rintro ⟨other, sep, text, tokens⟩
    rw [← Spelling.eq_of_text text tokens]
    exact sep
  · intro sep
    exact ⟨sp, sep, rfl, rfl⟩

/-- Three equals signs in a row are an equality and one sign, not the other way round. -/
example : tokenize ['=', '=', '='] = .ok [.punct ['=', '='], .punct ['=']] := by cbv

end LetLang
