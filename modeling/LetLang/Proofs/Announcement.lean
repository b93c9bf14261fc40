import LetLang.Proofs.Frame
import LetLang.Proofs.Printing
import LetLang.Proofs.Range
import LetLang.Program
import Mathlib.Data.List.Basic

/-! # Announced bindings

An output with a name is printed as the announcement of a binding. The line tells the name, the type
and the value apart, as neither its colon nor its equals sign can stand in any of them. What it
announces has been made where the expression was evaluated, which for the scope of a local binding
is a copy of the environment and not the environment that is left. The main statement says which
of the two a line is about.
-/
namespace LetLang

def announcement (name type value : Text) : Text :=
  ['v', 'a', 'l', ' '] ++ name ++ [' ', ':', ' '] ++ type ++ [' ', '=', ' '] ++ value

theorem Output.text_named (name : Text) (value : Value) :
    Output.text ⟨some name, value⟩ = announcement name value.type.text value.text := rfl

/-- A text without the marks that hold the parts of an announcement together. -/
def Text.Unmarked (t : Text) : Prop := ':' ∉ t ∧ '=' ∉ t

namespace Text

instance (t : Text) : Decidable t.Unmarked := inferInstanceAs (Decidable (_ ∧ _))

theorem Unmarked.of_all {t : Text} {p : Char → Bool} (all : ∀ c ∈ t, p c = true)
    (colon : p ':' = false) (equals : p '=' = false) : t.Unmarked := by
  constructor
  · intro found
    exact absurd ((all _ found).symm.trans colon) Bool.noConfusion
  · intro found
    exact absurd ((all _ found).symm.trans equals) Bool.noConfusion

theorem Unmarked.append {t u : Text} (ht : t.Unmarked) (hu : u.Unmarked) : (t ++ u).Unmarked := by
  constructor
  · rw [List.mem_append, not_or]
    exact ⟨ht.1, hu.1⟩
  · rw [List.mem_append, not_or]
    exact ⟨ht.2, hu.2⟩

end Text

open Text (Unmarked)

theorem ValueType.unmarked_text (type : ValueType) : type.text.Unmarked :=
  .of_all type.inner_text rfl rfl

theorem Value.unmarked_text (value : Value) : value.text.Unmarked :=
  .of_all value.inner_text rfl rfl

theorem Token.Readable.unmarked {name : Text} (h : (Token.ident name).Readable) : name.Unmarked :=
  .of_all h.inner rfl rfl

theorem announcement_injective {name type value name' type' value' : Text} (hn : name.Unmarked)
    (ht : type.Unmarked) (hv : value.Unmarked)
    (same : announcement name type value = announcement name' type' value') :
    name = name' ∧ type = type' ∧ value = value' := by
  have blank : Unmarked [' '] := by decide
  have opening : Unmarked ['v', 'a', 'l', ' '] := by decide
  have split (n t v : Text) : announcement n t v =
      (['v', 'a', 'l', ' '] ++ n ++ [' ']) ++ ':' ::
        (([' '] ++ t ++ [' ']) ++ '=' :: ([' '] ++ v)) := by
    simp only [announcement, List.append_assoc, List.cons_append, List.nil_append]
  have front : Unmarked (['v', 'a', 'l', ' '] ++ name ++ [' ']) := (opening.append hn).append blank
  have middle : Unmarked ([' '] ++ type ++ [' ']) := (blank.append ht).append blank
  have back : Unmarked ([' '] ++ value) := blank.append hv
  have behind : ':' ∉ ([' '] ++ type ++ [' ']) ++ '=' :: ([' '] ++ value) := by
    rw [List.mem_append, List.mem_cons]
    rintro (within | equals | within)
    · exact middle.1 within
    · cases equals
    · exact back.1 within
  -- each mark stands once on the left, so it stands at the same place on the right
  rw [split, split, List.append_cons_inj_of_notMem front.1 behind] at same
  obtain ⟨names, _, rest⟩ := same
  rw [List.append_cons_inj_of_notMem middle.2 back.2] at rest
  obtain ⟨types, _, values⟩ := rest
  refine ⟨?_, ?_, ?_⟩
  · exact List.append_cancel_left (List.append_cancel_right names)
  · exact List.append_cancel_left (List.append_cancel_right types)
  · exact List.append_cancel_left values

namespace Expr

def isLocal : Expr → Bool
  | .letLocal .. => true
  | _ => false

/-- The scope inside all local bindings that an expression begins with, and the copy of the
environment in which it is evaluated. -/
def innermost : Expr → Env → Expr × Env
  | .letLocal name params body scope, env =>
    match runBody name params body env with
    | (.ok value, left) => scope.innermost (left.bind name value)
    | (.error _, _) => (.letLocal name params body scope, env)
  | e, env => (e, env)

theorem Sound.innermost {e : Expr} (h : e.Sound) (env : Env) : (e.innermost env).1.Sound := by
  induction e generalizing env with
  | letLocal name params body scope _ ih =>
    rw [Expr.innermost]
    split
    · exact ih h.2.2 _
    · exact h
  | _ => exact h

end Expr

theorem Supplies.runBody_eq {name : Text} {params : List Text} {body : Expr} {env left : Env}
    {result : Except EvalError Value} (h : Supplies name params body env result left) :
    runBody name params body env = (result, left) := by
  rw [body.agrees.body]
  exact h.evalBody_eq

theorem Supplies.innermost {name : Text} {params : List Text} {body : Expr} {env left : Env}
    {value : Value} (h : Supplies name params body env (.ok value) left) (scope : Expr) :
    (Expr.letLocal name params body scope).innermost env =
      scope.innermost (left.bind name value) := by
  rw [Expr.innermost, h.runBody_eq]

/-- An output with a name comes from a binding of that name inside all local bindings, and the
binding is made in the environment that it is evaluated in. -/
theorem Evaluates.announces {e : Expr} {env left : Env} {name : Text} {value : Value}
    (h : Evaluates e env (.ok ⟨some name, value⟩) left) :
    ∃ params body copy, e.innermost env = (.letGlobal name params body, copy) ∧
      Evaluates (.letGlobal name params body) copy (.ok ⟨some name, value⟩)
        (copy.bind name value) := by
  induction e generalizing env left with
  | letGlobal other params body _ =>
    cases h with
    | letGlobal hb =>
      obtain rfl := hb.frames
      exact ⟨params, body, _, rfl, .letGlobal hb⟩
  | letLocal other params body scope _ ih =>
    cases h with
    | letLocal hb hs =>
      rw [hb.innermost]
      exact ih hs
  | _ => cases h

theorem Evaluates.left_of_named {e : Expr} {env left : Env} {name : Text} {value : Value}
    (h : Evaluates e env (.ok ⟨some name, value⟩) left) :
    left = if e.isLocal then env else env.bind name value := by
  have kept := h.frames.1
  cases h with
  | letGlobal => exact kept
  | letLocal => exact kept

namespace Session

theorem mem_envLines_of_lookup? {s : Session} {name : Text} {value : Value}
    (found : s.env.lookup? name = some value) :
    announcement name value.type.text value.text ∈ s.envLines :=
  List.mem_map.mpr ⟨(name, value), Env.mem_of_lookup? found, rfl⟩

end Session

namespace Statement

theorem evaluates_of_evaluate {room : Nat} {statement line : Text} {env left : Env}
    (h : evaluate room statement env = (.ok line, left)) :
    ∃ text e out, body statement = .ok text ∧ parse room text = .ok e ∧
      Evaluates e env (.ok out) left ∧ out.text = line := by
  unfold evaluate at h
  rcases ran : run room statement env with ⟨_ | out, _⟩
  · rw [ran] at h
    cases h
  · rw [ran] at h
    cases h
    obtain ⟨text, e, cut, parsed, evaluated⟩ := evaluates_of_run ran
    exact ⟨text, e, out, cut, parsed, evaluated, rfl⟩

theorem named_of_text_eq {e : Expr} {env left : Env} {out : Output} {name type value : Text}
    (sound : e.Sound) (h : Evaluates e env (.ok out) left)
    (announced : out.text = announcement name type value) :
    out = ⟨some name, out.value⟩ ∧ out.value.type.text = type ∧ out.value.text = value := by
  obtain ⟨_ | bound, v⟩ := out
  · -- a line without a name begins with a dash
    have first := congrArg List.head? announced
    cases first
  · rw [Output.text_named] at announced
    obtain ⟨params, body, copy, inner, _⟩ := h.announces
    have readable := sound.innermost env
    rw [inner] at readable
    obtain ⟨rfl, types, values⟩ :=
      announcement_injective readable.1.unmarked v.type.unmarked_text v.unmarked_text announced
    exact ⟨rfl, types, values⟩

/-- A line that announces a binding is about a binding of that name which has been made: in the
environment that is left, unless the statement is a local binding. Then the binding stands in the
innermost scope, it has been made in the copy for that scope, and the environment that is left is
the one from before. -/
theorem announced_binding_is_made {room : Nat} {statement name type value : Text}
    {env left : Env} (announced : evaluate room statement env = (.ok (announcement name type value), left)) :
    ∃ text e params body copy v,
      Statement.body statement = .ok text ∧ parse room text = .ok e ∧
      e.innermost env = (.letGlobal name params body, copy) ∧
      v.type.text = type ∧ v.text = value ∧
      ((Expr.letGlobal name params body).run copy).2.lookup? name = some v ∧
      if e.isLocal then left = env
      else left.lookup? name = some v ∧
        ∀ s : Session, s.env = left → announcement name type value ∈ s.envLines := by
  obtain ⟨text, e, out, cut, parsed, ran, line⟩ := evaluates_of_evaluate announced
  obtain ⟨named, rfl, rfl⟩ := named_of_text_eq (sound_of_parse parsed) ran line
  rw [named] at ran
  obtain ⟨params, body, copy, inner, made⟩ := ran.announces
  have found (env : Env) : (env.bind name out.value).lookup? name = some out.value := by
    rw [Env.lookup?_bind, if_pos rfl]
  have copied : ((Expr.letGlobal name params body).run copy).2 = copy.bind name out.value :=
    congrArg Prod.snd ((run_eq_iff_evaluates _ copy _ _).mpr made)
  refine ⟨text, e, params, body, copy, out.value, cut, parsed, inner, rfl, rfl, ?_, ?_⟩
  · rw [copied]
    exact found copy
  · have kept := ran.left_of_named
    split
    · rename_i isLocal
      rw [kept, if_pos isLocal]
    · rename_i notLocal
      rw [if_neg notLocal] at kept
      rw [kept]
      refine ⟨found env, ?_⟩
      rintro s holds
      refine s.mem_envLines_of_lookup? ?_
      rw [holds]
      exact found env

theorem sum_is_listed :
    let line := announcement ['y'] (ValueType.text .int) ['3']
    let left := Env.empty.bind ['y'] (.int 3)
    evaluate 0 "let y = 1 + 2;;" .empty = (.ok line, left) ∧
      (∃ v, v.type.text = ValueType.text .int ∧ v.text = ['3'] ∧ left.lookup? ['y'] = some v) ∧
      ∀ s : Session, s.env = left → line ∈ s.envLines := by
  intro line left
  have announced : evaluate 0 "let y = 1 + 2;;" .empty = (.ok line, left) := by decide +kernel
  obtain ⟨text, e, _, _, _, v, cut, parsed, _, types, values, _, made⟩ :=
    announced_binding_is_made announced
  have stripped : Statement.body "let y = 1 + 2;;" = .ok "let y = 1 + 2" := by decide +kernel
  obtain rfl := Except.ok.inj (cut.symm.trans stripped)
  have read : parse 0 "let y = 1 + 2" =
      .ok (.letGlobal ['y'] [] (.binary .add (.int 1) (.int 2))) := by decide +kernel
  obtain rfl := Except.ok.inj (parsed.symm.trans read)
  exact ⟨announced, ⟨v, types, values, made.1⟩, made.2⟩

/-- The binding in the scope of another one is announced and lost with the copy. -/
theorem inner_binding_is_lost :
    ¬ ∀ (statement name type value : Text) (env left : Env),
      evaluate (Program.fileRoom Program.callLimit) statement env = (.ok (announcement name type value), left) →
      ∃ v, left.lookup? name = some v ∧ v.type.text = type ∧ v.text = value := by
  intro lasting
  have announced : evaluate (Program.fileRoom Program.callLimit) "let x = 1 in let y = 2;;"
      .empty = (.ok (announcement ['y'] (ValueType.text .int) ['2']), .empty) := by decide +kernel
  obtain ⟨v, found, _⟩ := lasting _ _ _ _ _ _ announced
  cases found

end Statement

end LetLang
