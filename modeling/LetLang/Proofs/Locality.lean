import LetLang.Proofs.Substitution

/-! # Names that matter

An expression looks up the names that it uses and no others. Environments that agree on those names
cannot be told apart by running it: the result is the same, and so is the binding that is made. The
main statement adds that a name is reported as unbound only if it is used and not bound, wherever in
the expression it is looked up.
-/
namespace LetLang

theorem Expr.replace_none (e : Expr) : e.replace (fun _ => none) = e := by
  induction e with
  | int _ | bool _ | list _ | ref _ => rfl
  | binary op lhs rhs ihl ihr => rw [replace, ihl, ihr]
  | letGlobal name params body ih => rw [replace, ih]
  | letLocal name params body scope ihb ihs =>
    have hidden : Replacement.hide (fun _ => none) name = fun _ => none :=
      funext fun _ => ite_self none
    rw [replace, hidden, ihb, ihs]

/-- Where environments agree on the names that are used, an expression has the same result in both
and makes the same binding. -/
theorem Evaluates.transfer {e : Expr} {env env' left : Env} {result : Except EvalError Output}
    (h : Evaluates e env result left)
    (agree : ∀ name, e.Uses name → env.lookup? name = env'.lookup? name) :
    ∃ made, left = env.put made ∧ Evaluates e env' result (env'.put made) := by
  have moved := h.replace (r := fun _ => none) agree
  rwa [e.replace_none] at moved

theorem BinOp.ne_unbound_of_apply {op : BinOp} {a b : Value} {e : EvalError}
    (h : op.apply a b = .error e) (name : Text) : e ≠ .unbound name := by
  rintro rfl
  unfold apply at h
  split at h
  · cases op with
    | div =>
      simp only [onInts] at h
      split at h <;> cases h
    | add | sub | mul | eq | ne => cases h
  all_goals cases h

mutual

theorem Evaluates.absent {e : Expr} {env left : Env} {result : Except EvalError Output}
    {name : Text} :
    Evaluates e env result left → result = .error (.unbound name) → env.lookup? name = none
  | .int | .bool | .list | .bound _ | .applied .. | .letGlobal _ => nofun
  | .leftBinding _ | .rightBinding _ _ => nofun
  | .unbound missing => fun | rfl => missing
  | .leftFails hl => hl.absent
  | .rightFails hl hr => fun failed => by
      have missing := hr.absent failed
      obtain rfl := hl.frames.2
      exact missing
  | .refused _ _ ha => fun failed =>
      absurd (Except.error.inj failed) (BinOp.ne_unbound_of_apply ha name)
  | .letGlobalFails hb | .letLocalFails hb => fun failed =>
      hb.absent (congrArg Except.error (Except.error.inj failed))
  | .letLocal hb hs => fun failed => by
      have missing := hs.absent failed
      obtain rfl := hb.frames
      rw [Env.lookup?_bind] at missing
      split at missing
      · cases missing
      · exact missing

theorem Supplies.absent {bound : Text} {params : List Text} {body : Expr} {env left : Env}
    {result : Except EvalError Value} {name : Text} :
    Supplies bound params body env result left → result = .error (.unbound name) →
      env.lookup? name = none
  | .function | .value _ | .binding _ => nofun
  | .fails hb => fun failed => hb.absent (congrArg Except.error (Except.error.inj failed))

end

/-- A name that is reported as unbound is used: binding it makes the report impossible. -/
theorem Evaluates.uses_of_unbound {e : Expr} {env left : Env} {name : Text}
    (h : Evaluates e env (.error (.unbound name)) left) : e.Uses name := by
  refine Classical.byContradiction fun unused => ?_
  have agree : ∀ other, e.Uses other →
      env.lookup? other = (env.bind name .function).lookup? other := by
    intro other uses
    have differs : other ≠ name := fun same => unused (same ▸ uses)
    rw [Env.lookup?_bind, if_neg differs]
  obtain ⟨made, _, moved⟩ := h.transfer agree
  have missing := moved.absent rfl
  rw [Env.lookup?_bind, if_pos rfl] at missing
  cases missing

/-- A run depends on the names that the expression uses and on nothing else of the environment. In
environments that agree on those names it has the same result and makes the same binding or none,
and it finds a name unbound only if the name is used and not bound. -/
theorem run_depends_on_used_names {e : Expr} {env env' : Env}
    (agree : ∀ name, e.Uses name → env.lookup? name = env'.lookup? name) :
    (∃ result made, e.run env = (result, env.put made) ∧ e.run env' = (result, env'.put made)) ∧
      ∀ name, (e.run env).1 = .error (.unbound name) → e.Uses name ∧ env.lookup? name = none := by
  constructor
  · rcases ran : e.run env with ⟨result, left⟩
    obtain ⟨made, rfl, moved⟩ := ((run_eq_iff_evaluates e env result left).mp ran).transfer agree
    exact ⟨result, made, rfl, (run_eq_iff_evaluates e env' result _).mpr moved⟩
  · intro name failed
    have unbound := (run_eq_iff_evaluates e env _ _).mp (Prod.ext failed rfl)
    exact ⟨unbound.uses_of_unbound, unbound.absent rfl⟩

/-- Neither the outer a nor what the body of f names matters, only b and c do. -/
theorem hidden_name_does_not_matter :
    let e : Expr := .letLocal ['a'] [] (.ref ['b']) (.letLocal ['f'] [['x']] (.ref ['y'])
      (.binary .mul (.ref ['a']) (.ref ['c'])))
    let env : Env := (Env.empty.bind ['a'] (.bool true)).bind ['b'] (.int 2)
    let env' : Env := (Env.empty.bind ['b'] (.int 2)).bind ['y'] (.list [])
    (∀ name, e.Uses name → env.lookup? name = env'.lookup? name) ∧
      (e.run env).1 = .error (.unbound ['c']) ∧ (e.run env').1 = .error (.unbound ['c']) ∧
      e.Uses ['c'] ∧ env.lookup? ['c'] = none := by
  intro e env env'
  have agree : ∀ name, e.Uses name → env.lookup? name = env'.lookup? name := by
    rintro name (⟨_, rfl⟩ | ⟨hidden, ⟨none, _⟩ | ⟨_, rfl | rfl⟩⟩)
    · rfl
    · cases none
    · exact absurd rfl hidden
    · rfl
  obtain ⟨⟨result, made, run, run'⟩, unbound⟩ := run_depends_on_used_names agree
  have failed : (e.run env).1 = .error (.unbound ['c']) := by
    rw [Expr.run_eq]
    rfl
  have same : (e.run env').1 = (e.run env).1 := by rw [run, run']
  exact ⟨agree, failed, same.trans failed, unbound ['c'] failed⟩

end LetLang
