import LetLang.Eval
import Mathlib.Logic.Function.Basic

/-! # Families of environments

Environments are bound in, copied with one more binding, and cleared, several of them side by
side. What becomes of one of them is told by the environment that it was begun with and by the
bindings that were made in it since: its names stand in the order in which they came first, each
of them once, and a name has the value that was bound to it last.
-/
namespace LetLang.Env

def bindAll (env : Env) (bindings : List (Text × Value)) : Env :=
  bindings.foldl (fun env (name, value) => env.bind name value) env

theorem bindAll_concat (env : Env) (bindings : List (Text × Value)) (name : Text) (value : Value) :
    env.bindAll (bindings ++ [(name, value)]) = (env.bindAll bindings).bind name value := by
  rw [bindAll, List.foldl_append]
  rfl

theorem nodup_names_bindAll {env : Env} (once : env.names.Nodup) (bindings : List (Text × Value)) :
    (env.bindAll bindings).names.Nodup := by
  induction bindings generalizing env with
  | nil => exact once
  | cons binding rest ih => exact ih (nodup_names_bind once binding.1 binding.2)

theorem eraseDups_of_nodup {names : List Text} (once : names.Nodup) : names.eraseDups = names := by
  induction names with
  | nil => rfl
  | cons name rest ih =>
    obtain ⟨fresh, later⟩ := List.nodup_cons.mp once
    have kept : rest.filter (fun other => !other == name) = rest := by
      refine List.filter_eq_self.mpr fun other member => ?_
      have differs : other ≠ name := fun same => fresh (same ▸ member)
      simpa using differs
    rw [List.eraseDups_cons, kept, ih later]

theorem eraseDups_append_cons_of_mem {names : List Text} {name : Text} (old : name ∈ names)
    (rest : List Text) : (names ++ name :: rest).eraseDups = (names ++ rest).eraseDups := by
  have listed : ¬ names.contains name = false := by simpa using old
  rw [List.eraseDups_append, List.eraseDups_append, List.cons_removeAll, if_neg listed]

/-- The names stand in the order in which they came first. -/
theorem names_bindAll {env : Env} (once : env.names.Nodup) (bindings : List (Text × Value)) :
    (env.bindAll bindings).names = (env.names ++ bindings.map Prod.fst).eraseDups := by
  induction bindings generalizing env with
  | nil =>
    rw [List.map_nil, List.append_nil, eraseDups_of_nodup once]
    rfl
  | cons binding rest ih =>
    obtain ⟨name, value⟩ := binding
    have later := ih (nodup_names_bind once name value)
    rw [names_bind] at later
    refine later.trans ?_
    split
    · rename_i old
      exact (eraseDups_append_cons_of_mem old _).symm
    · rw [List.append_assoc]
      rfl

theorem names_prefix_bindAll (env : Env) (bindings : List (Text × Value)) :
    env.names <+: (env.bindAll bindings).names := by
  induction bindings generalizing env with
  | nil => exact List.prefix_rfl
  | cons binding rest ih =>
    have first : env.names <+: (env.bind binding.1 binding.2).names := by
      rw [names_bind]
      split
      · exact List.prefix_rfl
      · exact List.prefix_append _ _
    exact first.trans (ih _)

theorem lookup?_bindAll (env : Env) (bindings : List (Text × Value)) (name : Text) :
    (env.bindAll bindings).lookup? name =
      (bindings.reverse.lookup name).or (env.lookup? name) := by
  induction bindings generalizing env with
  | nil => rfl
  | cons binding rest ih =>
    obtain ⟨other, value⟩ := binding
    have later := ih (env.bind other value)
    rw [lookup?_bind] at later
    rw [List.reverse_cons, List.lookup_append, Option.or_assoc]
    refine later.trans (congrArg _ ?_)
    by_cases same : name = other
    · simp [same]
    · simp [List.lookup_cons, same, beq_false_of_ne same]

/-- Environments under their designations; those that have not been made are empty. -/
abbrev Family (ι : Type) := ι → Env

/-- What is known of an environment: the one that it is a copy of, and the bindings that have been
made in it since it was copied or cleared, oldest first. -/
structure Account where
  inherited : Env
  made : List (Text × Value)
  deriving DecidableEq, Repr

def Account.env (a : Account) : Env := a.inherited.bindAll a.made

inductive Operation (ι : Type) where
  | bind (env : ι) (name : Text) (value : Value)
  | extend (parent : ι) (name : Text) (value : Value) (child : ι)
  | clear (env : ι)
  deriving DecidableEq, Repr

namespace Operation

variable {ι : Type}

def target : Operation ι → ι
  | .bind env _ _ => env
  | .extend _ _ _ child => child
  | .clear env => env

def outcome (f : Family ι) : Operation ι → Env
  | .bind env name value => (f env).bind name value
  | .extend parent name value _ => (f parent).bind name value
  | .clear _ => .empty

/-- The account of the target behind an operation on a family. -/
def account (f : Family ι) (a : Account) : Operation ι → Account
  | .bind _ name value => { a with made := a.made ++ [(name, value)] }
  | .extend parent name value _ => ⟨f parent, [(name, value)]⟩
  | .clear _ => ⟨.empty, []⟩

end Operation

namespace Family

variable {ι : Type}

/-- No environment has a name twice. -/
def Distinct (f : Family ι) : Prop := ∀ i, (f i).names.Nodup

/-- An account tells what has become of an environment. -/
structure Accounts (f : Family ι) (i : ι) (a : Account) : Prop where
  env : f i = a.env
  once : a.inherited.names.Nodup

theorem Distinct.outcome {f : Family ι} (h : f.Distinct) (op : Operation ι) :
    (op.outcome f).names.Nodup := by
  cases op with
  | bind env name value => exact nodup_names_bind (h env) name value
  | extend parent name value child => exact nodup_names_bind (h parent) name value
  | clear env => exact List.nodup_nil

theorem Accounts.account {f : Family ι} {op : Operation ι} {a : Account}
    (h : f.Accounts op.target a) (distinct : f.Distinct) :
    op.outcome f = (op.account f a).env ∧ (op.account f a).inherited.names.Nodup := by
  cases op with
  | bind env name value =>
    have told : f env = a.env := h.env
    refine ⟨?_, h.once⟩
    rw [Operation.outcome, told, Operation.account, Account.env, Account.env, bindAll_concat]
  | extend parent name value child => exact ⟨rfl, distinct parent⟩
  | clear env => exact ⟨rfl, List.nodup_nil⟩

variable [DecidableEq ι]

def after (f : Family ι) (op : Operation ι) : Family ι := Function.update f op.target (op.outcome f)

def afterAll (f : Family ι) (ops : List (Operation ι)) : Family ι := ops.foldl after f

/-- The account of one of the environments behind an operation on the family. -/
def note (f : Family ι) (i : ι) (a : Account) (op : Operation ι) : Account :=
  if op.target = i then op.account f a else a

def noteAll (f : Family ι) (i : ι) (a : Account) : List (Operation ι) → Account
  | [] => a
  | op :: rest => (f.after op).noteAll i (f.note i a op) rest

theorem after_target (f : Family ι) (op : Operation ι) : f.after op op.target = op.outcome f :=
  Function.update_self ..

theorem after_of_ne (f : Family ι) {op : Operation ι} {i : ι} (other : op.target ≠ i) :
    f.after op i = f i :=
  Function.update_of_ne other.symm ..

theorem afterAll_of_ne (f : Family ι) {ops : List (Operation ι)} {i : ι}
    (other : ∀ op ∈ ops, op.target ≠ i) : f.afterAll ops i = f i := by
  induction ops generalizing f with
  | nil => rfl
  | cons op rest ih =>
    obtain ⟨first, later⟩ := List.forall_mem_cons.mp other
    exact (ih (f.after op) later).trans (f.after_of_ne first)

theorem Distinct.after {f : Family ι} (h : f.Distinct) (op : Operation ι) :
    (f.after op).Distinct := by
  intro i
  by_cases here : op.target = i
  · rw [← here, after_target]
    exact h.outcome op
  · rw [f.after_of_ne here]
    exact h i

theorem Accounts.after {f : Family ι} {i : ι} {a : Account} (h : f.Accounts i a) (distinct : f.Distinct)
    (op : Operation ι) : (f.after op).Accounts i (f.note i a op) := by
  by_cases here : op.target = i
  · subst here
    obtain ⟨env, once⟩ := h.account distinct
    rw [note, if_pos rfl]
    exact ⟨(f.after_target op).trans env, once⟩
  · rw [note, if_neg here]
    exact ⟨(f.after_of_ne here).trans h.env, h.once⟩

theorem Accounts.afterAll {f : Family ι} {i : ι} {a : Account} (h : f.Accounts i a)
    (distinct : f.Distinct) (ops : List (Operation ι)) :
    (f.afterAll ops).Accounts i (f.noteAll i a ops) := by
  induction ops generalizing f a with
  | nil => exact h
  | cons op rest ih => exact ih (h.after distinct op) (distinct.after op)

/-- Every environment lists its names once, in the order in which they were first bound: those of
the environment that it is a copy of, as they stood when it was copied, and then those bound in it
since it was copied or cleared. A name has the value last bound to it in this time, or else the one
it had in the environment that was copied, and is unbound without either. Operations on other
environments, be it the one that was copied or copies of this one, do not change it. -/
theorem names_in_order_of_first_binding (given : ι → List (Text × Value)) (ops : List (Operation ι))
    (i : ι) :
    let start : Family ι := fun j => ofList (given j)
    let env := start.afterAll ops i
    let account := start.noteAll i ⟨.empty, given i⟩ ops
    env.names.Nodup ∧
      env.names = (account.inherited.names ++ account.made.map Prod.fst).eraseDups ∧
      account.inherited.names <+: env.names ∧
      (∀ name, env.get name =
        match account.made.reverse.lookup name, account.inherited.lookup? name with
        | some value, _ => .ok value
        | none, some value => .ok value
        | none, none => .error (.unbound name)) ∧
      ∀ more : List (Operation ι), (∀ op ∈ more, op.target ≠ i) →
        (start.afterAll ops).afterAll more i = env := by
  intro start env account
  have none : Env.empty.names.Nodup := List.nodup_nil
  have distinct : start.Distinct := fun j => nodup_names_bindAll none (given j)
  have begun : start.Accounts i ⟨.empty, given i⟩ := ⟨rfl, none⟩
  obtain ⟨told, once⟩ := begun.afterAll distinct ops
  have told : env = account.inherited.bindAll account.made := told
  refine ⟨?_, ?_, ?_, ?_, fun more other => afterAll_of_ne _ other⟩
  · rw [told]
    exact nodup_names_bindAll once account.made
  · rw [told]
    exact names_bindAll once account.made
  · rw [told]
    exact names_prefix_bindAll account.inherited account.made
  · intro name
    rw [told, get, lookup?_bindAll]
    cases account.made.reverse.lookup name with
    | some value => rfl
    | none => cases account.inherited.lookup? name <;> rfl

/-- A name that is bound again keeps its place, and loses it where the environment is cleared. -/
example :
    let ops : List (Operation Bool) := [.bind true ['a'] (.int 1), .bind true ['b'] (.int 2),
      .bind true ['a'] (.int 3), .extend true ['b'] (.int 4) false, .clear true,
      .bind true ['b'] (.int 5), .bind true ['a'] (.int 6), .bind false ['c'] (.int 7)]
    let f := Family.afterAll (fun _ => .empty) ops
    f true = ⟨[(['b'], .int 5), (['a'], .int 6)]⟩ ∧
      f false = ⟨[(['a'], .int 3), (['b'], .int 4), (['c'], .int 7)]⟩ := by
  decide

end Family

end LetLang.Env
