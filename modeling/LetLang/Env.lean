import LetLang.Text.Quoted
import LetLang.Value

/-! # Environments

The bindings of names to values, in the order in which the names were first bound. Binding a
bound name anew keeps its place, so a name never stands twice.
-/
namespace LetLang

/-- Bindings in the order of their making. -/
structure Env where
  bindings : List (Text × Value)
  deriving DecidableEq, Repr

namespace Env

def empty : Env := ⟨[]⟩

/-- The bindings with one name bound to a value: in its place, or else at the end. -/
def rebind (name : Text) (value : Value) : List (Text × Value) → List (Text × Value)
  | [] => [(name, value)]
  | (n, v) :: rest => if n = name then (name, value) :: rest else (n, v) :: rebind name value rest

def bind (env : Env) (name : Text) (value : Value) : Env := ⟨rebind name value env.bindings⟩

def lookup? (env : Env) (name : Text) : Option Value := env.bindings.lookup name

def contains (env : Env) (name : Text) : Bool := (env.lookup? name).isSome

def size (env : Env) : Nat := env.bindings.length

def names (env : Env) : List Text := env.bindings.map Prod.fst

def ofList (bindings : List (Text × Value)) : Env :=
  bindings.foldl (fun env (name, value) => env.bind name value) empty

def inspect (env : Env) : Text :=
  "Environment(\x7b" ++
    Text.join ", " (env.bindings.map fun (name, value) =>
      Text.quoted name ++ ": " ++ value.inspect) ++ "\x7d)"

theorem lookup_rebind (name other : Text) (value : Value) (bindings : List (Text × Value)) :
    (rebind name value bindings).lookup other =
      if other = name then some value else bindings.lookup other := by
  induction bindings with
  | nil =>
    by_cases h : other = name
    · simp [rebind, h]
    · simp [rebind, List.lookup_cons, h, beq_false_of_ne h]
  | cons binding rest ih =>
    obtain ⟨n, v⟩ := binding
    by_cases hn : n = name
    · subst hn
      by_cases h : other = n
      · simp [rebind, h]
      · simp [rebind, List.lookup_cons, h, beq_false_of_ne h]
    · by_cases h : other = n
      · subst h
        simp [rebind, hn]
      · simp [rebind, hn, List.lookup_cons, beq_false_of_ne h, ih]

theorem lookup?_bind (env : Env) (name other : Text) (value : Value) :
    (env.bind name value).lookup? other = if other = name then some value else env.lookup? other :=
  lookup_rebind name other value env.bindings

theorem map_fst_rebind (name : Text) (value : Value) (bindings : List (Text × Value)) :
    (rebind name value bindings).map Prod.fst =
      if name ∈ bindings.map Prod.fst then bindings.map Prod.fst
      else bindings.map Prod.fst ++ [name] := by
  induction bindings with
  | nil => rfl
  | cons binding rest ih =>
    obtain ⟨n, v⟩ := binding
    by_cases hn : n = name
    · subst hn
      simp [rebind]
    · have hn' : name ≠ n := fun h => hn h.symm
      simp only [rebind, hn, if_false, List.map_cons, ih, List.mem_cons, hn', false_or]
      split <;> rfl

/-- Binding keeps the order of the names and appends a new one. -/
theorem names_bind (env : Env) (name : Text) (value : Value) :
    (env.bind name value).names = if name ∈ env.names then env.names else env.names ++ [name] :=
  map_fst_rebind name value env.bindings

theorem nodup_names_bind {env : Env} (once : env.names.Nodup) (name : Text) (value : Value) :
    (env.bind name value).names.Nodup := by
  rw [names_bind]
  split
  · exact once
  · rename_i fresh
    have alone : [name].Nodup := List.nodup_cons.mpr ⟨List.not_mem_nil, List.nodup_nil⟩
    refine List.nodup_append.mpr ⟨once, alone, ?_⟩
    rintro a old b new rfl
    exact fresh (List.mem_singleton.mp new ▸ old)

end Env

end LetLang
