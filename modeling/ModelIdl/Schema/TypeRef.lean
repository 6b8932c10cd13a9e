/-!
# ModelIdl.Schema.TypeRef

The types of fields as they are written: a name, possibly with type arguments, possibly an array,
possibly optional. Type names are not looked up, so any name is accepted.
-/

namespace ModelIdl

/-- A type as it is written, placed at its name. -/
structure TypeRef (σ : Type) where
  name : String
  arguments : List (TypeRef σ)
  array : Bool
  optional : Bool
  place : σ

namespace TypeRef

variable {σ τ : Type}

/-- Does the type have arguments? -/
def isGeneric (t : TypeRef σ) : Bool :=
  !t.arguments.isEmpty

mutual

/-- A type in its written form, with one space behind each comma. -/
def text : TypeRef σ → String
  | ⟨name, arguments, array, optional, _⟩ =>
    name ++ argumentsText arguments ++ (if array then "[]" else "") ++ (if optional then "?" else "")

/-- The arguments of a type in angle brackets; nothing if there are none. -/
def argumentsText : List (TypeRef σ) → String
  | [] => ""
  | t :: rest => "<" ++ t.text ++ furtherText rest ++ ">"

/-- The arguments behind the first, each with a comma in front. -/
def furtherText : List (TypeRef σ) → String
  | [] => ""
  | t :: rest => ", " ++ t.text ++ furtherText rest

end

mutual

/-- The same type at another kind of place. -/
def map (f : σ → τ) : TypeRef σ → TypeRef τ
  | ⟨name, arguments, array, optional, place⟩ =>
    ⟨name, mapAll f arguments, array, optional, f place⟩

/-- The same types at another kind of place. -/
def mapAll (f : σ → τ) : List (TypeRef σ) → List (TypeRef τ)
  | [] => []
  | t :: rest => t.map f :: mapAll f rest

end

mutual

/-- How many angle brackets are open around the innermost type. -/
def depth : TypeRef σ → Nat
  | ⟨_, arguments, _, _, _⟩ => argumentsDepth arguments

/-- The depth that a list of type arguments adds: none if it is empty. -/
def argumentsDepth : List (TypeRef σ) → Nat
  | [] => 0
  | t :: rest => max (t.depth + 1) (argumentsDepth rest)

end

theorem mapAll_eq_map (f : σ → τ) (ts : List (TypeRef σ)) : mapAll f ts = ts.map (map f) := by
  induction ts with
  | nil => simp [mapAll]
  | cons t rest ih => simp [mapAll, ih]

theorem map_eq (f : σ → τ) (t : TypeRef σ) :
    t.map f = ⟨t.name, t.arguments.map (map f), t.array, t.optional, f t.place⟩ := by
  cases t
  rw [map, mapAll_eq_map]

theorem depth_eq (t : TypeRef σ) : t.depth = argumentsDepth t.arguments := by
  cases t
  rw [depth]

/-! ### From arguments to types -/

theorem sizeOf_lt_of_mem {t u : TypeRef σ} (h : u ∈ t.arguments) : sizeOf u < sizeOf t := by
  obtain ⟨name, arguments, array, optional, place⟩ := t
  have hlt : sizeOf u < sizeOf arguments := List.sizeOf_lt_of_mem h
  simp only [mk.sizeOf_spec]
  omega

/-- What holds of each type if it holds of the type's arguments holds of all types. -/
@[elab_as_elim]
theorem byArguments {motive : TypeRef σ → Prop}
    (step : ∀ t, (∀ u ∈ t.arguments, motive u) → motive t) (t : TypeRef σ) : motive t :=
  step t fun u hu =>
    have : sizeOf u < sizeOf t := sizeOf_lt_of_mem hu
    byArguments step u
termination_by sizeOf t

theorem depth_lt_argumentsDepth {ts : List (TypeRef σ)} {t : TypeRef σ} (h : t ∈ ts) :
    t.depth < argumentsDepth ts := by
  induction ts with
  | nil => cases h
  | cons u rest ih =>
    rw [argumentsDepth]
    rcases List.mem_cons.1 h with rfl | h
    · omega
    · have := ih h
      omega

theorem argumentsDepth_map (f : σ → τ) {ts : List (TypeRef σ)}
    (h : ∀ t ∈ ts, (t.map f).depth = t.depth) : argumentsDepth (ts.map (map f)) = argumentsDepth ts := by
  induction ts with
  | nil => rfl
  | cons t rest ih =>
    rw [List.map_cons, argumentsDepth, argumentsDepth, h t (.head _), ih fun u hu => h u (.tail _ hu)]

/-- Types are nested as deep at one kind of place as at another. -/
theorem depth_map (f : σ → τ) (t : TypeRef σ) : (t.map f).depth = t.depth := by
  induction t using byArguments with
  | step t ih => rw [map_eq, depth_eq, depth_eq, argumentsDepth_map f ih]

end TypeRef

end ModelIdl
