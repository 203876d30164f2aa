/-! Registries: who handles which tag, and who handles all others. -/

namespace TreeMatch

/-- Handlers by tag, later entries first, and perhaps a handler for all other tags. -/
structure Registry (α : Type) where
  entries : List (String × α)
  fallback : Option α
  deriving Repr

namespace Registry

def empty : Registry α :=
  ⟨[], none⟩

/-- A handler put under a tag replaces the one that was there. -/
def register (registry : Registry α) (tag : String) (handler : α) : Registry α :=
  { registry with
    entries := (tag, handler) :: registry.entries.filter fun entry => entry.1 != tag }

def ofList (handlers : List (String × α)) (fallback : Option α) : Registry α :=
  handlers.foldl (fun registry (tag, handler) => registry.register tag handler) ⟨[], fallback⟩

def resolve? (registry : Registry α) (tag : String) : Option α :=
  (registry.entries.lookup tag).or registry.fallback

def contains (registry : Registry α) (tag : String) : Bool :=
  (registry.entries.lookup tag).isSome

def map (registry : Registry α) (f : α → β) : Registry β :=
  ⟨registry.entries.map fun (tag, handler) => (tag, f handler), registry.fallback.map f⟩

def tags (registry : Registry α) : List String :=
  registry.entries.map Prod.fst

def size (registry : Registry α) : Nat :=
  registry.entries.length

@[simp] theorem resolve?_register_self (registry : Registry α) (tag : String) (handler : α) :
    (registry.register tag handler).resolve? tag = some handler := by
  simp [register, resolve?]

theorem lookup_filter_of_ne {tag other : String} (h : other ≠ tag) (entries : List (String × α)) :
    (entries.filter fun entry => entry.1 != tag).lookup other = entries.lookup other := by
  induction entries with
  | nil => rfl
  | cons entry rest ih =>
    obtain ⟨key, handler⟩ := entry
    by_cases hkey : key = tag
    · subst hkey
      have hother : (other == key) = false := by simpa using h
      simp [List.lookup_cons, hother, ih]
    · have hkept : (key != tag) = true := by simpa using hkey
      simp [hkept, List.lookup_cons, ih]

theorem resolve?_register_of_ne {tag other : String} (h : other ≠ tag)
    (registry : Registry α) (handler : α) :
    (registry.register tag handler).resolve? other = registry.resolve? other := by
  have hother : (other == tag) = false := by simpa using h
  simp [register, resolve?, List.lookup_cons, hother, lookup_filter_of_ne h]

end Registry

end TreeMatch
