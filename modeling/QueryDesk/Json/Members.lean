import QueryDesk.Text.Basic

/-!
# Named members

Objects, documents and similar tables list named members in the order in which the names first
appeared. `Members.put` keeps that order: a name that is there keeps its place and takes the new
value, any other goes to the end. `names_put` and `get?_put` say so.
-/

namespace QueryDesk

/-- Members by name, in order of first appearance. -/
abbrev Members (α : Type) := List (Text × α)

namespace Members

variable {α : Type}

def get? : Members α → Text → Option α
  | [], _ => none
  | (name, value) :: rest, key => if name = key then some value else get? rest key

def put : Members α → Text → α → Members α
  | [], key, value => [(key, value)]
  | (name, old) :: rest, key, value =>
    if name = key then (name, value) :: rest else (name, old) :: put rest key value

def names (members : Members α) : List Text :=
  members.map Prod.fst

/-- The members that a sequence of pairs leaves: of a repeated name the first place and the last
value stay. -/
def ofPairs (pairs : List (Text × α)) : Members α :=
  pairs.foldl (fun members pair => members.put pair.1 pair.2) []

/-- A name is looked up where it was last set. -/
theorem get?_put (members : Members α) (key other : Text) (value : α) :
    (members.put key value).get? other =
      if key = other then some value else members.get? other := by
  induction members with
  | nil => simp [put, get?]
  | cons head rest ih =>
    obtain ⟨name, old⟩ := head
    by_cases same : name = key
    · subst same
      by_cases here : name = other <;> simp [put, get?, here]
    · by_cases here : name = other
      · subst here
        have : ¬ key = name := fun equal => same equal.symm
        simp [put, get?, same, this]
      · simp [put, get?, same, here, ih]

/-- Setting a name keeps the order of the names and adds a new one at the end. -/
theorem names_put (members : Members α) (key : Text) (value : α) :
    (members.put key value).names =
      if key ∈ members.names then members.names else members.names ++ [key] := by
  induction members with
  | nil => simp [put, names]
  | cons head rest ih =>
    obtain ⟨name, old⟩ := head
    simp only [names] at ih
    by_cases same : name = key
    · simp [put, names, same]
    · have : ¬ key = name := fun equal => same equal.symm
      simp only [put, names, same, if_false, List.map_cons, ih, List.mem_cons, this, false_or]
      split
      case isTrue member => simp [member]
      case isFalse member => simp [member]

/-- No name occurs twice. -/
def Distinct (members : Members α) : Prop :=
  members.names.Nodup

theorem Distinct.put {members : Members α} (h : members.Distinct) (key : Text) (value : α) :
    (members.put key value).Distinct := by
  rw [Distinct, names_put]
  split
  · exact h
  case isFalse absent =>
    refine List.nodup_append.mpr ⟨h, by simp, ?_⟩
    intro a inNames b inKey equal
    have : b = key := by simpa using inKey
    exact absent (this ▸ equal ▸ inNames)

/-- The members that pairs leave have distinct names. -/
theorem distinct_ofPairs (pairs : List (Text × α)) : (ofPairs pairs).Distinct := by
  have fold : ∀ (members : Members α), members.Distinct →
      (pairs.foldl (fun members pair => members.put pair.1 pair.2) members).Distinct := by
    induction pairs with
    | nil => exact fun _ h => h
    | cons pair rest ih => exact fun members h => ih _ (h.put pair.1 pair.2)
  exact fold [] List.nodup_nil

/-- A new name goes to the end. -/
theorem put_of_not_mem {members : Members α} {key : Text} (h : key ∉ members.names) (value : α) :
    members.put key value = members ++ [(key, value)] := by
  induction members with
  | nil => rfl
  | cons head rest ih =>
    obtain ⟨name, old⟩ := head
    simp only [names, List.map_cons, List.mem_cons, not_or] at h
    have : ¬ name = key := fun equal => h.1 equal.symm
    simp [put, this, ih h.2]

/-- Pairs with distinct names are kept as they are. -/
theorem ofPairs_eq_self {pairs : Members α} (h : pairs.Distinct) : ofPairs pairs = pairs := by
  have fold : ∀ (done rest : Members α), (done ++ rest).Distinct →
      rest.foldl (fun members pair => members.put pair.1 pair.2) done = done ++ rest := by
    intro done rest
    induction rest generalizing done with
    | nil => simp
    | cons pair rest ih =>
      intro distinct
      have absent : pair.1 ∉ done.names := by
        intro member
        simp only [Distinct, names, List.map_append, List.map_cons] at distinct
        exact (List.nodup_append.mp distinct).2.2 _ member _ (List.mem_cons_self ..) rfl
      rw [List.foldl_cons, put_of_not_mem absent, ih _ (by simpa using distinct)]
      simp
  exact fold [] pairs h

end Members

end QueryDesk
