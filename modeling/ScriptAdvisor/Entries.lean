/-! # Ordered entries

A list of pairs of a key and a value in which the first pair with a key is the one that counts. New
keys go to the end and a key stored again keeps its place, so that the order of the list is the
order in which the keys were first stored.

* `Entries.get?`, `Entries.put`, `Entries.erase` and `Entries.keys` are the operations.
* `get?_put_self` and `get?_put_of_ne` say what is found after an entry was stored, and `keys_put`
  says where its key stands. -/

namespace ScriptAdvisor

/-- Pairs of a key and a value, in order. -/
abbrev Entries (α : Type _) := List (String × α)

namespace Entries

variable {α : Type _}

/-- The value stored under `key`. -/
def get? (entries : Entries α) (key : String) : Option α :=
  match entries with
  | [] => none
  | entry :: rest => if entry.1 = key then some entry.2 else get? rest key

/-- The entries with `value` stored under `key`. -/
def put (entries : Entries α) (key : String) (value : α) : Entries α :=
  match entries with
  | [] => [(key, value)]
  | entry :: rest =>
    if entry.1 = key then (key, value) :: rest else entry :: put rest key value

/-- The entries without those under `key`. -/
def erase (entries : Entries α) (key : String) : Entries α :=
  entries.filter fun entry => entry.1 != key

/-- The keys in order. -/
def keys (entries : Entries α) : List String := entries.map (·.1)

/-- The entries that result from storing a list of pairs one after the other. -/
def ofList (pairs : List (String × α)) : Entries α :=
  pairs.foldl (fun entries pair => put entries pair.1 pair.2) []

/-- The entries of `base` with those of `update` stored over them. -/
def merge (base update : Entries α) : Entries α :=
  update.foldl (fun entries pair => put entries pair.1 pair.2) base

@[simp] theorem keys_nil : keys ([] : Entries α) = [] := rfl

@[simp] theorem keys_cons (entry : String × α) (rest : Entries α) :
    keys (entry :: rest) = entry.1 :: keys rest := rfl

@[simp] theorem get?_nil (key : String) : get? ([] : Entries α) key = none := rfl

theorem get?_cons (entry : String × α) (rest : Entries α) (key : String) :
    get? (entry :: rest) key = if entry.1 = key then some entry.2 else get? rest key := rfl

/-- What was stored is found again. -/
@[simp] theorem get?_put_self (entries : Entries α) (key : String) (value : α) :
    get? (put entries key value) key = some value := by
  induction entries with
  | nil => simp [put, get?]
  | cons entry rest ih => by_cases h : entry.1 = key <;> simp [put, get?, h, ih]

/-- Storing under a key leaves the other keys alone. -/
theorem get?_put_of_ne (entries : Entries α) {key other : String} (h : other ≠ key) (value : α) :
    get? (put entries key value) other = get? entries other := by
  induction entries with
  | nil => simp [put, get?, Ne.symm h]
  | cons entry rest ih =>
    by_cases hk : entry.1 = key
    · simp [put, get?, hk, Ne.symm h]
    · simp [put, get?, hk, ih]

/-- What is found is stored. -/
theorem mem_of_get?_eq_some {entries : Entries α} {key : String} {value : α}
    (h : get? entries key = some value) : (key, value) ∈ entries := by
  induction entries with
  | nil => exact absurd h (by simp)
  | cons entry rest ih =>
    rw [get?_cons] at h
    split at h
    · rename_i hkey
      rw [← hkey, ← Option.some.inj h]
      exact List.mem_cons_self
    · exact List.mem_cons_of_mem _ (ih h)

/-- Nothing is found under an erased key. -/
@[simp] theorem get?_erase_self (entries : Entries α) (key : String) :
    get? (erase entries key) key = none := by
  induction entries with
  | nil => rfl
  | cons entry rest ih =>
    simp only [erase] at ih
    by_cases h : entry.1 = key <;> simp [erase, get?, h, ih]

/-- Erasing a key leaves the other keys alone. -/
theorem get?_erase_of_ne (entries : Entries α) {key other : String} (h : other ≠ key) :
    get? (erase entries key) other = get? entries other := by
  induction entries with
  | nil => rfl
  | cons entry rest ih =>
    simp only [erase] at ih
    by_cases hk : entry.1 = key
    · simp [erase, get?, hk, Ne.symm h, ih]
    · simp [erase, get?, hk, ih]

/-- A key is present exactly if something is stored under it. -/
theorem get?_isSome_iff (entries : Entries α) (key : String) :
    (get? entries key).isSome ↔ key ∈ keys entries := by
  induction entries with
  | nil => simp
  | cons entry rest ih =>
    by_cases h : entry.1 = key
    · simp [get?, h]
    · simp [get?, h, ih, Ne.symm h]

/-- A stored key stands where it stood before, or else at the end. -/
theorem keys_put (entries : Entries α) (key : String) (value : α) :
    keys (put entries key value) =
      if key ∈ keys entries then keys entries else keys entries ++ [key] := by
  induction entries with
  | nil => simp [put]
  | cons entry rest ih =>
    by_cases h : entry.1 = key
    · simp [put, h]
    · by_cases hr : key ∈ keys rest <;> simp [put, h, ih, hr, Ne.symm h]

/-- Erasing a key removes it from the keys. -/
theorem keys_erase (entries : Entries α) (key : String) :
    keys (erase entries key) = (keys entries).filter (· != key) := by
  induction entries with
  | nil => rfl
  | cons entry rest ih =>
    simp only [erase] at ih
    by_cases h : entry.1 = key <;> simp [erase, h, ih]

end Entries

end ScriptAdvisor
