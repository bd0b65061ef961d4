/-
  Tables — values under distinct keys.

  Rows keep the order in which their keys came; giving a key a new value leaves
  its row where it is.

  * `get?` looks a value up, `put`, `erase` and `filter` change the table;
  * `sortedRows` lists a table of texts by increasing key.
-/

namespace Switchboard

/-- Rows under distinct keys. -/
structure Table (κ α : Type) where
  rows : List (κ × α) := []
  distinct : (rows.map (·.1)).Nodup := by exact List.nodup_nil

namespace Table

variable {κ α : Type} [DecidableEq κ]

instance [Repr κ] [Repr α] : Repr (Table κ α) := ⟨fun t n => reprPrec t.rows n⟩

instance : Inhabited (Table κ α) := ⟨{}⟩

def size (t : Table κ α) : Nat := t.rows.length

def keys (t : Table κ α) : List κ := t.rows.map (·.1)

def get? (t : Table κ α) (k : κ) : Option α := t.rows.lookup k

def contains (t : Table κ α) (k : κ) : Bool := t.rows.any (·.1 = k)

/-- Keeps the rows that satisfy a test. -/
def filter (t : Table κ α) (keep : κ × α → Bool) : Table κ α where
  rows := t.rows.filter keep
  distinct := (List.filter_sublist.map _).nodup t.distinct

/-- Removes the row of a key. -/
def erase (t : Table κ α) (k : κ) : Table κ α := t.filter (·.1 ≠ k)

/-- Gives a key a value. -/
def put (t : Table κ α) (k : κ) (a : α) : Table κ α :=
  if h : k ∈ t.rows.map (·.1) then
    { rows := t.rows.map fun r => if r.1 = k then (k, a) else r
      distinct := by
        have same : (t.rows.map fun r => if r.1 = k then (k, a) else r).map (·.1) =
            t.rows.map (·.1) := by
          rw [List.map_map]
          refine List.map_congr_left fun r _ => ?_
          by_cases hr : r.1 = k <;> simp [hr]
        rw [same]
        exact t.distinct }
  else
    { rows := t.rows ++ [(k, a)]
      distinct := by
        rw [List.map_append, List.nodup_append]
        refine ⟨t.distinct, by simp, fun x hx y hy hxy => h ?_⟩
        simp only [List.map_cons, List.map_nil, List.mem_singleton] at hy
        exact hy ▸ hxy ▸ hx }

/-- The rows of a table of texts by increasing key. -/
def sortedRows (t : Table String α) : List (String × α) :=
  t.rows.mergeSort fun a b => a.1 ≤ b.1

end Table

end Switchboard
