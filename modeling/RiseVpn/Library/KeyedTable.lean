import Mathlib.Data.List.Nodup

/-!
# Tables with a key

A table is a list of rows in insertion order and `key` reads the key of a row. `lookup` is the row a
query by key returns, `updateAt` rewrites the rows of one key in place. `lookup_updateAt_self` and
`lookup_updateAt_of_ne` say what a lookup finds after an update that keeps the keys.

`map_updateAt` and `nodup_map_updateAt` are the bookkeeping of unique columns under an update, and
`lookup_eq_some_iff` says that a lookup by a column without duplicates finds a row exactly when the
table holds it. `updateAt_eq_self` says when an update changes nothing.
-/

set_option autoImplicit false

namespace KeyedTable

variable {Row Key : Type*} [DecidableEq Key] (key : Row → Key)

/-- The row a query by key returns. -/
def lookup (k : Key) (rows : List Row) : Option Row := rows.find? fun row ↦ key row = k

/-- Rewrites the rows of one key in place. -/
def updateAt (k : Key) (change : Row → Row) (rows : List Row) : List Row :=
  rows.map fun row ↦ if key row = k then change row else row

variable {key} {k k' : Key} {rows : List Row} (change : Row → Row)

@[simp] theorem lookup_nil : lookup key k [] = none := rfl

theorem lookup_cons (row : Row) :
    lookup key k (row :: rows) = if key row = k then some row else lookup key k rows := by
  by_cases hkey : key row = k <;> simp [lookup, hkey]

theorem lookup_some_key {row : Row} (hrow : lookup key k rows = some row) : key row = k := by
  simpa using List.find?_some hrow

theorem lookup_some_mem {row : Row} (hrow : lookup key k rows = some row) : row ∈ rows :=
  List.mem_of_find?_eq_some hrow

section

variable (hkeeps : ∀ row, key (change row) = key row)

include hkeeps

theorem lookup_updateAt_self :
    lookup key k (updateAt key k change rows) = (lookup key k rows).map change := by
  induction rows with
  | nil => rfl
  | cons row rest ih =>
    rw [updateAt, List.map_cons, lookup_cons, lookup_cons, ← updateAt, ih]
    by_cases hkey : key row = k
    · simp [hkey, hkeeps]
    · simp [hkey]

theorem lookup_updateAt_of_some {row : Row} (hrow : lookup key k rows = some row) :
    lookup key k (updateAt key k change rows) = some (change row) := by
  rw [lookup_updateAt_self change hkeeps, hrow, Option.map_some]

theorem lookup_updateAt_of_ne (hne : k' ≠ k) :
    lookup key k' (updateAt key k change rows) = lookup key k' rows := by
  induction rows with
  | nil => rfl
  | cons row rest ih =>
    rw [updateAt, List.map_cons, lookup_cons, lookup_cons, ← updateAt, ih]
    by_cases hkey : key row = k
    · simp [hkey, hkeeps, hne.symm]
    · simp [hkey]

end

theorem lookup_append (more : List Row) :
    lookup key k (rows ++ more) = (lookup key k rows).or (lookup key k more) := by
  simp [lookup, List.find?_append]

theorem lookup_eq_none_iff : lookup key k rows = none ↔ ∀ row ∈ rows, key row ≠ k := by
  simp [lookup]

theorem lookup_eq_some_iff (hnodup : (rows.map key).Nodup) {row : Row} :
    lookup key k rows = some row ↔ row ∈ rows ∧ key row = k := by
  constructor
  · exact fun hrow ↦ ⟨lookup_some_mem hrow, lookup_some_key hrow⟩
  · rintro ⟨hmem, rfl⟩
    obtain ⟨found, hfound⟩ : ∃ found, lookup key (key row) rows = some found := by
      refine Option.ne_none_iff_exists'.mp fun hnone ↦ ?_
      exact lookup_eq_none_iff.mp hnone row hmem rfl
    rw [hfound, List.inj_on_of_nodup_map hnodup (lookup_some_mem hfound) hmem
      (lookup_some_key hfound)]

theorem map_updateAt {Value : Type*} {column : Row → Value}
    (hkeeps : ∀ row, column (change row) = column row) :
    (updateAt key k change rows).map column = rows.map column := by
  rw [updateAt, List.map_map]
  refine List.map_congr_left fun row _ ↦ ?_
  by_cases hkey : key row = k <;> simp [hkey, hkeeps]

/-- Assumes: keys and a column without duplicates, and an update whose new value of the column no
other row has. The column has no duplicates after the update. -/
theorem nodup_map_updateAt {Value : Type*} {column : Row → Value} (hkeys : (rows.map key).Nodup)
    (hcolumn : (rows.map column).Nodup)
    (hfresh : ∀ row ∈ rows, key row ≠ k → ∀ old ∈ rows, key old = k →
      column (change old) ≠ column row) :
    ((updateAt key k change rows).map column).Nodup := by
  rw [updateAt, List.map_map, List.Nodup, List.pairwise_map]
  have hboth := (List.pairwise_map.mp hkeys).and (List.pairwise_map.mp hcolumn)
  refine hboth.imp_of_mem fun {first second} hfirst hsecond hdistinct ↦ ?_
  obtain ⟨hkey, hvalue⟩ := hdistinct
  by_cases hleft : key first = k
  · have hright : key second ≠ k := fun h ↦ hkey (hleft.trans h.symm)
    simpa [hleft, hright] using hfresh second hsecond hright first hfirst hleft
  · by_cases hright : key second = k
    · simpa [hleft, hright] using (hfresh first hfirst hleft second hsecond hright).symm
    · simpa [hleft, hright] using hvalue

theorem updateAt_eq_self (hnodup : (rows.map key).Nodup)
    (hfixed : (lookup key k rows).map change = lookup key k rows) :
    updateAt key k change rows = rows := by
  have hkeep : ∀ row ∈ rows, (if key row = k then change row else row) = row := by
    intro row hrow
    split_ifs with hkey
    · have hfound : lookup key k rows = some row := (lookup_eq_some_iff hnodup).mpr ⟨hrow, hkey⟩
      rw [hfound] at hfixed
      exact Option.some.inj hfixed
    · rfl
  exact (List.map_congr_left hkeep).trans (List.map_id' rows)

omit [DecidableEq Key] in
theorem nodup_map_filterMap {Result : Type*} {query : Row → Option Result} {column : Result → Key}
    (hkeeps : ∀ row result, query row = some result → column result = key row)
    (hnodup : (rows.map key).Nodup) : ((rows.filterMap query).map column).Nodup := by
  suffices hsublist : ((rows.filterMap query).map column).Sublist (rows.map key) from
    hsublist.nodup hnodup
  clear hnodup
  induction rows with
  | nil => exact .slnil
  | cons row rows ih =>
    cases hquery : query row with
    | none => simpa [hquery] using ih.cons (key row)
    | some result => simpa [hquery, hkeeps row result hquery] using ih

end KeyedTable
