/-!
# TOML values

A document is a table of values, and it is built a setting at a time. What a table was opened by
decides what may still be added to it: a header opens each table once, a dotted key reaches only
tables that nothing but dotted keys and longer headers have named, and a table in braces is closed.

* `put_ne`: giving a value to one key leaves the others alone.
-/

namespace RdfGateway

namespace Toml

/-- What a table was first named by. -/
inductive Origin where
  /-- The top of a document, or a header of its own. -/
  | header
  /-- A header of a table inside it. -/
  | implied
  /-- A dotted key. -/
  | dotted
  /-- A table in braces. -/
  | braces
  deriving DecidableEq, Inhabited

end Toml

/-- A value of a document. Settings are texts, lists and tables; of a number, a truth value or a
date only its place is kept. -/
inductive Toml where
  | string (value : String)
  | scalar
  | list (items : List Toml)
  | table (origin : Toml.Origin) (entries : List (String × Toml))
  /-- Tables under one repeated header: the earlier ones and the last. -/
  | tables (earlier : List (List (String × Toml))) (last : List (String × Toml))
  deriving Inhabited

namespace Toml

/-- The keys of a table and their values. -/
abbrev Table := List (String × Toml)

/-- The value of a key. -/
def Table.get? (table : Table) (key : String) : Option Toml :=
  (table.find? (·.1 = key)).map (·.2)

/-- A table with the value of a key made from the one it had, or from none. -/
def Table.put (table : Table) (key : String) (value? : Option Toml → Option Toml) :
    Option Table :=
  match table with
  | [] => (value? none).map fun value => [(key, value)]
  | (k, value) :: rest =>
    if k = key then (value? (some value)).map fun value => (k, value) :: rest
    else (Table.put rest key value?).map ((k, value) :: ·)

theorem Table.put_ne {table table' : Table} {key other : String}
    {value? : Option Toml → Option Toml} (h : table.put key value? = some table')
    (hne : other ≠ key) : table'.get? other = table.get? other := by
  induction table generalizing table' with
  | nil =>
    obtain ⟨v, _, rfl⟩ := Option.map_eq_some_iff.1 h
    simp [Table.get?, Ne.symm hne]
  | cons entry rest ih =>
    obtain ⟨k, value⟩ := entry
    by_cases hk : k = key
    · subst hk
      rw [Table.put, if_pos rfl] at h
      obtain ⟨v, _, rfl⟩ := Option.map_eq_some_iff.1 h
      simp [Table.get?, Ne.symm hne]
    · rw [Table.put, if_neg hk] at h
      obtain ⟨t, ht, rfl⟩ := Option.map_eq_some_iff.1 h
      by_cases ho : k = other
      · simp [Table.get?, ho]
      · simpa [Table.get?, ho] using ih ht

/-- How tables are reached: along the keys of a header, or along those of a dotted key. -/
inductive Route where
  | header
  | dotted
  deriving DecidableEq

/-- What a table that is first named on a route was named by. -/
def Route.origin : Route → Origin
  | .header => .implied
  | .dotted => .dotted

/-- A table may be gone through on a route. -/
def Route.passes : Route → Origin → Bool
  | .header, origin => origin != .braces
  | .dotted, origin => origin == .implied || origin == .dotted

/-- A table changed at the end of a path. The change sees what the table there was named by. -/
def Table.within (route : Route) (change : Origin → Table → Option Table) :
    List String → Origin → Table → Option Table
  | [], origin, entries => change origin entries
  | key :: path, _, entries =>
    entries.put key fun
      | none => .table route.origin <$> within route change path route.origin []
      | some (.table origin inner) =>
        if route.passes origin then .table origin <$> within route change path origin inner
        else none
      | some (.tables earlier last) =>
        .tables earlier <$> within route change path .header last
      | some _ => none

/-- A table with a value for a new key at the end of a path of dotted keys. Only a table that
dotted keys have made is extended by them. -/
def Table.set (table : Table) (path : List String) (key : String) (value : Toml) :
    Option Table :=
  table.within .dotted
    (fun origin inner =>
      if path.isEmpty || origin = .dotted then
        inner.put key fun
          | none => some value
          | some _ => none
      else none)
    path .header

/-- A document with a table opened by its header. A table that only longer headers have named is
opened as it is. -/
def Table.openTable (document : Table) (path : List String) (key : String) : Option Table :=
  document.within .header
    (fun _ inner => inner.put key fun
      | none => some (.table .header [])
      | some (.table .implied entries) => some (.table .header entries)
      | some _ => none)
    path .header

/-- A document with one more table under a repeated header. -/
def Table.appendTable (document : Table) (path : List String) (key : String) : Option Table :=
  document.within .header
    (fun _ inner => inner.put key fun
      | none => some (.tables [] [])
      | some (.tables earlier last) => some (.tables (earlier ++ [last]) [])
      | some _ => none)
    path .header

/-- A document with a setting in the table that the last header opened. -/
def Table.setUnder (document : Table) (header path : List String) (key : String) (value : Toml) :
    Option Table :=
  document.within .header (fun _ inner => inner.set path key value) header .header

end Toml

end RdfGateway
