import Mathlib.Data.List.Perm.Basic

/-!
# Lists of entries sorted by key

A key list is a list of entries sorted by key that may hold equal keys, or no list at
all: a missing list has no entries and takes none. How the entries are searched and
where an entry is added among equal keys is left to a `Search`.

The operations are described up to the order of the entries: `dataDelete_spec` and
`dataAdd_spec` say what they do to the entries as a multiset, which is what facts
about distinct keys and about ownership of the data need.
-/

namespace Keylist

universe u v

variable {Key : Type u} {Data : Type v}

section Basics

variable [LE Key]

def Sorted (entries : List (Key × Data)) : Prop :=
  entries.Pairwise fun left right => left.1 ≤ right.1

/-- Where an entry with a key is found, and where one is added. -/
structure Search (Key : Type u) (Data : Type v) [LE Key] where
  findIndex : List (Key × Data) → Key → Option ℕ
  addIndex : List (Key × Data) → Key → ℕ
  findIndex_some : ∀ entries key index, findIndex entries key = some index →
    ∃ data, entries[index]? = some (key, data)
  findIndex_none : ∀ entries key, Sorted entries → findIndex entries key = none →
    key ∉ entries.map Prod.fst
  addIndex_le : ∀ entries key, addIndex entries key ≤ entries.length
  addIndex_sorted : ∀ entries key data, Sorted entries →
    Sorted (entries.insertIdx (addIndex entries key) (key, data))

variable (search : Search Key Data)

/-- The entries of a list; a missing list has none. -/
def entries (list : Option (List (Key × Data))) : List (Key × Data) := list.getD []

/-- The data of an entry with the key. -/
def data (list : Option (List (Key × Data))) (key : Key) : Option Data :=
  (search.findIndex (entries list) key).bind fun index =>
    (entries list)[index]?.map Prod.snd

/-- The key at an index, or the default. -/
def keyAt (default : Key) (list : Option (List (Key × Data))) (index : ℕ) : Key :=
  ((entries list)[index]?.map Prod.fst).getD default

/-- Take an entry with the key out of the list; the data returned is that of the entry. -/
def dataDelete (list : Option (List (Key × Data))) (key : Key) :
    Option Data × Option (List (Key × Data)) :=
  match search.findIndex (entries list) key with
  | none => (none, list)
  | some index =>
      ((entries list)[index]?.map Prod.snd, list.map fun entries => entries.eraseIdx index)

/-- Add an entry, if there is room; the index returned is that of the entry. -/
def dataAdd (room : Bool) (list : Option (List (Key × Data))) (key : Key) (data : Data) :
    Option ℕ × Option (List (Key × Data)) :=
  match list with
  | none => (none, none)
  | some entries =>
      if room then
        let index := search.addIndex entries key
        (some index, some (entries.insertIdx index (key, data)))
      else (none, some entries)

/-- Take the last entry out of a list. -/
def dataPop (entries : List (Key × Data)) : Option (Data × List (Key × Data)) :=
  entries.getLast?.map fun entry => (entry.2, entries.dropLast)

end Basics

section Facts

variable [LE Key] (search : Search Key Data) {list : Option (List (Key × Data))}

theorem data_eq_none_iff (sorted : Sorted (entries list)) (key : Key) :
    data search list key = none ↔ key ∉ (entries list).map Prod.fst := by
  cases found : search.findIndex (entries list) key with
  | none => simpa [data, found] using search.findIndex_none _ _ sorted found
  | some index =>
      obtain ⟨datum, held⟩ := search.findIndex_some _ _ _ found
      simp only [data, found, Option.bind_some, held, Option.map_some, reduceCtorEq, false_iff,
        not_not]
      exact List.mem_map_of_mem (List.mem_of_getElem? held)

theorem mem_of_data_eq_some {key : Key} {datum : Data} (found : data search list key = some datum) :
    (key, datum) ∈ entries list := by
  simp only [data, Option.bind_eq_some_iff, Option.map_eq_some_iff] at found
  rcases found with ⟨index, found, ⟨_, _⟩, held, rfl⟩
  rcases search.findIndex_some _ _ _ found with ⟨other, same⟩
  rw [same, Option.some.injEq] at held
  rw [← held]
  exact List.mem_of_getElem? same

/-- What a deletion does: nothing, or it takes out one entry with the key. -/
inductive Deleted (list : Option (List (Key × Data))) (key : Key) :
    Option Data × Option (List (Key × Data)) → Prop where
  | absent (notMem : key ∉ (entries list).map Prod.fst) : Deleted list key (none, list)
  | taken {data : Data} {rest : List (Key × Data)}
      (perm : ((key, data) :: rest).Perm (entries list)) (sorted : Sorted rest) :
      Deleted list key (some data, some rest)

theorem dataDelete_spec (sorted : Sorted (entries list)) (key : Key) :
    Deleted list key (dataDelete search list key) := by
  cases found : search.findIndex (entries list) key with
  | none =>
      simp only [dataDelete, found]
      exact .absent (search.findIndex_none _ _ sorted found)
  | some index =>
      obtain ⟨datum, held⟩ := search.findIndex_some _ _ _ found
      cases list with
      | none => simp [entries] at held
      | some present =>
          change present[index]? = some (key, datum) at held
          simp only [dataDelete, found, Option.map_some]
          change Deleted _ _ (present[index]?.map Prod.snd, _)
          rw [held]
          obtain ⟨inside, same⟩ := List.getElem?_eq_some_iff.mp held
          have perm := List.getElem_cons_eraseIdx_perm inside
          rw [same] at perm
          exact .taken perm (List.Pairwise.sublist (List.eraseIdx_sublist _ _) sorted)

/-- What an addition does: nothing, or it adds the entry. -/
theorem dataAdd_spec {present : List (Key × Data)} (sorted : Sorted present) (key : Key)
    (data : Data) :
    ∃ index added, dataAdd search true (some present) key data = (some index, some added) ∧
      added.Perm ((key, data) :: present) ∧ Sorted added :=
  ⟨_, _, rfl, List.perm_insertIdx _ _ (search.addIndex_le present key),
    search.addIndex_sorted present key data sorted⟩

end Facts

/-- Linear search; a new entry comes after those with smaller and equal keys. -/
def Search.linear [LE Key] [DecidableLE Key] [DecidableEq Key] [Std.IsLinearOrder Key] :
    Search Key Data where
  findIndex := fun entries key => entries.findIdx? fun entry => entry.1 = key
  addIndex := fun entries key => (entries.takeWhile fun entry => entry.1 ≤ key).length
  findIndex_some := by
    intro entries key index found
    obtain ⟨inside, same, _⟩ := List.findIdx?_eq_some_iff_getElem.mp found
    refine ⟨entries[index].2, ?_⟩
    rw [List.getElem?_eq_getElem inside, ← of_decide_eq_true same]
  findIndex_none := by
    intro entries key _ missing mem
    rw [List.findIdx?_eq_none_iff] at missing
    obtain ⟨entry, held, rfl⟩ := List.mem_map.mp mem
    simpa using missing entry held
  addIndex_le := by
    intro entries key
    exact (List.takeWhile_sublist _).length_le
  addIndex_sorted := by
    intro entries key data sorted
    induction entries with
    | nil => simp [Sorted]
    | cons entry rest ih =>
        rw [Sorted, List.pairwise_cons] at sorted
        by_cases before : entry.1 ≤ key
        · simp only [List.takeWhile_cons, before, decide_true, if_true, List.length_cons,
            List.insertIdx_succ_cons]
          refine List.pairwise_cons.mpr ⟨?_, ih sorted.2⟩
          intro other mem
          rcases (List.mem_insertIdx (List.takeWhile_sublist _).length_le).mp mem with rfl | mem
          · exact before
          · exact sorted.1 other mem
        · simp only [List.takeWhile_cons, before, decide_false, Bool.false_eq_true, if_false,
            List.length_nil, List.insertIdx_zero]
          refine List.pairwise_cons.mpr ⟨?_, List.pairwise_cons.mpr sorted⟩
          intro other mem
          have smaller : key ≤ entry.1 := Std.le_total.resolve_left before
          rcases List.mem_cons.mp mem with rfl | mem
          · exact smaller
          · exact Std.le_trans smaller (sorted.1 other mem)

end Keylist
