import Mathlib.Data.List.Basic
import Mathlib.Data.List.Nodup
import Mathlib.Logic.Function.Basic

/-!
# Stores addressed by separated names

This file is about stores whose entries carry hierarchical names: sequences of
components with a separator between them. It gives the subtree relation on
names, the listing of a subtree, and the refinement of a map over keys by a
store over names.

A map over keys is refined by a store over names through a naming of the keys.
Updates of the store at the name of a key are updates of the map at that key
exactly when distinct keys have distinct names; `Represents.put` and
`Represents.remove` are the two steps of the simulation.
-/

namespace NamedStore

universe u v w

section Names

variable {Symbol : Type u} {separator : Symbol} {root name : List Symbol}

/-- The name is the root itself or lies below it. -/
def AtOrBelow (separator : Symbol) (root name : List Symbol) : Prop :=
  name = root ∨ root ++ [separator] <+: name

instance [DecidableEq Symbol] (separator : Symbol) (root name : List Symbol) :
    Decidable (AtOrBelow separator root name) :=
  inferInstanceAs (Decidable (_ ∨ _))

/-- What follows the root in a name at or below it; the root itself has no remainder. -/
def remainder [DecidableEq Symbol] (root name : List Symbol) : Option (List Symbol) :=
  if name = root then none else some (name.drop (root.length + 1))

theorem atOrBelow_iff :
    AtOrBelow separator root name ↔ name = root ∨ ∃ rest, name = root ++ separator :: rest := by
  unfold AtOrBelow
  apply or_congr_right
  constructor
  · rintro ⟨rest, rfl⟩
    exact ⟨rest, by simp⟩
  · rintro ⟨rest, rfl⟩
    exact ⟨rest, by simp⟩

theorem AtOrBelow.refl (separator : Symbol) (root : List Symbol) :
    AtOrBelow separator root root :=
  Or.inl rfl

theorem atOrBelow_append (separator : Symbol) (root rest : List Symbol) :
    AtOrBelow separator root (root ++ separator :: rest) :=
  atOrBelow_iff.mpr (Or.inr ⟨rest, rfl⟩)

theorem AtOrBelow.isPrefix (below : AtOrBelow separator root name) : root <+: name := by
  rcases atOrBelow_iff.mp below with rfl | ⟨rest, rfl⟩
  · exact List.prefix_rfl
  · exact List.prefix_append root _

theorem AtOrBelow.trans {middle : List Symbol} (outer : AtOrBelow separator root middle)
    (inner : AtOrBelow separator middle name) : AtOrBelow separator root name := by
  rw [atOrBelow_iff] at outer inner
  rcases outer with rfl | ⟨front, rfl⟩
  · exact atOrBelow_iff.mpr inner
  · rcases inner with rfl | ⟨back, rfl⟩
    · exact atOrBelow_append separator root front
    · rw [List.append_assoc]
      exact atOrBelow_append separator root (front ++ separator :: back)

@[simp]
theorem remainder_self [DecidableEq Symbol] (root : List Symbol) : remainder root root = none := by
  simp [remainder]

@[simp]
theorem remainder_append [DecidableEq Symbol] (root rest : List Symbol) (separator : Symbol) :
    remainder root (root ++ separator :: rest) = some rest := by
  have longer : root ++ separator :: rest ≠ root := by
    intro equal
    have := congrArg List.length equal
    simp at this
  simp [remainder, longer]

/-- A component before a separator, and the text after it, are determined by the whole. -/
theorem append_separator_inj {component other rest rest' : List Symbol}
    (noSeparator : separator ∉ component) (noSeparatorOther : separator ∉ other)
    (equal : component ++ separator :: rest = other ++ separator :: rest') :
    component = other ∧ rest = rest' := by
  induction component generalizing other with
  | nil =>
      cases other with
      | nil => simpa using equal
      | cons symbol other =>
          simp only [List.nil_append, List.cons_append, List.cons.injEq] at equal
          exact absurd equal.1 (by simp at noSeparatorOther; exact noSeparatorOther.1)
  | cons symbol component ih =>
      cases other with
      | nil =>
          simp only [List.nil_append, List.cons_append, List.cons.injEq] at equal
          exact absurd equal.1.symm (by simp at noSeparator; exact noSeparator.1)
      | cons symbol' other =>
          simp only [List.cons_append, List.cons.injEq] at equal
          have tails := ih (fun mem => noSeparator (by simp [mem]))
            (fun mem => noSeparatorOther (by simp [mem])) equal.2
          exact ⟨by rw [equal.1, tails.1], tails.2⟩

/-- Names that start with different components lie in different subtrees. -/
theorem eq_of_atOrBelow_component {component other rest : List Symbol}
    (noSeparator : separator ∉ component) (noSeparatorOther : separator ∉ other)
    (below : AtOrBelow separator component (other ++ separator :: rest)) : other = component := by
  rcases atOrBelow_iff.mp below with equal | ⟨rest', equal⟩
  · subst component
    simp at noSeparator
  · exact (append_separator_inj noSeparatorOther noSeparator equal).1

end Names

section Listing

variable {Name : Type u} {Value : Type v} [DecidableEq Name]

/-- A listing without repeated names shows each of its entries once. -/
theorem filter_name_of_mem {entries : List (Name × Value)} (distinct : (entries.map Prod.fst).Nodup)
    {name : Name} {value : Value} (mem : (name, value) ∈ entries) :
    entries.filter (fun entry => entry.1 = name) = [(name, value)] := by
  induction entries with
  | nil => simp at mem
  | cons entry rest ih =>
      rw [List.map_cons, List.nodup_cons] at distinct
      rcases List.mem_cons.mp mem with rfl | mem
      · have others : rest.filter (fun entry => entry.1 = name) = [] := by
          rw [List.filter_eq_nil_iff]
          intro other otherMem
          have : other.1 ∈ rest.map Prod.fst := List.mem_map_of_mem otherMem
          grind
        simp [others]
      · have different : entry.1 ≠ name := by
          rintro rfl
          exact distinct.1 (List.mem_map.mpr ⟨_, mem, rfl⟩)
        simp [different, ih distinct.2 mem]

theorem filter_name_of_notMem {entries : List (Name × Value)} {name : Name}
    (absent : ∀ value, (name, value) ∉ entries) :
    entries.filter (fun entry => entry.1 = name) = [] := by
  rw [List.filter_eq_nil_iff]
  rintro ⟨other, value⟩ mem
  simp only [decide_eq_true_eq]
  rintro rfl
  exact absent value mem

end Listing

section Refinement

variable {Key : Type u} {Name : Type v} {Value : Type w}
  {lookup lookup' : Name → Option Value} {naming : Key → Name} {contents : Key → Option Value}

/-- The store shows, at the name of every key, what the map holds for the key. -/
def Represents (lookup : Name → Option Value) (naming : Key → Name)
    (contents : Key → Option Value) : Prop :=
  ∀ key, lookup (naming key) = contents key

variable [DecidableEq Key]

/-- Writing at the name of a key writes the map at the key, when names determine keys. -/
theorem Represents.put (represents : Represents lookup naming contents)
    (injective : Function.Injective naming) {key : Key} {value : Value}
    (written : lookup' (naming key) = some value)
    (others : ∀ name, name ≠ naming key → lookup' name = lookup name) :
    Represents lookup' naming (Function.update contents key (some value)) := by
  intro other
  by_cases same : other = key
  · subst other
    simpa using written
  · rw [Function.update_of_ne same, others _ (injective.ne same)]
    exact represents other

/-- Removing the name of a key removes the key from the map, when names determine keys. -/
theorem Represents.remove (represents : Represents lookup naming contents)
    (injective : Function.Injective naming) {key : Key}
    (removed : lookup' (naming key) = none)
    (others : ∀ name, name ≠ naming key → lookup' name = lookup name) :
    Represents lookup' naming (Function.update contents key none) := by
  intro other
  by_cases same : other = key
  · subst other
    simpa using removed
  · rw [Function.update_of_ne same, others _ (injective.ne same)]
    exact represents other

end Refinement

/-! ## Stores of which only a part is known -/

section Knowledge

variable {Key : Type u} {Name : Type v} {Value : Type w}
  {lookup lookup' : Name → Option Value} {naming : Key → Name}
  {known : Key → Option (Option Value)}

/-- The store shows, at the name of every key whose entry is known, what is known of it. -/
def Knows (lookup : Name → Option Value) (naming : Key → Name)
    (known : Key → Option (Option Value)) : Prop :=
  ∀ key contents, known key = some contents → lookup (naming key) = contents

/-- After a change at the name of one key, the other entries are known as before. -/
theorem Knows.update [DecidableEq Key] (knows : Knows lookup naming known)
    (injective : Function.Injective naming) {key : Key} {entry : Option (Option Value)}
    (now : ∀ contents, entry = some contents → lookup' (naming key) = contents)
    (others : ∀ name, name ≠ naming key → lookup' name = lookup name) :
    Knows lookup' naming (Function.update known key entry) := by
  intro other contents knownOther
  by_cases same : other = key
  · subst other
    rw [Function.update_self] at knownOther
    exact now contents knownOther
  · rw [Function.update_of_ne same] at knownOther
    rw [others _ (injective.ne same)]
    exact knows other contents knownOther

end Knowledge

end NamedStore
