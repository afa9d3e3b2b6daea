import Mathlib.Data.List.Basic
import Mathlib.Data.List.Count

/-!
# Descriptor tables

A table hands out the lowest free number and takes numbers back.  Numbers are
reused, so each opening has a serial number of its own; `closed` lists the serial
numbers in the order they were closed.  The fields of a table say that every serial
number handed out is open at exactly one number and not closed, or closed exactly
once.
-/

namespace DescriptorTable

universe u

variable {File : Type u}

/-- The entry at a number; numbers beyond the list are free. -/
def lookupIn (entries : List (Option (Nat × File))) (number : Nat) : Option (Nat × File) :=
  entries[number]?.join

/-- Open descriptors by number, each with its serial number. -/
structure Table (File : Type u) where
  entries : List (Option (Nat × File))
  nextSerial : Nat
  closed : List Nat
  fresh : ∀ number entry, lookupIn entries number = some entry → entry.1 < nextSerial
  distinct : ∀ number other entry entry', lookupIn entries number = some entry →
    lookupIn entries other = some entry' → entry.1 = entry'.1 → number = other
  opened : ∀ number entry, lookupIn entries number = some entry → entry.1 ∉ closed
  accounted : ∀ serial < nextSerial, closed.count serial = 1 ∨
    ∃ number entry, lookupIn entries number = some entry ∧ entry.1 = serial
  past : ∀ serial ∈ closed, serial < nextSerial

theorem lookupIn_set {entries : List (Option (Nat × File))} {place number : Nat}
    (entry : Option (Nat × File)) (inside : place < entries.length) :
    lookupIn (entries.set place entry) number =
      if number = place then entry else lookupIn entries number := by
  unfold lookupIn
  rw [List.getElem?_set]
  by_cases same : place = number
  · subst same
    rw [if_pos rfl, if_pos inside, if_pos rfl]
    rfl
  · rw [if_neg same, if_neg (Ne.symm same)]

theorem lookupIn_grown (entries : List (Option (Nat × File))) (number : Nat) :
    lookupIn (entries ++ [none]) number = lookupIn entries number := by
  unfold lookupIn
  rcases Nat.lt_trichotomy number entries.length with inside | rfl | beyond
  · rw [List.getElem?_append_left inside]
  · simp
  · rw [List.getElem?_eq_none (by simp; omega), List.getElem?_eq_none (by omega)]

/-- The lowest free number. -/
def lowestFree (entries : List (Option (Nat × File))) : Nat :=
  (entries ++ [none]).findIdx Option.isNone

theorem lowestFree_lt (entries : List (Option (Nat × File))) :
    lowestFree entries < (entries ++ [none]).length :=
  List.findIdx_lt_length_of_exists ⟨none, by simp, rfl⟩

theorem lookupIn_lowestFree (entries : List (Option (Nat × File))) :
    lookupIn entries (lowestFree entries) = none := by
  have inside := lowestFree_lt entries
  have free : ((entries ++ [none]).get ⟨lowestFree entries, inside⟩).isNone = true :=
    List.findIdx_getElem
  have found : (entries ++ [none])[lowestFree entries]? = some none :=
    (List.getElem?_eq_getElem inside).trans (congrArg some (Option.isNone_iff_eq_none.mp free))
  rw [← lookupIn_grown, lookupIn, found]
  rfl

theorem lt_length_of_lookupIn {entries : List (Option (Nat × File))} {number : Nat}
    {entry : Nat × File} (found : lookupIn entries number = some entry) :
    number < entries.length := by
  by_contra beyond
  rw [lookupIn, List.getElem?_eq_none (Nat.not_lt.mp beyond)] at found
  cases found

namespace Table

variable (table : Table File)

/-- What is open at a number, with its serial number. -/
def find (number : Nat) : Option (Nat × File) := lookupIn table.entries number

/-- What is open at a number. -/
def lookup (number : Nat) : Option File := (table.find number).map Prod.snd

/-- The number the next opening gets. -/
def next : Nat := lowestFree table.entries

theorem lookupIn_opened (file : File) (number : Nat) :
    lookupIn ((table.entries ++ [none]).set table.next (some (table.nextSerial, file))) number =
      if number = table.next then some (table.nextSerial, file) else table.find number := by
  have inside : table.next < (table.entries ++ [none]).length := lowestFree_lt table.entries
  rw [lookupIn_set _ inside, lookupIn_grown]
  rfl

/-- Open a file at the lowest free number. -/
def insert (file : File) : Table File where
  entries := (table.entries ++ [none]).set table.next (some (table.nextSerial, file))
  nextSerial := table.nextSerial + 1
  closed := table.closed
  fresh number entry found := by
    rw [lookupIn_opened] at found
    split at found
    · cases found
      exact Nat.lt_succ_self _
    · exact Nat.lt_succ_of_lt (table.fresh number entry found)
  distinct number other entry entry' found found' same := by
    rw [lookupIn_opened] at found found'
    split at found <;> split at found'
    next isNext isNext' => exact isNext.trans isNext'.symm
    next isNext notNext =>
      cases found
      exact absurd same (Nat.ne_of_gt (table.fresh other entry' found'))
    next notNext isNext =>
      cases found'
      exact absurd same (Nat.ne_of_lt (table.fresh number entry found))
    next notNext notNext' => exact table.distinct number other entry entry' found found' same
  opened number entry found := by
    rw [lookupIn_opened] at found
    split at found
    · cases found
      exact fun member => Nat.lt_irrefl _ (table.past _ member)
    · exact table.opened number entry found
  accounted serial old := by
    rcases Nat.lt_succ_iff_lt_or_eq.mp old with old | rfl
    · rcases table.accounted serial old with closed | ⟨number, entry, found, same⟩
      · exact .inl closed
      · refine .inr ⟨number, entry, ?_, same⟩
        rw [lookupIn_opened, if_neg, find, found]
        rintro rfl
        exact nomatch found.symm.trans (lookupIn_lowestFree table.entries)
    · exact .inr ⟨table.next, _, by rw [lookupIn_opened, if_pos rfl], rfl⟩
  past serial member := Nat.lt_succ_of_lt (table.past serial member)

/-- Close a number; nothing happens when it is not open. -/
def close (number : Nat) : Table File :=
  match found : table.find number with
  | none => table
  | some entry =>
      have emptied (other : Nat) : lookupIn (table.entries.set number none) other =
          if other = number then none else table.find other :=
        lookupIn_set none (lt_length_of_lookupIn found)
      { entries := table.entries.set number none
        nextSerial := table.nextSerial
        closed := table.closed ++ [entry.1]
        fresh := by
          intro other entry' found'
          rw [emptied] at found'
          split at found'
          · cases found'
          · exact table.fresh other entry' found'
        distinct := by
          intro other other' entry' entry'' found' found'' same
          rw [emptied] at found' found''
          split at found'
          · cases found'
          · split at found''
            · cases found''
            · exact table.distinct other other' entry' entry'' found' found'' same
        opened := by
          intro other entry' found' member
          rw [emptied] at found'
          split at found'
          · cases found'
          next different =>
            rcases List.mem_append.mp member with old | new
            · exact table.opened other entry' found' old
            · exact different (table.distinct other number entry' entry found' found
                (List.mem_singleton.mp new))
        accounted := by
          intro serial old
          rw [List.count_append]
          have notYet := List.count_eq_zero.mpr (table.opened number entry found)
          by_cases isEntry : entry.1 = serial
          · subst isEntry
            exact .inl (by rw [notYet]; simp)
          · rw [List.count_singleton, beq_eq_false_iff_ne.mpr isEntry]
            rcases table.accounted serial old with closed | ⟨other, entry', found', same⟩
            · exact .inl (by rw [closed]; rfl)
            · refine .inr ⟨other, entry', ?_, same⟩
              rw [emptied, if_neg, find, found']
              rintro rfl
              exact isEntry ((congrArg Prod.fst (Option.some.inj (found.symm.trans found'))).trans
                same)
        past := by
          intro serial member
          rcases List.mem_append.mp member with old | new
          · exact table.past serial old
          · rw [List.mem_singleton.mp new]
            exact table.fresh number entry found }

/-- A table with these files open from zero on. -/
def ofList (files : List File) : Table File := files.foldl insert
  { entries := []
    nextSerial := 0
    closed := []
    fresh := nofun
    distinct := nofun
    opened := nofun
    accounted := nofun
    past := nofun }

variable {table}

@[simp] theorem insert_nextSerial (file : File) :
    (table.insert file).nextSerial = table.nextSerial + 1 := rfl

@[simp] theorem insert_closed (file : File) : (table.insert file).closed = table.closed := rfl

theorem find_next : table.find table.next = none := lookupIn_lowestFree table.entries

theorem find_insert (file : File) (number : Nat) :
    (table.insert file).find number =
      if number = table.next then some (table.nextSerial, file) else table.find number :=
  table.lookupIn_opened file number

@[simp] theorem close_nextSerial (number : Nat) :
    (table.close number).nextSerial = table.nextSerial := by
  unfold close
  split <;> rfl

theorem find_close (number other : Nat) :
    (table.close number).find other = if other = number then none else table.find other := by
  unfold close
  split
  next missing =>
    split
    next same => rw [same, missing]
    next different => rfl
  next entry found => exact lookupIn_set none (lt_length_of_lookupIn found)

theorem lookup_insert (file : File) (number : Nat) :
    (table.insert file).lookup number =
      if number = table.next then some file else table.lookup number := by
  unfold lookup
  rw [find_insert]
  split <;> rfl

theorem lookup_close (number other : Nat) :
    (table.close number).lookup other = if other = number then none else table.lookup other := by
  unfold lookup
  rw [find_close]
  split <;> rfl

/-- A serial number handed out and no longer open was closed exactly once. -/
theorem count_closed {serial : Nat} (old : serial < table.nextSerial)
    (gone : ∀ number entry, table.find number = some entry → entry.1 ≠ serial) :
    table.closed.count serial = 1 := by
  rcases table.accounted serial old with closed | ⟨number, entry, found, same⟩
  · exact closed
  · exact absurd same (gone number entry found)

theorem count_of_mem_closed {serial : Nat} (member : serial ∈ table.closed) :
    table.closed.count serial = 1 := by
  refine count_closed (table.past serial member) fun number entry found same => ?_
  exact table.opened number entry found (same ▸ member)

theorem mem_closed_close {serial : Nat} (number : Nat) (member : serial ∈ table.closed) :
    serial ∈ (table.close number).closed := by
  unfold close
  split
  · exact member
  · exact List.mem_append_left _ member

theorem mem_closed_of_find {number : Nat} {entry : Nat × File}
    (found : table.find number = some entry) : entry.1 ∈ (table.close number).closed := by
  unfold close
  split
  next missing => cases found.symm.trans missing
  next entry' found' =>
    rw [Option.some.inj (found.symm.trans found')]
    exact List.mem_append_right _ (List.mem_singleton_self _)

end Table

end DescriptorTable
