import Mathlib.Algebra.Ring.Nat
import Luna.Realpath.Canonical

/-!
# Lookup of a path by the kernel

The kernel walks the same parts as `luna_bb_realpath`, but every place it leaves must be
a directory.  A tree says what the places hold, and the kernel's calls answer from it.
-/

namespace Luna.Realpath

open PathResolution Relation

inductive Entry where
  | directory
  | file
  | link (target : Text)
  deriving DecidableEq, Repr

def Entry.kind : Entry → Kind
  | .directory => .directory
  | .file => .file
  | .link _ => .link

def Entry.node : Entry → Node Text
  | .directory => .directory
  | .file => .file
  | .link target => .link (target.head? = some '/') (parts target)

/-- A file system: what is not in a directory does not exist, and the target of a link
is a path. -/
structure Tree where
  entry : List Text → Option Entry
  root : entry [] = some .directory
  closed : ∀ place name, (entry (place ++ [name])).isSome → entry place = some .directory
  proper : ∀ place name, (entry (place ++ [name])).isSome → Proper name
  short : ∀ place target, entry place = some (.link target) → target.length ≤ pathMax - 1

/-- Where the lookup of a path starts, and its parts. -/
def origin (cwd : List Text) (path : Text) : Config Text :=
  ⟨if path.head? = some '/' then [] else cwd, parts path, 0⟩

namespace Tree

def node (tree : Tree) (place : List Text) : Option (Node Text) :=
  (tree.entry place).map Entry.node

/-- The kernel's lookup of a path succeeds and comes to the place. -/
def Lookup (tree : Tree) (cwd : List Text) (path : Text) (place : List Text) : Prop :=
  path ≠ [] ∧ ∃ links ≤ 40, WalksChecked tree.node (origin cwd path) ⟨place, [], links⟩

/-- Wherever the walk over the path comes to `.`, `..` or a slash at the end, it is at a
directory. -/
def DotsAtDirectories (tree : Tree) (cwd : List Text) (path : Text) : Prop :=
  ∀ place part rest links, Walks tree.node (origin cwd path) ⟨place, part :: rest, links⟩ →
    part = .self ∨ part = .parent → tree.entry place = some .directory

end Tree

/-- The names among the parts are proper. -/
def ProperParts (rest : List (Segment Text)) : Prop := ∀ name, .name name ∈ rest → Proper name

theorem ProperParts.append {first second : List (Segment Text)} (proper : ProperParts first)
    (properToo : ProperParts second) : ProperParts (first ++ second) := by
  intro name member
  rcases List.mem_append.mp member with inFirst | inSecond
  · exact proper name inFirst
  · exact properToo name inSecond

theorem noSlash_of_mem_splitOn (text : Text) : ∀ name ∈ text.splitOn '/', '/' ∉ name := by
  induction text with
  | nil =>
      intro name member
      rw [List.splitOn_nil, List.mem_singleton] at member
      rw [member]
      exact List.not_mem_nil
  | cons head rest inductionHypothesis =>
      intro name member
      rw [List.splitOn_cons_eq_if_modifyHead] at member
      split at member
      next slash =>
        rcases List.mem_cons.mp member with rfl | later
        · exact List.not_mem_nil
        · exact inductionHypothesis name later
      next other =>
        obtain ⟨first, more, split⟩ := List.exists_cons_of_ne_nil (List.splitOn_ne_nil '/' rest)
        rw [split, List.modifyHead_cons] at member
        rw [split] at inductionHypothesis
        rcases List.mem_cons.mp member with rfl | later
        · rw [List.mem_cons, not_or]
          exact ⟨fun same => other (beq_iff_eq.mpr same.symm),
            inductionHypothesis first List.mem_cons_self⟩
        · exact inductionHypothesis name (List.mem_cons_of_mem _ later)

theorem properParts_parts (text : Text) : ProperParts (parts text) := by
  intro name member
  unfold parts at member
  rcases List.mem_append.mp member with named | trailing
  · obtain ⟨word, inNames, isName⟩ := List.mem_map.mp named
    unfold names at inNames
    obtain ⟨inSplit, nonempty⟩ := List.mem_filter.mp inNames
    unfold partOf at isName
    split at isName
    next => cases isName
    next notSelf =>
      split at isName
      next => cases isName
      next notParent =>
        cases isName
        exact ⟨of_decide_eq_true nonempty, noSlash_of_mem_splitOn text name inSplit, notSelf,
          notParent⟩
  · split at trailing
    · cases List.mem_singleton.mp trailing
    · cases trailing

/-- The calls answer what the tree holds.  `lstat` of a place below a file or of a path
that is too long fails. -/
structure Calls.Serves (calls : Calls) (tree : Tree) (cwd : List Text) : Prop where
  inside : tree.entry cwd = some .directory
  getcwd : ∀ directory, calls.getcwd = .ok directory → directory.text = absolute cwd
  found : ∀ place entry, tree.entry place = some entry → (absolute place).length < pathMax →
    calls.lstat (absolute place) = .ok entry.kind
  missing : ∀ place name, tree.entry place = some .directory ∨ tree.entry place = some .file →
    Proper name → tree.entry (place ++ [name]) = none →
      ∃ errno, calls.lstat (absolute (place ++ [name])) = .error errno
  long : ∀ place, pathMax ≤ (absolute place).length →
    ∃ errno, calls.lstat (absolute place) = .error errno
  readlink : ∀ place target, tree.entry place = some (.link target) →
    (absolute place).length < pathMax →
      ∃ given, calls.readlink (absolute place) = .ok given ∧ given.val = target

namespace Tree

variable {tree : Tree} {cwd : List Text} {calls : Calls} {path : Text}

theorem properOf {place : List Text} (exists_ : (tree.entry place).isSome) :
    ∀ name ∈ place, Proper name := by
  induction place using List.reverseRecOn with
  | nil => exact nofun
  | append_singleton before last inductionHypothesis =>
      intro name member
      have parent := tree.closed before last exists_
      rcases List.mem_append.mp member with earlier | isLast
      · exact inductionHypothesis (parent ▸ rfl) name earlier
      · rw [List.mem_singleton.mp isLast]
        exact tree.proper before last exists_

theorem node_isSome {place : List Text} {held : Node Text}
    (found : tree.node place = some held) : (tree.entry place).isSome := by
  unfold node at found
  obtain ⟨entry, isEntry, -⟩ := Option.map_eq_some_iff.mp found
  rw [isEntry]
  rfl

theorem node_directory {place : List Text} :
    tree.node place = some .directory ↔ tree.entry place = some .directory := by
  unfold node
  rw [Option.map_eq_some_iff]
  constructor
  · rintro ⟨entry, found, isDirectory⟩
    cases entry with
    | directory => exact found
    | file => cases isDirectory
    | link target => cases isDirectory
  · exact fun found => ⟨_, found, rfl⟩

/-- What holds something is in a directory. -/
theorem node_closed {place : List Text} {name : Text} {held : Node Text}
    (found : tree.node (place ++ [name]) = some held) : tree.node place = some .directory :=
  node_directory.mpr (tree.closed place name (node_isSome found))

/-- A place that a walk came to is a directory or a file. -/
theorem entry_of_standing {place : List Text} (standing : Standing tree.node place) :
    tree.entry place = some .directory ∨ tree.entry place = some .file := by
  by_cases atRoot : place = []
  · rw [atRoot]
    exact .inl tree.root
  · obtain ⟨held, found, plain⟩ := standing place (List.prefix_refl place) atRoot
    unfold node at found
    obtain ⟨entry, isEntry, rfl⟩ := Option.map_eq_some_iff.mp found
    cases entry with
    | directory => exact .inl isEntry
    | file => exact .inr isEntry
    | link target => exact absurd trivial plain

/-- The calls show the walk what the tree holds. -/
theorem node_of_serves {place : List Text} {name : Text} {held : Node Text}
    (serves : calls.Serves tree cwd) (standing : Standing tree.node place)
    (proper : Proper name) (found : calls.node (place ++ [name]) = some held) :
    tree.node (place ++ [name]) = some held := by
  unfold Calls.node at found
  by_cases fits : (absolute (place ++ [name])).length < pathMax
  · cases holds : tree.entry (place ++ [name]) with
    | none =>
        obtain ⟨errno, fails⟩ := serves.missing place name (entry_of_standing standing) proper holds
        rw [fails] at found
        cases found
    | some entry =>
        have lstat := serves.found _ entry holds fits
        unfold node
        rw [holds, Option.map_some]
        rw [lstat] at found
        cases entry with
        | directory => exact found
        | file => exact found
        | link target =>
            obtain ⟨given, readlink, same⟩ := serves.readlink _ target holds fits
            dsimp only [Entry.kind] at found
            rw [readlink] at found
            dsimp only at found
            rw [same] at found
            exact found
  · obtain ⟨errno, fails⟩ := serves.long _ (Nat.not_lt.mp fits)
    rw [fails] at found
    cases found

theorem advance_of_serves {before after : Config Text} (serves : calls.Serves tree cwd)
    (standing : Standing tree.node before.place) (proper : ProperParts before.parts)
    (step : advance calls.node before = some after) : advance tree.node before = some after := by
  obtain ⟨place, rest, links⟩ := before
  match rest, step with
  | .self :: rest, step => exact step
  | .parent :: rest, step => exact step
  | .name name :: rest, step =>
      rw [advance_name] at step ⊢
      obtain ⟨held, found, arrived⟩ := Option.map_eq_some_iff.mp step
      rw [node_of_serves serves standing (proper name List.mem_cons_self) found, Option.map_some,
        arrived]

theorem properParts_advance {before after : Config Text} (proper : ProperParts before.parts)
    (step : advance tree.node before = some after) : ProperParts after.parts := by
  obtain ⟨place, rest, links⟩ := before
  match rest, step with
  | .self :: rest, rfl => exact fun name member => proper name (List.mem_cons_of_mem _ member)
  | .parent :: rest, rfl => exact fun name member => proper name (List.mem_cons_of_mem _ member)
  | .name name :: rest, step =>
      rw [advance_name] at step
      obtain ⟨held, found, rfl⟩ := Option.map_eq_some_iff.mp step
      obtain ⟨entry, holds, rfl⟩ := Option.map_eq_some_iff.mp found
      have later : ProperParts rest := fun name member => proper name (List.mem_cons_of_mem _ member)
      cases entry with
      | directory => exact later
      | file => exact later
      | link target => exact (properParts_parts target).append later

/-- The walk that the calls show is one over the tree. -/
theorem walks_of_serves {start finish : Config Text} (serves : calls.Serves tree cwd)
    (walks : Walks calls.node start finish) (standing : Standing tree.node start.place)
    (proper : ProperParts start.parts) :
    Walks tree.node start finish ∧ Standing tree.node finish.place ∧ ProperParts finish.parts := by
  induction walks with
  | refl => exact ⟨.refl, standing, proper⟩
  | tail _ step inductionHypothesis =>
      obtain ⟨walked, stands, properNow⟩ := inductionHypothesis
      have stepped := advance_of_serves serves stands properNow step
      exact ⟨walked.tail stepped, stands.advance stepped, properParts_advance properNow stepped⟩

/-! ## Paths of places -/

/-- What is above something is a directory. -/
theorem directory_above {first : Text} (base more : List Text)
    (holds : (tree.entry (base ++ first :: more)).isSome) :
    tree.entry base = some .directory := by
  induction more using List.reverseRecOn with
  | nil => exact tree.closed base first holds
  | append_singleton before last inductionHypothesis =>
      rw [← List.cons_append, ← List.append_assoc] at holds
      exact inductionHypothesis (tree.closed _ last holds ▸ rfl)

/-- Down from a place, every place on the way is a directory. -/
theorem walksChecked_down {place : List Text} (base : List Text) (rest : List (Segment Text))
    (links : Nat) {entry : Entry} (holds : tree.entry (base ++ place) = some entry)
    (plain : entry.kind ≠ .link) :
    WalksChecked tree.node ⟨base, place.map .name ++ rest, links⟩ ⟨base ++ place, rest, links⟩ := by
  induction place generalizing base with
  | nil =>
      rw [List.append_nil, List.map_nil, List.nil_append]
      exact .refl
  | cons first more inductionHypothesis =>
      have above := directory_above base more (Option.isSome_of_eq_some holds)
      have next : ∃ held, tree.entry (base ++ [first]) = some held ∧ held.kind ≠ .link := by
        cases more with
        | nil => exact ⟨entry, holds, plain⟩
        | cons second others =>
            rw [List.append_cons] at holds
            exact ⟨_, directory_above (base ++ [first]) others (Option.isSome_of_eq_some holds), nofun⟩
      obtain ⟨held, found, heldPlain⟩ := next
      have step : advance tree.node ⟨base, .name first :: (more.map .name ++ rest), links⟩ =
          some ⟨base ++ [first], more.map .name ++ rest, links⟩ := by
        rw [advance_name]
        unfold node
        rw [found]
        cases held with
        | directory => rfl
        | file => rfl
        | link target => exact absurd rfl heldPlain
      rw [List.append_cons] at holds ⊢
      exact .head ⟨node_directory.mpr above, step⟩ (inductionHypothesis (base ++ [first]) holds)

theorem names_absolute {place : List Text} (proper : ∀ name ∈ place, Proper name) :
    names (absolute place) = place := by
  induction place using List.reverseRecOn with
  | nil => rfl
  | append_singleton before last inductionHypothesis =>
      have earlier : names (before.flatMap fun name => '/' :: name) = before := by
        have same := inductionHypothesis fun name member =>
          proper name (List.mem_append_left _ member)
        unfold absolute at same
        split at same
        next atRoot =>
          rw [atRoot]
          rfl
        next => exact same
      have ends := proper last (List.mem_append_right _ (List.mem_singleton_self last))
      rw [absolute_append, names_append, earlier, names_component ends.nonempty ends.noSlash]

theorem map_partOf {place : List Text} (proper : ∀ name ∈ place, Proper name) :
    place.map partOf = place.map .name :=
  List.map_congr_left fun name member => partOf_proper (proper name member)

theorem parts_absolute {place : List Text} (proper : ∀ name ∈ place, Proper name) :
    parts (absolute place) = place.map .name := by
  unfold parts
  rw [names_absolute proper, map_partOf proper, if_neg, List.append_nil]
  rintro ⟨below, slash⟩
  refine absolute_getLast proper (fun atRoot => below ?_) slash
  rw [← names_absolute proper, atRoot]
  rfl

theorem names_relative {head : Char} (relative : head ≠ '/') (rest : Text) :
    names (head :: rest) ≠ [] := by
  have more : (head :: rest).dropWhile (· = '/') ≠ [] := by
    rw [List.dropWhile_cons_of_neg (by simpa using relative)]
    exact List.cons_ne_nil _ _
  rw [(cut_dropWhile more).names]
  exact List.cons_ne_nil _ _

/-- The parts of a relative path, behind a place. -/
theorem parts_behind {place : List Text} {head : Char} (proper : ∀ name ∈ place, Proper name)
    (relative : head ≠ '/') (rest : Text) :
    parts (absolute place ++ '/' :: head :: rest) = place.map .name ++ parts (head :: rest) := by
  have some_ := names_relative relative rest
  unfold parts
  rw [names_append, names_absolute proper, List.map_append, map_partOf proper,
    List.append_assoc]
  have last : (absolute place ++ '/' :: head :: rest).getLast? = (head :: rest).getLast? := by
    rw [List.append_cons, List.getLast?_append_of_ne_nil _ (List.cons_ne_nil _ _)]
  rw [last]
  simp [some_]

/-- The loop's walk begins with the way down to the current directory. -/
theorem walks_start (serves : calls.Serves tree cwd) (nonempty : path ≠ [])
    (known : path.head? = some '/' ∨ ∃ directory, calls.getcwd = .ok directory) :
    Walks tree.node (calls.start path) (origin cwd path) := by
  unfold Calls.start origin Calls.fullPath
  by_cases whole : path.head? = some '/'
  · rw [if_pos whole, if_pos whole]
    exact .refl
  · obtain ⟨directory, getcwd⟩ := known.resolve_left whole
    rw [if_neg whole, if_neg whole, getcwd]
    dsimp only
    rw [serves.getcwd directory getcwd]
    obtain ⟨head, rest, rfl⟩ := List.exists_cons_of_ne_nil nonempty
    have relative : head ≠ '/' := by simpa using whole
    rw [parts_behind (properOf (Option.isSome_of_eq_some serves.inside)) relative]
    exact (walksChecked_down [] (parts (head :: rest)) 0 serves.inside nofun).walks

/-- The kernel's lookup of a result comes to the place it names. -/
theorem lookup_absolute {place : List Text} {entry : Entry}
    (holds : tree.entry place = some entry) (plain : entry.kind ≠ .link) :
    tree.Lookup cwd (absolute place) place := by
  have proper := properOf (Option.isSome_of_eq_some holds)
  have head : (absolute place).head? = some '/' := by
    cases place with
    | nil => rfl
    | cons first rest => rfl
  refine ⟨fun empty => ?_, 0, Nat.zero_le _, ?_⟩
  · rw [empty] at head
    cases head
  · unfold origin
    rw [if_pos head, parts_absolute proper]
    have down := walksChecked_down [] [] 0 holds plain
    rw [List.append_nil] at down
    exact down

/-- A walk that ends leaves a directory for a name, and for what stays or goes up when the
dots are behind directories. -/
theorem checked_of_dots {place : List Text} {links : Nat} {config : Config Text}
    (dots : tree.DotsAtDirectories cwd path)
    (lookup : Walks tree.node (origin cwd path) ⟨place, [], links⟩)
    (toward : Walks tree.node (origin cwd path) config) (unfinished : config.parts ≠ []) :
    Checked tree.node config := by
  have onward := lookup.continues rfl toward
  obtain ⟨here, left, followed⟩ := config
  obtain ⟨part, rest, rfl⟩ := List.exists_cons_of_ne_nil unfinished
  cases part with
  | self => exact node_directory.mpr (dots here _ rest followed toward (.inl rfl))
  | parent => exact node_directory.mpr (dots here _ rest followed toward (.inr rfl))
  | name name =>
      cases onward.cases_head with
      | inl same => cases same
      | inr step =>
          obtain ⟨next, advanced, -⟩ := step
          rw [advance_name] at advanced
          obtain ⟨held, found, -⟩ := Option.map_eq_some_iff.mp advanced
          exact node_closed found

end Tree

theorem succeeds_path {calls : Calls} {path result : Text} {resolved : Bool} {rounds : Nat}
    (succeeds : lunaBbRealpath calls path resolved rounds = some (.ok result)) :
    path ≠ [] ∧ (path.head? = some '/' ∨ ∃ directory, calls.getcwd = .ok directory) := by
  unfold lunaBbRealpath at succeeds
  cases path with
  | nil => cases succeeds
  | cons head rest =>
      refine ⟨List.cons_ne_nil _ _, ?_⟩
      by_cases whole : head = '/'
      · exact .inl (by rw [whole, List.head?_cons])
      · rw [pending_relative whole] at succeeds
        cases getcwd : calls.getcwd with
        | error errno =>
            rw [getcwd] at succeeds
            cases succeeds
        | ok directory => exact .inr ⟨directory, rfl⟩

/-- Where `luna_bb_realpath` succeeds, the kernel's lookup of the path succeeds and comes
to what the result names exactly when `.`, `..` and slashes at the end come behind
directories only. -/
theorem realpath_lookup_iff {calls : Calls} {tree : Tree} {cwd : List Text} {path result : Text}
    {resolved : Bool} {rounds : Nat} (serves : calls.Serves tree cwd)
    (succeeds : lunaBbRealpath calls path resolved rounds = some (.ok result)) :
    (∃ place, tree.Lookup cwd path place ∧ tree.Lookup cwd result place) ↔
      tree.DotsAtDirectories cwd path := by
  obtain ⟨nonempty, known⟩ := succeeds_path succeeds
  obtain ⟨place, links, rfl, -, few, -, -, -, walks⟩ := canonical_of_succeeds succeeds
  obtain ⟨walks, standing, -⟩ := Tree.walks_of_serves serves walks standing_root
    (properParts_parts _)
  have lookup := Walks.continues walks rfl (Tree.walks_start serves nonempty known)
  constructor
  · rintro ⟨_, ⟨-, _, -, checked⟩, -⟩ here part rest followed toward -
    have directories := (walksChecked_iff checked.walks rfl).mp checked
    exact Tree.node_directory.mp (directories _ toward (List.cons_ne_nil _ _))
  · intro dots
    have checked := (walksChecked_iff lookup rfl).mpr fun config toward unfinished =>
      Tree.checked_of_dots dots lookup toward unfinished
    refine ⟨place, ⟨nonempty, links, few, checked⟩, ?_⟩
    rcases Tree.entry_of_standing standing with directory | file
    · exact Tree.lookup_absolute directory nofun
    · exact Tree.lookup_absolute file nofun

/-! ## A directory of files and links -/

/-- The root with the given entries, which are in one directory. -/
def flatEntry (entries : List (Text × Entry)) : List Text → Option Entry
  | [] => some .directory
  | [name] => entries.lookup name
  | _ => none

theorem mem_of_lookup {entries : List (Text × Entry)} {name : Text} {entry : Entry}
    (found : entries.lookup name = some entry) : (name, entry) ∈ entries := by
  obtain ⟨before, after, rfl, -⟩ := List.lookup_eq_some_iff.mp found
  exact List.mem_append_right _ List.mem_cons_self

def Tree.flat (entries : List (Text × Entry)) (proper : ∀ pair ∈ entries, Proper pair.1)
    (short : ∀ name target, (name, .link target) ∈ entries → target.length ≤ pathMax - 1) :
    Tree where
  entry := flatEntry entries
  root := rfl
  closed place name holds := by
    match place, holds with
    | [], _ => rfl
    | [first], holds => cases holds
    | first :: second :: rest, holds => cases holds
  proper place name holds := by
    match place, holds with
    | [], holds =>
        obtain ⟨entry, found⟩ := Option.isSome_iff_exists.mp holds
        exact proper _ (mem_of_lookup found)
    | [first], holds => cases holds
    | first :: second :: rest, holds => cases holds
  short place target holds := by
    match place, holds with
    | [name], holds => exact short name target (mem_of_lookup holds)

/-- The calls of a kernel that serves a tree to a process at the root. -/
def Tree.calls (tree : Tree) : Calls where
  getcwd := .ok rootDirectory
  lstat text :=
    if pathMax ≤ text.length then .error 36
    else
      match tree.entry (names text) with
      | none => .error 2
      | some entry => .ok entry.kind
  readlink text :=
    match held : tree.entry (names text) with
    | some (.link target) => .ok ⟨target, tree.short _ _ held⟩
    | _ => .error 22
  malloc _ := true

theorem Tree.calls_serves (tree : Tree) : tree.calls.Serves tree [] where
  inside := tree.root
  getcwd directory known := by
    cases known
    rfl
  found place entry holds fits := by
    have proper := Tree.properOf (Option.isSome_of_eq_some holds)
    unfold Tree.calls
    dsimp only
    rw [if_neg (Nat.not_le.mpr fits), names_absolute proper, holds]
  missing place name above proper holds := by
    have allProper : ∀ other ∈ place ++ [name], Proper other := by
      intro other member
      rcases List.mem_append.mp member with earlier | last
      · rcases above with directory | file
        · exact Tree.properOf (Option.isSome_of_eq_some directory) other earlier
        · exact Tree.properOf (Option.isSome_of_eq_some file) other earlier
      · rw [List.mem_singleton.mp last]
        exact proper
    unfold Tree.calls
    dsimp only
    split
    · exact ⟨_, rfl⟩
    · rw [names_absolute allProper, holds]
      exact ⟨_, rfl⟩
  long place tooLong := by
    unfold Tree.calls
    dsimp only
    rw [if_pos tooLong]
    exact ⟨_, rfl⟩
  readlink place target holds fits := by
    have proper := Tree.properOf (Option.isSome_of_eq_some holds)
    have same : tree.entry (names (absolute place)) = some (.link target) := by
      rw [names_absolute proper, holds]
    unfold Tree.calls
    dsimp only
    split
    next other held =>
      rw [same] at held
      cases held
      exact ⟨_, rfl, rfl⟩
    next other => exact absurd same (other target)

/-- A directory `d`, a link `l` to it and a file `f`. -/
def sampleTree : Tree :=
  .flat [(['d'], .directory), (['l'], .link ['d']), (['f'], .file)]
    (by
      intro pair member
      simp only [List.mem_cons, List.not_mem_nil, or_false] at member
      rcases member with rfl | rfl | rfl <;> exact ⟨by decide, by decide, by decide, by decide⟩)
    (by
      intro name target member
      simp at member
      rw [member.2]
      decide)

/-- The path `/l/../f` goes through a link to a directory, up and to the file. -/
theorem realpath_lookup_through_link :
    sampleTree.DotsAtDirectories [] ['/', 'l', '/', '.', '.', '/', 'f'] := by
  have succeeds : lunaBbRealpath sampleTree.calls ['/', 'l', '/', '.', '.', '/', 'f'] true 5 =
      some (.ok ['/', 'f']) := by
    rfl
  refine (realpath_lookup_iff sampleTree.calls_serves succeeds).mp ⟨[['f']], ⟨nofun, 1, by decide,
    ?_⟩, ⟨nofun, 0, by decide, ?_⟩⟩
  · exact .head ⟨rfl, rfl⟩ (.head ⟨rfl, rfl⟩ (.head ⟨rfl, rfl⟩ (.head ⟨rfl, rfl⟩ .refl)))
  · exact .head ⟨rfl, rfl⟩ .refl

/-- The path `/f/.` is resolved to `/f`, but the kernel finds nothing behind a file. -/
theorem realpath_resolves_behind_file :
    ¬ ∀ calls tree cwd path result resolved rounds, Calls.Serves calls tree cwd →
      lunaBbRealpath calls path resolved rounds = some (.ok result) →
      ∃ place, Tree.Lookup tree cwd path place ∧ tree.Lookup cwd result place := by
  intro all
  have succeeds : lunaBbRealpath sampleTree.calls ['/', 'f', '/', '.'] true 3 =
      some (.ok ['/', 'f']) := by
    rfl
  obtain ⟨place, ⟨-, links, -, checked⟩, -⟩ := all _ sampleTree [] _ _ true 3
    sampleTree.calls_serves succeeds
  have toward : Walks sampleTree.node (origin [] ['/', 'f', '/', '.'])
      ⟨[['f']], [.self], 0⟩ := .head rfl .refl
  have directory := (walksChecked_iff checked.walks rfl).mp checked _ toward
    (List.cons_ne_nil _ _)
  cases directory

end Luna.Realpath
