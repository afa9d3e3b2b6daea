import Mathlib.Data.List.TakeWhile
import Luna.Realpath.Walk

/-!
# Canonical paths

What `luna_bb_realpath` is for: the walk over the parts of a path, one component at a
time, where `lstat` and `readlink` say what a place holds.
-/

namespace Luna.Realpath

open PathResolution

/-- The components of a string. -/
def names (text : Text) : List Text := (text.splitOn '/').filter (· ≠ [])

def partOf (name : Text) : Segment Text :=
  if name = ['.'] then .self else if name = ['.', '.'] then .parent else .name name

/-- The parts of a path; slashes at its end stand for `.` there. -/
def parts (text : Text) : List (Segment Text) :=
  (names text).map partOf ++
    if names text ≠ [] ∧ text.getLast? = some '/' then [.self] else []

/-- The path of a place. -/
def absolute (place : List Text) : Text :=
  if place = [] then ['/'] else place.flatMap fun name => '/' :: name

/-- What a place holds. -/
def Calls.node (calls : Calls) (place : List Text) : Option (Node Text) :=
  match calls.lstat (absolute place) with
  | .error _ => none
  | .ok .directory => some .directory
  | .ok .file => some .file
  | .ok .link =>
      match calls.readlink (absolute place) with
      | .error _ => none
      | .ok target => some (.link (target.val.head? = some '/') (parts target.val))

/-- The path, behind the current directory when it is relative. -/
def Calls.fullPath (calls : Calls) (path : Text) : Text :=
  if path.head? = some '/' then path
  else
    match calls.getcwd with
    | .error _ => path
    | .ok cwd => cwd.text ++ '/' :: path

def Calls.start (calls : Calls) (path : Text) : Config Text :=
  ⟨[], parts (calls.fullPath path), 0⟩

/-- A component that is neither empty nor `.` nor `..`. -/
structure Proper (name : Text) : Prop where
  nonempty : name ≠ []
  noSlash : '/' ∉ name
  notSelf : name ≠ ['.']
  notParent : name ≠ ['.', '.']

/-- A place's path with proper components fits and is that to which the path resolves;
below the root `lstat` finds every prefix and no link. -/
def Calls.Canonical (calls : Calls) (path result : Text) : Prop :=
  ∃ place links, result = absolute place ∧ result.length < pathMax ∧ links ≤ 40 ∧
    (∀ name ∈ place, Proper name) ∧ (result ≠ ['/'] → result.getLast? ≠ some '/') ∧
    (∀ before, before <+: place → before ≠ [] → ∃ kind, calls.lstat (absolute before) = .ok kind ∧
      kind ≠ .link) ∧
    Walks calls.node (calls.start path) ⟨place, [], links⟩

/-- After forty links the walk comes to another. -/
def Calls.MeetsLink (calls : Calls) (path : Text) : Prop :=
  ∃ place name rest, Walks calls.node (calls.start path) ⟨place, .name name :: rest, 40⟩ ∧
    calls.lstat (absolute (place ++ [name])) = .ok .link

/-- What an outcome of `luna_bb_realpath` has to mean. -/
def Calls.Right (calls : Calls) (path : Text) : Except Failure Text → Prop
  | .ok result => calls.Canonical path result
  | .error .loop => calls.MeetsLink path
  | .error (.tooLong text) => pathMax ≤ text.length
  | .error .overrun => False
  | .error _ => True

/-! ## Components of strings -/

variable {text : Text} {name : Text}

@[simp] theorem names_nil : names [] = [] := rfl

theorem names_append (first second : Text) :
    names (first ++ '/' :: second) = names first ++ names second := by
  unfold names
  rw [List.splitOn_append_cons_self, List.filter_append]

@[simp] theorem names_slash (text : Text) : names ('/' :: text) = names text :=
  names_append [] text

theorem names_dropWhile (text : Text) : names (text.dropWhile (· = '/')) = names text := by
  induction text with
  | nil => rfl
  | cons head rest inductionHypothesis =>
      by_cases slash : head = '/'
      · rw [List.dropWhile_cons_of_pos (by simpa using slash), inductionHypothesis, slash,
          names_slash]
      · rw [List.dropWhile_cons_of_neg (by simpa using slash)]

theorem names_component (nonempty : name ≠ []) (noSlash : '/' ∉ name) : names name = [name] := by
  unfold names
  rw [List.splitOn_eq_singleton noSlash, List.filter_cons_of_pos (by simpa using nonempty),
    List.filter_nil]

theorem names_replacement (target remainder : Text) :
    names (replacement target remainder) = names target ++ names remainder := by
  unfold replacement
  split
  next nothing => rw [nothing, names_nil, List.append_nil]
  next something => exact names_append target remainder

theorem significant_parts (text : Text) :
    significant (parts text) = significant ((names text).map partOf) := by
  unfold parts
  rw [significant_append]
  split
  · rw [significant_self]
    exact List.append_nil _
  · exact List.append_nil _

theorem partOf_proper (proper : Proper name) : partOf name = .name name := by
  unfold partOf
  rw [if_neg proper.notSelf, if_neg proper.notParent]

/-- What a round cuts out of the string at the cursor. -/
structure Cut (cursor component after : Text) : Prop where
  nonempty : component ≠ []
  noSlash : '/' ∉ component
  names : names cursor = component :: names after
  shorter : after.length < cursor.length
  remainder : Luna.Realpath.names after.tail = Luna.Realpath.names after

theorem cut_dropWhile {cursor : Text} (more : cursor.dropWhile (· = '/') ≠ []) :
    Cut cursor ((cursor.dropWhile (· = '/')).takeWhile (· ≠ '/'))
      ((cursor.dropWhile (· = '/')).dropWhile (· ≠ '/')) := by
  have drops : (cursor.dropWhile (· = '/')).length ≤ cursor.length :=
    (List.dropWhile_suffix _).length_le
  have sameNames := names_dropWhile cursor
  have first := List.head_dropWhile_not (fun head => decide (head = '/')) more
  generalize cursor.dropWhile (· = '/') = text at more drops sameNames first ⊢
  have noSlash : '/' ∉ text.takeWhile (· ≠ '/') := by
    intro member
    have passed := List.mem_takeWhile_imp member
    simp at passed
  have nonempty : text.takeWhile (· ≠ '/') ≠ [] := by
    obtain ⟨head, rest, rfl⟩ := List.exists_cons_of_ne_nil more
    rw [List.head_cons] at first
    rw [List.takeWhile_cons_of_pos (by simpa using first)]
    exact List.cons_ne_nil _ _
  have whole : text.takeWhile (· ≠ '/') ++ text.dropWhile (· ≠ '/') = text :=
    List.takeWhile_append_dropWhile
  have lengths := congrArg List.length whole
  rw [List.length_append] at lengths
  have taken := List.length_pos_of_ne_nil nonempty
  have after : text.dropWhile (· ≠ '/') = [] ∨
      text.dropWhile (· ≠ '/') = '/' :: (text.dropWhile (· ≠ '/')).tail := by
    cases rest : text.dropWhile (· ≠ '/') with
    | nil => exact .inl rfl
    | cons head tail =>
        have stopped := List.head_dropWhile_not (fun head => decide (head ≠ '/'))
          (rest ▸ List.cons_ne_nil head tail)
        simp only [rest, List.head_cons, decide_eq_false_iff_not, not_not] at stopped
        exact .inr (by rw [stopped, List.tail_cons])
  generalize text.takeWhile (· ≠ '/') = component at *
  generalize text.dropWhile (· ≠ '/') = rest at *
  refine ⟨nonempty, noSlash, ?_, by omega, ?_⟩
  · rw [← sameNames, ← whole]
    rcases after with nothing | something
    · rw [nothing, List.append_nil, names_component nonempty noSlash, names_nil]
    · rw [something, names_append, names_component nonempty noSlash, names_slash]
      rfl
  · rcases after with nothing | something
    · rw [nothing]
      rfl
    · rw [something, List.tail_cons, names_slash]

/-! ## The output -/

variable {place : List Text}

theorem absolute_cons (name : Text) (place : List Text) :
    absolute (name :: place) = '/' :: name ++ place.flatMap fun name => '/' :: name := by
  unfold absolute
  rw [if_neg (List.cons_ne_nil _ _), List.flatMap_cons]

/-- Appending a component to the output is going down. -/
theorem extend_absolute (proper : ∀ name ∈ place, Proper name) (name : Text) :
    extend (absolute place) name = absolute (place ++ [name]) := by
  cases place with
  | nil => exact (List.append_nil ('/' :: name)).symm
  | cons first rest =>
      have long : 1 < (absolute (first :: rest)).length := by
        have positive := List.length_pos_of_ne_nil (proper first List.mem_cons_self).nonempty
        rw [absolute_cons, List.length_append, List.length_cons]
        omega
      unfold extend
      rw [if_pos long, List.cons_append, absolute_cons, absolute_cons, List.flatMap_append,
        List.flatMap_singleton, List.append_assoc]

theorem strrchr_none {character : Char} {text : Text} (absent : character ∉ text) :
    strrchr character text = none := by
  induction text with
  | nil => rfl
  | cons head rest inductionHypothesis =>
      rw [List.mem_cons, not_or] at absent
      unfold strrchr
      rw [inductionHypothesis absent.2]
      exact if_neg (Ne.symm absent.1)

theorem strrchr_append {character : Char} {after : Text} (before : Text)
    (absent : character ∉ after) :
    strrchr character (before ++ character :: after) = some before.length := by
  induction before with
  | nil =>
      rw [List.nil_append]
      unfold strrchr
      rw [strrchr_none absent]
      exact if_pos rfl
  | cons head rest inductionHypothesis =>
      rw [List.cons_append]
      unfold strrchr
      rw [inductionHypothesis]
      rfl

theorem bbRealpathPop_append {last : Text} (before : Text) (noSlash : '/' ∉ last) :
    bbRealpathPop (before ++ '/' :: last) = if before = [] then ['/'] else before := by
  unfold bbRealpathPop
  rw [strrchr_append before noSlash]
  cases before with
  | nil => rfl
  | cons head rest => exact List.take_left

theorem absolute_append (place : List Text) (last : Text) :
    absolute (place ++ [last]) = (place.flatMap fun name => '/' :: name) ++ '/' :: last := by
  unfold absolute
  rw [if_neg (by simp), List.flatMap_append, List.flatMap_singleton]

/-- `bb_realpath_pop` goes up. -/
theorem bbRealpathPop_absolute (proper : ∀ name ∈ place, Proper name) :
    bbRealpathPop (absolute place) = absolute place.dropLast := by
  rcases List.eq_nil_or_concat place with rfl | ⟨before, last, rfl⟩
  · rfl
  · have noSlash := (proper last (by simp)).noSlash
    rw [List.concat_eq_append, List.dropLast_concat, absolute_append,
      bbRealpathPop_append _ noSlash]
    unfold absolute
    cases before with
    | nil => rfl
    | cons first rest => rfl

theorem absolute_getLast (proper : ∀ name ∈ place, Proper name) (below : absolute place ≠ ['/']) :
    (absolute place).getLast? ≠ some '/' := by
  rcases List.eq_nil_or_concat place with rfl | ⟨before, last, rfl⟩
  · exact absurd rfl below
  · have ends := proper last (by simp)
    rw [List.concat_eq_append, absolute_append, List.append_cons,
      List.getLast?_append_of_ne_nil _ ends.nonempty]
    intro slash
    exact ends.noSlash (List.mem_of_getLast? slash)

/-! ## A round of the loop -/

variable {calls : Calls} {path : Text} {walk : Walk}

/-- The place, `rest` of the parts and the loop's state belong together. -/
structure Calls.Follows (calls : Calls) (path : Text) (walk : Walk) (place : List Text)
    (rest : List (Segment Text)) : Prop where
  walks : Walks calls.node (calls.start path) ⟨place, rest, walk.links⟩
  output : walk.output = absolute place
  proper : ∀ name ∈ place, Proper name
  pending : significant rest = significant ((names walk.cursor).map partOf)
  links : walk.links ≤ 40
  fits : walk.output.length < pathMax
  cursorFits : walk.cursor.length < pathMax

/-- Rounds left at most. -/
def Walk.rank (walk : Walk) : Nat := (40 - walk.links) * pathMax + walk.cursor.length

/-- What a round has to come to. -/
def Calls.RoundRight (calls : Calls) (path : Text) (walk : Walk) :
    Except Failure Round → Prop
  | .error failure => calls.Right path (.error failure)
  | .ok (.done output) => calls.Canonical path output
  | .ok (.next later) =>
      (∃ place rest, calls.Follows path later place rest) ∧ later.rank < walk.rank

theorem strcpy_ok {text : Text} (fits : text.length < pathMax) : strcpy text = .ok text :=
  if_pos fits

theorem extend_length (output component : Text) : (extend output component).length =
    output.length + (if 1 < output.length then 1 else 0) + component.length := by
  unfold extend
  split
  · rw [List.length_append, List.length_cons]
    omega
  · rw [List.length_append]
    omega

theorem replacement_length (target remainder : Text) : (replacement target remainder).length =
    target.length + (if remainder ≠ [] then 1 else 0) + remainder.length := by
  unfold replacement
  split
  next nothing => simp [nothing]
  next something =>
    rw [List.length_append, List.length_cons]
    omega

theorem node_link {place : List Text} {target : Fitting (pathMax - 1)}
    (lstat : calls.lstat (absolute place) = .ok .link)
    (readlink : calls.readlink (absolute place) = .ok target) :
    calls.node place = some (.link (target.val.head? = some '/') (parts target.val)) := by
  unfold Calls.node
  rw [lstat, readlink]

/-- A place that the walk came to holds something that is no link. -/
theorem node_plain {place : List Text} {node : Node Text} (found : calls.node place = some node)
    (plain : ¬ node.IsLink) : ∃ kind, calls.lstat (absolute place) = .ok kind ∧ kind ≠ .link := by
  unfold Calls.node at found
  split at found
  next => cases found
  next lstat => exact ⟨_, lstat, nofun⟩
  next lstat => exact ⟨_, lstat, nofun⟩
  next lstat =>
    split at found
    next => cases found
    next =>
      cases found
      exact absurd trivial plain

theorem Calls.Follows.canonical {rest : List (Segment Text)}
    (follows : calls.Follows path walk place rest)
    (ended : significant rest = []) : calls.Canonical path walk.output := by
  have walks : Walks calls.node (calls.start path) ⟨place, [], walk.links⟩ :=
    follows.walks.trans (walks_nil ended)
  have standing := walks.standing standing_root
  refine ⟨place, walk.links, follows.output, follows.fits, follows.links, follows.proper, ?_, ?_,
    walks⟩
  · rw [follows.output]
    exact absolute_getLast follows.proper
  · intro before ahead below
    obtain ⟨node, found, plain⟩ := standing before ahead below
    exact node_plain found plain

/-- The cut of a round, in the parts of the walk. -/
theorem Calls.Follows.head {rest : List (Segment Text)} {component after : Text}
    (follows : calls.Follows path walk place rest) (cut : Cut walk.cursor component after) :
    significant rest = significant (partOf component :: (names after).map partOf) := by
  rw [follows.pending, cut.names, List.map_cons]

theorem Walk.rank_shorter {after output : Text} (shorter : after.length < walk.cursor.length) :
    Walk.rank ⟨after, output, walk.links⟩ < walk.rank := by
  unfold Walk.rank
  dsimp only
  omega

theorem Walk.rank_expanded {pending output : Text} (fits : pending.length < pathMax)
    (links : walk.links < 40) : Walk.rank ⟨pending, output, walk.links + 1⟩ < walk.rank := by
  unfold Walk.rank
  dsimp only
  have fewer : 40 - walk.links = 40 - (walk.links + 1) + 1 := by omega
  rw [fewer, Nat.succ_mul]
  omega

theorem bbRealpathPop_fits {path : Text} (fits : path.length < pathMax) :
    (bbRealpathPop path).length < pathMax := by
  unfold bbRealpathPop
  split
  · decide
  · decide
  · exact (List.length_take_le' ..).trans_lt fits

/-- A component `.` stays where it is. -/
theorem Calls.Follows.self {rest : List (Segment Text)} {after : Text}
    (follows : calls.Follows path walk place rest) (cut : Cut walk.cursor ['.'] after) :
    calls.Follows path { walk with cursor := after } place rest := by
  have stays : significant (partOf ['.'] :: (names after).map partOf) =
      significant ((names after).map partOf) := significant_self _
  exact { follows with
    pending := (follows.head cut).trans stays
    cursorFits := cut.shorter.trans follows.cursorFits }

/-- A component `..` goes up. -/
theorem Calls.Follows.parent {rest : List (Segment Text)} {after : Text}
    (follows : calls.Follows path walk place rest) (cut : Cut walk.cursor ['.', '.'] after) :
    ∃ later, calls.Follows path
      { walk with cursor := after, output := bbRealpathPop walk.output } place.dropLast later := by
  have moves : (.parent : Segment Text) ≠ .self := nofun
  have goes : significant (partOf ['.', '.'] :: (names after).map partOf) =
      .parent :: significant ((names after).map partOf) := significant_cons moves _
  obtain ⟨later, walks, pending⟩ := walks_cons calls.node place walk.links
    ((follows.head cut).trans goes)
  have popped : bbRealpathPop walk.output = absolute place.dropLast := by
    rw [follows.output, bbRealpathPop_absolute follows.proper]
  have proper : ∀ name ∈ place.dropLast, Proper name :=
    fun name member => follows.proper name (List.mem_of_mem_dropLast member)
  exact ⟨later, (follows.walks.trans walks).tail rfl, popped, proper, pending, follows.links,
    bbRealpathPop_fits follows.fits, cut.shorter.trans follows.cursorFits⟩

/-- The parts from a proper component on, at the place below. -/
theorem Calls.Follows.below {rest : List (Segment Text)} {component after : Text}
    (follows : calls.Follows path walk place rest) (cut : Cut walk.cursor component after)
    (proper : Proper component) :
    ∃ later, Walks calls.node (calls.start path) ⟨place, .name component :: later, walk.links⟩ ∧
      significant later = significant ((names after).map partOf) ∧
      extend walk.output component = absolute (place ++ [component]) ∧
      ∀ name ∈ place ++ [component], Proper name := by
  have moves : (.name component : Segment Text) ≠ .self := nofun
  have goes : significant (partOf component :: (names after).map partOf) =
      .name component :: significant ((names after).map partOf) := by
    rw [partOf_proper proper, significant_cons moves]
  obtain ⟨later, walks, pending⟩ := walks_cons calls.node place walk.links
    ((follows.head cut).trans goes)
  refine ⟨later, follows.walks.trans walks, pending, ?_, ?_⟩
  · rw [follows.output, extend_absolute follows.proper]
  · intro name member
    rcases List.mem_append.mp member with earlier | last
    · exact follows.proper name earlier
    · rw [List.mem_singleton.mp last]
      exact proper

/-- A component that is a directory or a file goes down. -/
theorem Calls.Follows.down {rest : List (Segment Text)} {component after : Text} {kind : Kind}
    (follows : calls.Follows path walk place rest) (cut : Cut walk.cursor component after)
    (proper : Proper component) (plain : kind ≠ .link)
    (fits : (extend walk.output component).length < pathMax)
    (lstat : calls.lstat (extend walk.output component) = .ok kind) :
    ∃ later, calls.Follows path
      { walk with cursor := after, output := extend walk.output component }
      (place ++ [component]) later := by
  obtain ⟨later, walks, pending, output, allProper⟩ := follows.below cut proper
  have step : advance calls.node ⟨place, .name component :: later, walk.links⟩ =
      some ⟨place ++ [component], later, walk.links⟩ := by
    rw [output] at lstat
    rw [advance_name]
    unfold Calls.node
    rw [lstat]
    cases kind with
    | directory => rfl
    | file => rfl
    | link => exact absurd rfl plain
  exact ⟨later, walks.tail step, output, allProper, pending, follows.links, fits,
    cut.shorter.trans follows.cursorFits⟩

/-- A link that is expanded. -/
theorem Calls.Follows.expand {rest : List (Segment Text)} {component after : Text}
    {target : Fitting (pathMax - 1)} (follows : calls.Follows path walk place rest)
    (cut : Cut walk.cursor component after) (proper : Proper component)
    (lstat : calls.lstat (extend walk.output component) = .ok .link)
    (readlink : calls.readlink (extend walk.output component) = .ok target)
    (links : walk.links < 40) (outputFits : (extend walk.output component).length < pathMax)
    (fits : (replacement target.val after.tail).length < pathMax) :
    ∃ place later, calls.Follows path ⟨replacement target.val after.tail,
      if target.val.head? = some '/' then ['/'] else bbRealpathPop (extend walk.output component),
      walk.links + 1⟩ place later := by
  obtain ⟨later, walks, pending, output, allProper⟩ := follows.below cut proper
  have popped := bbRealpathPop_absolute allProper
  rw [← output, List.dropLast_concat] at popped
  have step : advance calls.node ⟨place, .name component :: later, walk.links⟩ =
      some ⟨if target.val.head? = some '/' then [] else place,
        parts target.val ++ later, walk.links + 1⟩ := by
    rw [output] at lstat readlink
    rw [advance_name, node_link lstat readlink, Option.map_some]
    unfold arrive
    simp only [decide_eq_true_eq]
  refine ⟨_, _, walks.tail step, ?_, ?_, ?_, links, ?_, fits⟩
  · dsimp only
    split
    · rfl
    · exact popped
  · intro name member
    split at member
    · cases member
    · exact follows.proper name member
  · rw [significant_append, significant_parts, pending, names_replacement, cut.remainder,
      List.map_append, significant_append]
  · dsimp only
    split
    · decide
    · exact bbRealpathPop_fits outputFits

theorem expandLink_right {rest : List (Segment Text)} {component after : Text}
    (follows : calls.Follows path walk place rest) (cut : Cut walk.cursor component after)
    (proper : Proper component)
    (lstat : calls.lstat (extend walk.output component) = .ok .link)
    (outputFits : (extend walk.output component).length < pathMax) :
    calls.RoundRight path walk
      (expandLink calls walk (extend walk.output component) after.tail) := by
  unfold expandLink
  split
  next many =>
    obtain ⟨later, walks, -, output, -⟩ := follows.below cut proper
    have forty : walk.links = 40 := by
      have few := follows.links
      omega
    rw [forty] at walks
    rw [output] at lstat
    exact ⟨place, component, later, walks, lstat⟩
  next few =>
    split
    next errno readlink => exact trivial
    next target readlink =>
      have targetFits : target.val.length < pathMax := by
        have bound := target.property
        unfold pathMax at bound ⊢
        omega
      rw [strcpy_ok targetFits]
      simp only [bind, Except.bind]
      rw [← replacement_length]
      split
      next long => exact long
      next short =>
        have fits := Nat.not_le.mp short
        rw [strcpy_ok fits]
        exact ⟨follows.expand cut proper lstat readlink (by omega) outputFits fits,
          Walk.rank_expanded fits (by omega)⟩

/-- A round keeps the loop on the walk and comes nearer to the end. -/
theorem round_right {rest : List (Segment Text)} (follows : calls.Follows path walk place rest) :
    calls.RoundRight path walk (round calls walk) := by
  unfold round
  dsimp only
  split
  next ended =>
    have nothing : names walk.cursor = [] := by rw [← names_dropWhile, ended, names_nil]
    refine follows.canonical ?_
    rw [follows.pending, nothing]
    rfl
  next more =>
    have cut := cut_dropWhile more
    generalize (walk.cursor.dropWhile (· = '/')).takeWhile (· ≠ '/') = component at cut ⊢
    generalize (walk.cursor.dropWhile (· = '/')).dropWhile (· ≠ '/') = after at cut ⊢
    split
    next isSelf =>
      rw [isSelf] at cut
      exact ⟨⟨place, rest, follows.self cut⟩, Walk.rank_shorter cut.shorter⟩
    next notSelf =>
      split
      next isParent =>
        rw [isParent] at cut
        obtain ⟨later, goes⟩ := follows.parent cut
        exact ⟨⟨_, later, goes⟩, Walk.rank_shorter cut.shorter⟩
      next notParent =>
        have proper : Proper component := ⟨cut.nonempty, cut.noSlash, notSelf, notParent⟩
        rw [← extend_length]
        split
        next long => exact long
        next short =>
          have fits := Nat.not_le.mp short
          rw [strcpy_ok fits]
          simp only [bind, Except.bind]
          split
          next errno lstat => exact trivial
          next lstat => exact expandLink_right follows cut proper lstat fits
          next kind plain lstat =>
            obtain ⟨later, goes⟩ := follows.down cut proper plain fits lstat
            exact ⟨⟨_, later, goes⟩, Walk.rank_shorter cut.shorter⟩

/-- The loop stops, and then its outcome is right. -/
theorem run_right (rounds : Nat) {rest : List (Segment Text)}
    (follows : calls.Follows path walk place rest) (enough : walk.rank < rounds) :
    ∃ outcome, calls.Right path outcome ∧
      ∀ more, rounds ≤ more → run calls more walk = some outcome := by
  induction rounds generalizing walk place rest with
  | zero => exact absurd enough (Nat.not_lt_zero _)
  | succ rounds inductionHypothesis =>
      have right := round_right follows
      have unfolds : ∀ more, rounds + 1 ≤ more → ∃ less, rounds ≤ less ∧ more = less + 1 := by
        intro more atLeast
        exact ⟨more - 1, by omega, by omega⟩
      cases taken : round calls walk with
      | error failure =>
          rw [taken] at right
          refine ⟨.error failure, right, fun more atLeast => ?_⟩
          obtain ⟨less, -, rfl⟩ := unfolds more atLeast
          unfold run
          rw [taken]
      | ok result =>
          rw [taken] at right
          cases result with
          | done output =>
              refine ⟨.ok output, right, fun more atLeast => ?_⟩
              obtain ⟨less, -, rfl⟩ := unfolds more atLeast
              unfold run
              rw [taken]
          | next later =>
              obtain ⟨⟨place, rest, goes⟩, nearer⟩ := right
              obtain ⟨outcome, outcomeRight, stops⟩ := inductionHypothesis goes (by omega)
              refine ⟨outcome, outcomeRight, fun more atLeast => ?_⟩
              obtain ⟨less, enoughLess, rfl⟩ := unfolds more atLeast
              unfold run
              rw [taken]
              exact stops less enoughLess

/-! ## The string the loop starts with -/

/-- At the root, the check of a relative path counts a slash that is not put there. -/
def Calls.CountsSlash (calls : Calls) (path : Text) : Prop :=
  path.head? ≠ some '/' ∧ path.length + 2 = pathMax ∧
    ∃ cwd, calls.getcwd = .ok cwd ∧ cwd.text = ['/']

theorem behindCwd_root (path : Text) : behindCwd ['/'] path = '/' :: path := rfl

theorem Directory.long {cwd : Directory} (below : cwd.text ≠ ['/']) : 1 < cwd.text.length := by
  obtain ⟨text, fits, absolute⟩ := cwd
  dsimp only at below ⊢
  match text with
  | [] => cases absolute
  | [first] =>
      cases absolute
      exact absurd rfl below
  | first :: second :: rest =>
      rw [List.length_cons, List.length_cons]
      omega

theorem names_behindCwd (cwd : Directory) (path : Text) :
    names (behindCwd cwd.text path) = names (cwd.text ++ '/' :: path) := by
  by_cases root : cwd.text = ['/']
  · rw [root, behindCwd_root, names_append, names_slash]
    rfl
  · unfold behindCwd
    rw [if_pos (Directory.long root)]

/-- The walk starts at the root with the parts of the whole path. -/
theorem follows_start {cursor : Text} (fits : cursor.length < pathMax)
    (same : names cursor = names (calls.fullPath path)) :
    calls.Follows path ⟨cursor, ['/'], 0⟩ [] (parts (calls.fullPath path)) where
  walks := .refl
  output := rfl
  proper := nofun
  pending := by rw [significant_parts, same]
  links := Nat.zero_le _
  fits := (by decide : (['/'] : Text).length < pathMax)
  cursorFits := fits

/-- What the beginning of `luna_bb_realpath` has to come to. -/
def Calls.PendingRight (calls : Calls) (path : Text) : Except Failure Text → Prop
  | .error failure => calls.Right path (.error failure) ↔ ¬ calls.CountsSlash path
  | .ok cursor => ¬ calls.CountsSlash path ∧ cursor.length < pathMax ∧
      names cursor = names (calls.fullPath path)

theorem pending_absolute (calls : Calls) (rest : Text) : pending calls ('/' :: rest) =
    if pathMax ≤ ('/' :: rest).length then .error (.tooLong ('/' :: rest))
    else strcpy ('/' :: rest) :=
  rfl

theorem pending_relative {head : Char} (relative : head ≠ '/') (rest : Text) :
    pending calls (head :: rest) =
      match calls.getcwd with
      | .error errno => .error (.kernel errno)
      | .ok cwd =>
          if pathMax ≤ cwd.text.length + 1 + (head :: rest).length then
            .error (.tooLong (behindCwd cwd.text (head :: rest)))
          else strcpy (behindCwd cwd.text (head :: rest)) := by
  unfold pending
  split
  next nothing => cases nothing
  next absolute =>
    cases absolute
    exact absurd rfl relative
  next => rfl

theorem pending_right (calls : Calls) (path : Text) :
    calls.PendingRight path (pending calls path) := by
  cases path with
  | nil => exact iff_of_true trivial fun counts => absurd counts.2.1 (by decide)
  | cons head rest =>
      by_cases absolute : head = '/'
      · subst absolute
        have whole : ¬ calls.CountsSlash ('/' :: rest) := fun counts => counts.1 rfl
        rw [pending_absolute]
        split
        next long => exact iff_of_true long whole
        next short =>
          rw [strcpy_ok (Nat.not_le.mp short)]
          refine ⟨whole, Nat.not_le.mp short, ?_⟩
          unfold Calls.fullPath
          rw [if_pos List.head?_cons]
      · rw [pending_relative absolute]
        have relative : ¬ (head :: rest).head? = some '/' := by simpa using absolute
        cases getcwd : calls.getcwd with
        | error errno =>
            refine iff_of_true trivial fun counts => ?_
            obtain ⟨cwd, found, -⟩ := counts.2.2
            rw [getcwd] at found
            cases found
        | ok cwd =>
            have counted : calls.CountsSlash (head :: rest) ↔
                cwd.text = ['/'] ∧ (head :: rest).length + 2 = pathMax := by
              constructor
              · rintro ⟨-, length, other, found, root⟩
                rw [getcwd] at found
                cases found
                exact ⟨root, length⟩
              · rintro ⟨root, length⟩
                exact ⟨relative, length, cwd, getcwd, root⟩
            generalize head :: rest = path at relative counted ⊢
            have names := names_behindCwd cwd path
            have full : calls.fullPath path = cwd.text ++ '/' :: path := by
              unfold Calls.fullPath
              rw [if_neg relative, getcwd]
            rw [← full] at names
            by_cases root : cwd.text = ['/']
            · have length : (behindCwd cwd.text path).length = path.length + 1 := by
                rw [root, behindCwd_root, List.length_cons]
              have short : cwd.text.length = 1 := by rw [root, List.length_singleton]
              dsimp only
              split
              next long =>
                rw [Calls.PendingRight, Calls.Right, counted, length]
                refine ⟨fun wide both => by omega, fun notBoth => ?_⟩
                have other : path.length + 2 ≠ pathMax := fun equal => notBoth ⟨root, equal⟩
                omega
              next fits =>
                rw [strcpy_ok (by omega)]
                exact ⟨fun counts => by rw [counted] at counts; omega, by omega, names⟩
            · have notCounted : ¬ calls.CountsSlash path := fun counts => root (counted.mp counts).1
              have length : (behindCwd cwd.text path).length =
                  cwd.text.length + 1 + path.length := by
                unfold behindCwd
                rw [if_pos (Directory.long root), List.length_append, List.length_cons]
                omega
              dsimp only
              rw [← length]
              split
              next long => exact iff_of_true long notCounted
              next fits =>
                rw [strcpy_ok (Nat.not_le.mp fits)]
                exact ⟨notCounted, Nat.not_le.mp fits, names⟩

theorem run_more {rounds : Nat} {outcome : Except Failure Text}
    (stopped : run calls rounds walk = some outcome) {more : Nat} (atLeast : rounds ≤ more) :
    run calls more walk = some outcome := by
  induction rounds generalizing walk more with
  | zero => cases stopped
  | succ rounds inductionHypothesis =>
      obtain ⟨less, rfl⟩ : ∃ less, more = less + 1 := ⟨more - 1, by omega⟩
      unfold run at stopped ⊢
      split
      next failed => rwa [failed] at stopped
      next finished => rwa [finished] at stopped
      next later goesOn =>
        rw [goesOn] at stopped
        exact inductionHypothesis stopped (by omega)

/-- A result is canonical, in however many rounds it comes. -/
theorem canonical_of_succeeds {resolved : Bool} {rounds : Nat} {result : Text}
    (succeeds : lunaBbRealpath calls path resolved rounds = some (.ok result)) :
    calls.Canonical path result := by
  have beginning := pending_right calls path
  unfold lunaBbRealpath at succeeds
  cases pended : pending calls path with
  | error failure =>
      rw [pended] at succeeds
      cases succeeds
  | ok cursor =>
      rw [pended] at beginning succeeds
      obtain ⟨outcome, stopped, given⟩ := Option.map_eq_some_iff.mp succeeds
      obtain ⟨other, right, stops⟩ := run_right _ (follows_start beginning.2.1 beginning.2.2)
        (Nat.lt_succ_self _)
      have same := (run_more stopped (Nat.le_max_left rounds _)).symm.trans
        (stops _ (Nat.le_max_right rounds _))
      cases same
      cases outcome with
      | error failure => cases given
      | ok output =>
          simp only [Except.bind] at given
          unfold giveResult at given
          split at given
          · cases given
            exact right
          · cases given

/-- For every file system and every path `luna_bb_realpath` stops, and its outcome is
right exactly when the check of its arguments does not count a slash too many. -/
theorem realpath_right_iff (calls : Calls) (path : Text) (resolved : Bool) :
    (∃ outcome, calls.Right path outcome ∧ ∀ rounds, 41 * pathMax ≤ rounds →
      lunaBbRealpath calls path resolved rounds = some outcome) ↔ ¬ calls.CountsSlash path := by
  have beginning := pending_right calls path
  cases pended : pending calls path with
  | error failure =>
      rw [pended, Calls.PendingRight] at beginning
      have outcome : ∀ rounds, lunaBbRealpath calls path resolved rounds =
          some (.error failure) := by
        intro rounds
        unfold lunaBbRealpath
        rw [pended]
      rw [← beginning]
      constructor
      · rintro ⟨other, right, stops⟩
        have same := (outcome _).symm.trans (stops _ (Nat.le_refl _))
        cases same
        exact right
      · exact fun right => ⟨_, right, fun rounds _ => outcome rounds⟩
  | ok cursor =>
      rw [pended] at beginning
      obtain ⟨counts, fits, same⟩ := beginning
      have follows := follows_start fits same
      have near : Walk.rank ⟨cursor, ['/'], 0⟩ < 41 * pathMax := by
        unfold Walk.rank
        dsimp only
        unfold pathMax at fits ⊢
        omega
      obtain ⟨outcome, right, stops⟩ := run_right _ follows near
      refine iff_of_true ⟨outcome.bind (giveResult calls resolved), ?_, fun rounds enough => ?_⟩
        counts
      · cases outcome with
        | error failure => exact right
        | ok output =>
            simp only [Except.bind]
            unfold giveResult
            split
            · exact right
            · exact trivial
      · unfold lunaBbRealpath
        rw [pended]
        dsimp only
        rw [stops rounds enough]
        rfl

def rootDirectory : Directory := ⟨['/'], by decide, rfl⟩

/-- Every name is a directory, and the current directory is the root. -/
def rootCalls : Calls where
  getcwd := .ok rootDirectory
  lstat := fun _ => .ok .directory
  readlink := fun _ => .error 22
  malloc := fun _ => true

/-- So many times `./`. -/
def dots (count : Nat) : Text := (List.replicate count ['.', '/']).flatten

theorem dots_succ (count : Nat) : dots (count + 1) = '.' :: '/' :: dots count := by
  unfold dots
  rw [List.replicate_succ, List.flatten_cons, List.cons_append, List.cons_append,
    List.nil_append]

theorem dots_length (count : Nat) : (dots count).length = 2 * count := by
  induction count with
  | zero => rfl
  | succ count inductionHypothesis =>
      rw [dots_succ, List.length_cons, List.length_cons, inductionHypothesis]
      omega

/-- At the root a relative path of 4094 characters fits but is refused. -/
theorem realpath_refuses :
    ¬ ∀ calls path resolved, ∃ outcome, Calls.Right calls path outcome ∧
      ∀ rounds, 41 * pathMax ≤ rounds →
        lunaBbRealpath calls path resolved rounds = some outcome := by
  intro all
  obtain ⟨outcome, right, stops⟩ := all rootCalls (dots 2047) true
  have pended : pending rootCalls (dots 2047) = .error (.tooLong ('/' :: dots 2047)) := by
    rw [dots_succ, pending_relative (by decide), ← dots_succ]
    unfold rootCalls
    dsimp only
    rw [if_pos]
    · rfl
    · rw [dots_length]
      decide
  have outcomeIs := stops _ (Nat.le_refl _)
  unfold lunaBbRealpath at outcomeIs
  rw [pended] at outcomeIs
  cases outcomeIs
  have long : pathMax ≤ ('/' :: dots 2047).length := right
  rw [List.length_cons, dots_length] at long
  exact absurd long (by decide)

end Luna.Realpath
