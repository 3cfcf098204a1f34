/-
# TypeGloss.Proofs.Path.Canonical — the canonical form of a path

A path leads to a *position*: from its root so many directories up, and from there down along names.
An empty component and a dot stay at a position, a component that is no way up enters, and a way up
leaves the last name behind; where there is none it leads above the start of a relative path, and
nowhere above an absolute root.

The canonical form of a path is its position, written down (`normalizeChars_eq`). A position that is
written down and walked again is the same position (`ofChars_text`), and all else comes from this:
a canonical form is its own canonical form, two paths have one canonical form exactly if they lead
to one position, and a path may be made canonical before another is joined to it.
-/
import TypeGloss.Path
import TypeGloss.Proofs.Text.Pieces
import Mathlib.Data.List.Basic

namespace TypeGloss.Path

set_option autoImplicit false

variable {cs component : List Char} {components : List (List Char)} {root : Root}

/-! ## Components -/

theorem joinComponents_cons (more : components ≠ []) :
    joinComponents (component :: components) = component ++ '/' :: joinComponents components := by
  cases components with
  | nil => exact absurd rfl more
  | cons next rest => rfl

/-- Components that were put together are taken apart again. -/
theorem splitAt_joinComponents (some : components ≠ []) (whole : ∀ c ∈ components, '/' ∉ c) :
    Text.splitAt '/' (joinComponents components) = components := by
  induction components with
  | nil => exact absurd rfl some
  | cons first rest ih =>
      obtain ⟨here, later⟩ := List.forall_mem_cons.1 whole
      cases rest with
      | nil => exact Text.splitAt_of_not_mem here
      | cons next more =>
          have others : next :: more ≠ [] := List.cons_ne_nil next more
          rw [joinComponents_cons others, Text.splitAt_append, Text.splitAt_of_not_mem here,
            ih others later, List.singleton_append]

theorem joinComponents_splitAt (cs : List Char) : joinComponents (Text.splitAt '/' cs) = cs := by
  induction cs with
  | nil => rfl
  | cons c rest ih =>
      cases slash : c == '/' with
      | true =>
          obtain rfl := LawfulBEq.eq_of_beq slash
          rw [Text.splitAt_cons_of_beq slash, joinComponents_cons (Text.splitAt_ne_nil _ _), ih,
            List.nil_append]
      | false =>
          obtain ⟨first, others, same, split⟩ := Text.splitAt_cons_of_not_beq slash rest
          rw [split, ← ih, same]
          cases others with
          | nil => rfl
          | cons next more => rfl

theorem mem_joinComponents {c : Char} (here : c ∈ joinComponents components) :
    c = '/' ∨ ∃ component ∈ components, c ∈ component := by
  fun_induction joinComponents components with
  | case1 => exact absurd here List.not_mem_nil
  | case2 component => exact .inr ⟨component, List.mem_singleton_self component, here⟩
  | case3 component rest some ih =>
      rcases List.mem_append.1 here with here | later
      · exact .inr ⟨component, List.mem_cons_self, here⟩
      · rcases List.mem_cons.1 later with rfl | later
        · exact .inl rfl
        · refine (ih later).imp id fun ⟨other, among, here⟩ => ?_
          exact ⟨other, List.mem_cons_of_mem component among, here⟩

/-! ## Roots -/

/-- A root is read back, if no slash follows it. -/
theorem rootOf_text_append (root : Root) (behind : cs.head? ≠ some '/') :
    rootOf (root.text ++ cs) = root := by
  cases cs with
  | nil => cases root <;> rfl
  | cons c rest =>
      have other : c ≠ '/' := fun same => behind (same ▸ rfl)
      cases root <;> simp [Root.text, rootOf, other]

/-- A path starts with its root, and three slashes or more are one. -/
theorem rootOf_cases (cs : List Char) :
    (∃ rest, cs = '/' :: '/' :: '/' :: rest) ∨
      ∃ rest, cs = (rootOf cs).text ++ rest ∧ rest.head? ≠ some '/' := by
  fun_cases rootOf cs with
  | case1 rest => exact .inl ⟨rest, rfl⟩
  | case2 rest other =>
      refine .inr ⟨rest, rfl, fun slash => ?_⟩
      obtain ⟨more, rfl⟩ := List.head?_eq_some_iff.1 slash
      exact other more rfl
  | case3 rest _ other =>
      refine .inr ⟨rest, rfl, fun slash => ?_⟩
      obtain ⟨more, rfl⟩ := List.head?_eq_some_iff.1 slash
      exact other more rfl
  | case4 _ _ _ other =>
      refine .inr ⟨cs, rfl, fun slash => ?_⟩
      obtain ⟨more, rfl⟩ := List.head?_eq_some_iff.1 slash
      exact other more rfl

theorem rootOf_prefix (cs : List Char) : (rootOf cs).text <+: cs := by
  rcases rootOf_cases cs with ⟨rest, rfl⟩ | ⟨rest, same, -⟩
  · exact ⟨'/' :: '/' :: rest, rfl⟩
  · exact ⟨rest, same.symm⟩

/-- A relative path is put behind the directory, with a slash between. -/
theorem joinChars_of_head? {path : List Char} (relative : path.head? ≠ some '/')
    (directory : List Char) :
    joinChars directory path =
      directory ++
        if directory.isEmpty || directory.getLast? = some '/' then path else '/' :: path := by
  rw [joinChars, if_neg relative]
  split <;> rfl

/-- What is joined to a path does not change its root. -/
theorem rootOf_joinChars {path : List Char} (relative : path.head? ≠ some '/')
    (directory : List Char) : rootOf (joinChars directory path) = rootOf directory := by
  rw [joinChars_of_head? relative]
  rcases rootOf_cases directory with ⟨rest, rfl⟩ | ⟨rest, same, behind⟩
  · rfl
  · generalize rootOf directory = root at same
    subst same
    cases rest with
    | nil =>
        -- A directory that is only a root needs no slash behind it.
        have closed : (root.text ++ []).isEmpty ∨ (root.text ++ []).getLast? = some '/' := by
          cases root <;> decide
        rw [if_pos (by simpa using closed), List.append_nil, rootOf_text_append root relative]
    | cons c more =>
        rw [List.append_assoc]
        exact rootOf_text_append root behind

/-! ## Positions -/

/-- A component that leads into a directory, or to a file. -/
structure IsName (component : List Char) : Prop where
  some : component ≠ []
  notDot : component ≠ ['.']
  notUp : component ≠ up
  whole : '/' ∉ component
  forward : '\\' ∉ component

/-- Where a path leads to: from its root so many directories up, and from there down along names,
the outermost first. -/
structure Position where
  root : Root
  above : Nat
  names : List (List Char)

namespace Position

variable {p : Position}

/-- The components of a position: its ways up, and its names. -/
def stack (p : Position) : List (List Char) :=
  List.replicate p.above up ++ p.names

/-- The directory above: the last name is left behind. Above the start of a relative path there are
directories, above an absolute root there are none. -/
def leave (p : Position) : Position :=
  if p.names = [] then
    if p.root = .relative then { p with above := p.above + 1 } else p
  else { p with names := p.names.dropLast }

/-- One component further. -/
def enter (p : Position) (component : List Char) : Position :=
  if component = [] ∨ component = ['.'] then p
  else if component = up then p.leave
  else { p with names := p.names ++ [component] }

/-- The position that a path without backslashes leads to. -/
def ofChars (cs : List Char) : Position :=
  (Text.splitAt '/' cs).foldl enter ⟨rootOf cs, 0, []⟩

/-- The position that a path leads to. -/
def ofPath (path : String) : Position :=
  ofChars (forward path.toList)

/-- The text of a position. -/
def text (p : Position) : List Char :=
  match p.root.text ++ joinComponents p.stack with
  | [] => ['.']
  | text => text

/-- Only names are entered, and nothing is above an absolute root. -/
structure IsProper (p : Position) : Prop where
  named : ∀ name ∈ p.names, IsName name
  grounded : p.root ≠ .relative → p.above = 0

/-! ### Walking -/

theorem enter_nil (p : Position) : p.enter [] = p := by
  rw [enter, if_pos (.inl rfl)]

theorem enter_dot (p : Position) : p.enter ['.'] = p := by
  rw [enter, if_pos (.inr rfl)]

theorem enter_up (p : Position) : p.enter up = p.leave := by
  rw [enter, if_neg (by decide), if_pos rfl]

theorem enter_name (isName : IsName component) :
    p.enter component = { p with names := p.names ++ [component] } := by
  rw [enter, if_neg (not_or.2 ⟨isName.some, isName.notDot⟩), if_neg isName.notUp]

/-- A component is skipped, leads up, or is a name. -/
theorem component_cases (whole : '/' ∉ component) (plain : '\\' ∉ component) :
    (component = [] ∨ component = ['.']) ∨ component = up ∨ IsName component := by
  by_cases skipped : component = [] ∨ component = ['.']
  · exact .inl skipped
  · obtain ⟨some, notDot⟩ := not_or.1 skipped
    by_cases isUp : component = up
    · exact .inr (.inl isUp)
    · exact .inr (.inr ⟨some, notDot, isUp, whole, plain⟩)

theorem root_enter (p : Position) (component : List Char) : (p.enter component).root = p.root := by
  rw [enter, leave]
  split
  · rfl
  · split
    · split
      · split <;> rfl
      · rfl
    · rfl

theorem root_foldl (p : Position) (components : List (List Char)) :
    (components.foldl enter p).root = p.root := by
  induction components generalizing p with
  | nil => rfl
  | cons component rest ih => rw [List.foldl_cons, ih, root_enter]

theorem IsProper.leave (proper : p.IsProper) : p.leave.IsProper := by
  rw [Position.leave]
  split
  · split
    · next relative => exact ⟨proper.named, fun absolute => absurd relative absolute⟩
    · exact proper
  · exact ⟨fun name among => proper.named name (List.dropLast_subset _ among), proper.grounded⟩

theorem IsProper.enter (proper : p.IsProper) (whole : '/' ∉ component)
    (plain : '\\' ∉ component) : (p.enter component).IsProper := by
  rcases component_cases whole plain with (rfl | rfl) | rfl | isName
  · exact p.enter_nil.symm ▸ proper
  · exact p.enter_dot.symm ▸ proper
  · exact p.enter_up.symm ▸ proper.leave
  · rw [enter_name isName]
    refine ⟨fun name among => ?_, proper.grounded⟩
    rcases List.mem_append.1 among with earlier | last
    · exact proper.named name earlier
    · exact List.mem_singleton.1 last ▸ isName

theorem IsProper.foldl (proper : p.IsProper) (whole : ∀ c ∈ components, '/' ∉ c)
    (plain : ∀ c ∈ components, '\\' ∉ c) : (components.foldl Position.enter p).IsProper := by
  induction components generalizing p with
  | nil => exact proper
  | cons component rest ih =>
      obtain ⟨whole, later⟩ := List.forall_mem_cons.1 whole
      obtain ⟨plain, later'⟩ := List.forall_mem_cons.1 plain
      exact ih (proper.enter whole plain) later later'

theorem ofChars_isProper (plain : '\\' ∉ cs) : (ofChars cs).IsProper := by
  refine IsProper.foldl ⟨fun _ => nofun, fun _ => rfl⟩ (fun c => Text.not_mem_of_mem_splitAt) ?_
  exact fun c among here => plain (Text.mem_of_mem_splitAt among here).1

/-! ### Walking with a stack -/

/-- The components of a position, the innermost first. -/
def reversed (p : Position) : List (List Char) := p.names.reverse ++ List.replicate p.above up

theorem reverse_reversed (p : Position) : p.reversed.reverse = p.stack := by
  rw [reversed, List.reverse_append, List.reverse_reverse, List.reverse_replicate, stack]

theorem walkStep_up (proper : p.IsProper) : walkStep p.root p.reversed up = p.leave.reversed := by
  rw [walkStep.eq_def, if_neg (by decide), if_pos rfl]
  obtain ⟨root, above, names⟩ := p
  obtain rfl | ⟨earlier, last, rfl⟩ := List.eq_nil_or_concat' names
  · cases above with
    | zero => cases root <;> rfl
    | succ above =>
        -- There are ways up in front of relative paths only.
        cases root with
        | relative => rfl
        | slash => exact absurd (proper.grounded nofun) (Nat.succ_ne_zero above)
        | doubleSlash => exact absurd (proper.grounded nofun) (Nat.succ_ne_zero above)
  · have named : last ≠ up := (proper.named last (by simp)).notUp
    simp [reversed, leave, named]

/-- Entering a component is one step of the walk, with the components reversed. -/
theorem walkStep_reversed (proper : p.IsProper) (whole : '/' ∉ component)
    (plain : '\\' ∉ component) :
    walkStep p.root p.reversed component = (p.enter component).reversed := by
  rcases component_cases whole plain with (rfl | rfl) | rfl | isName
  · exact congrArg reversed p.enter_nil.symm
  · exact congrArg reversed p.enter_dot.symm
  · rw [enter_up, walkStep_up proper]
  · rw [enter_name isName, walkStep.eq_def, if_neg (by simp [isName.some, isName.notDot]),
      if_neg isName.notUp]
    simp [reversed]

/-- The walk over all components is the walk over the stack, reversed. -/
theorem foldl_walkStep (proper : p.IsProper) (whole : ∀ c ∈ components, '/' ∉ c)
    (plain : ∀ c ∈ components, '\\' ∉ c) :
    components.foldl (walkStep p.root) p.reversed = (components.foldl enter p).reversed := by
  induction components generalizing p with
  | nil => rfl
  | cons component rest ih =>
      obtain ⟨whole, later⟩ := List.forall_mem_cons.1 whole
      obtain ⟨plain, later'⟩ := List.forall_mem_cons.1 plain
      rw [List.foldl_cons, List.foldl_cons, walkStep_reversed proper whole plain,
        ← ih (proper.enter whole plain) later later', root_enter]

/-- The canonical form of a path is the text of its position. -/
theorem normalizeChars_eq (plain : '\\' ∉ cs) : normalizeChars cs = (ofChars cs).text := by
  have walked : walk (rootOf cs) (Text.splitAt '/' cs) = (ofChars cs).stack := by
    have start : IsProper ⟨rootOf cs, 0, []⟩ := ⟨fun _ => nofun, fun _ => rfl⟩
    have steps := foldl_walkStep start (fun c => Text.not_mem_of_mem_splitAt)
      fun c among here => plain (Text.mem_of_mem_splitAt among here).1
    rw [walk, ofChars, ← reverse_reversed, ← steps]
    rfl
  have root : (ofChars cs).root = rootOf cs := root_foldl _ _
  rw [normalizeChars, walked, ← root]
  rfl

/-! ### Writing -/

theorem IsProper.of_mem_stack (proper : p.IsProper) (among : component ∈ p.stack) :
    component = up ∨ IsName component := by
  rcases List.mem_append.1 among with isUp | named
  · exact .inl (List.eq_of_mem_replicate isUp)
  · exact .inr (proper.named component named)

theorem IsProper.stack_some (proper : p.IsProper) (among : component ∈ p.stack) :
    component ≠ [] := by
  rcases proper.of_mem_stack among with rfl | isName
  · decide
  · exact isName.some

theorem IsProper.stack_whole (proper : p.IsProper) (among : component ∈ p.stack) :
    '/' ∉ component := by
  rcases proper.of_mem_stack among with rfl | isName
  · decide
  · exact isName.whole

/-- The components of a position start with no slash. -/
theorem IsProper.head?_joinComponents (proper : p.IsProper) :
    (joinComponents p.stack).head? ≠ some '/' := by
  cases same : p.stack with
  | nil => decide
  | cons first rest =>
      have among : first ∈ p.stack := same ▸ List.mem_cons_self
      obtain ⟨c, more, rfl⟩ := List.exists_cons_of_ne_nil (proper.stack_some among)
      have other : c ≠ '/' := fun slash => proper.stack_whole among (slash ▸ List.mem_cons_self)
      cases rest <;> simpa [joinComponents] using other

theorem joinComponents_ne_nil (proper : p.IsProper) (some : p.stack ≠ []) :
    joinComponents p.stack ≠ [] := by
  cases same : p.stack with
  | nil => exact absurd same some
  | cons first rest =>
      have filled : first ≠ [] := proper.stack_some (same ▸ List.mem_cons_self)
      cases rest with
      | nil => exact filled
      | cons next more => exact List.append_ne_nil_of_right_ne_nil first (List.cons_ne_nil _ _)

theorem text_of_ne_nil (some : p.root.text ++ joinComponents p.stack ≠ []) :
    p.text = p.root.text ++ joinComponents p.stack := by
  rw [text]
  split
  · next nothing => exact absurd nothing some
  · rfl

theorem foldl_ups (above before : Nat) :
    (List.replicate above up).foldl enter ⟨.relative, before, []⟩ =
      ⟨.relative, before + above, []⟩ := by
  induction above generalizing before with
  | zero => rfl
  | succ above ih =>
      have further : enter ⟨.relative, before, []⟩ up = ⟨.relative, before + 1, []⟩ := rfl
      rw [List.replicate_succ, List.foldl_cons, further, ih, Nat.add_right_comm, Nat.add_assoc]

theorem foldl_names {names : List (List Char)} (named : ∀ name ∈ names, IsName name)
    (p : Position) : names.foldl enter p = { p with names := p.names ++ names } := by
  induction names generalizing p with
  | nil => rw [List.append_nil, List.foldl_nil]
  | cons name rest ih =>
      obtain ⟨here, later⟩ := List.forall_mem_cons.1 named
      rw [List.foldl_cons, enter_name here, ih later, List.append_assoc, List.singleton_append]

/-- A position is walked to through its ways up, and then along its names. -/
theorem foldl_stack (proper : p.IsProper) : p.stack.foldl enter ⟨p.root, 0, []⟩ = p := by
  have ups : (List.replicate p.above up).foldl enter ⟨p.root, 0, []⟩ = ⟨p.root, p.above, []⟩ := by
    by_cases relative : p.root = .relative
    · rw [relative, foldl_ups, Nat.zero_add]
    · rw [proper.grounded relative]
      rfl
  rw [stack, List.foldl_append, ups, foldl_names proper.named, List.nil_append]

/-- A root in front of a path is skipped by the walk. -/
theorem foldl_splitAt_root (root : Root) (p : Position) (cs : List Char) :
    (Text.splitAt '/' (root.text ++ cs)).foldl enter p =
      (Text.splitAt '/' cs).foldl enter p := by
  have slash (cs : List Char) : (Text.splitAt '/' ('/' :: cs)).foldl enter p =
      (Text.splitAt '/' cs).foldl enter p := by
    rw [Text.splitAt_cons_of_beq rfl, List.foldl_cons, enter_nil]
  cases root with
  | relative => rfl
  | slash => exact slash cs
  | doubleSlash => exact (slash ('/' :: cs)).trans (slash cs)

/-- A position that is written down and walked again is the same position. -/
theorem ofChars_text (proper : p.IsProper) : ofChars p.text = p := by
  by_cases nothing : p.stack = []
  · obtain ⟨root, above, names⟩ := p
    obtain ⟨ups, rfl⟩ := List.append_eq_nil_iff.1 nothing
    obtain rfl : above = 0 := (List.replicate_eq_nil_iff up).1 ups
    cases root <;> rfl
  · have written := text_of_ne_nil
      (List.append_ne_nil_of_right_ne_nil p.root.text (joinComponents_ne_nil proper nothing))
    rw [written, ofChars, rootOf_text_append p.root proper.head?_joinComponents, foldl_splitAt_root,
      splitAt_joinComponents nothing fun _ => proper.stack_whole, foldl_stack proper]

theorem not_mem_text (proper : p.IsProper) : '\\' ∉ p.text := by
  intro here
  rw [text] at here
  split at here
  · exact absurd here (by decide)
  · rcases List.mem_append.1 here with inRoot | below
    · cases same : p.root <;> rw [same] at inRoot <;> exact absurd inRoot (by decide)
    · rcases mem_joinComponents below with slash | ⟨component, among, inside⟩
      · exact absurd slash (by decide)
      · rcases proper.of_mem_stack among with rfl | isName
        · exact absurd inside (by decide)
        · exact isName.forward inside

end Position

/-! ## Canonical texts -/

/-- The components of a text behind its root. -/
def behindRoot (text : List Char) : List (List Char) :=
  match text.drop (rootOf text).text.length with
  | [] => []
  | rest => Text.splitAt '/' rest

/-- A text without backslashes and without an empty component behind its root; with no dot as a
component unless it is nothing else; with ways up only in front, and only if it is relative; and
with no slash at its end unless it is a root. -/
structure IsCanonical (text : List Char) : Prop where
  some : text ≠ []
  forward : '\\' ∉ text
  filled : [] ∉ behindRoot text
  undotted : ['.'] ∈ behindRoot text → text = ['.']
  ups : ∃ above names, behindRoot text = List.replicate above up ++ names ∧ up ∉ names ∧
    (rootOf text ≠ .relative → above = 0)
  closed : text.getLast? = Option.some '/' → text = (rootOf text).text

namespace Position

variable {p : Position}

/-- A path with components is its root and these, and is split into them again. -/
theorem behindRoot_text (proper : p.IsProper) (some : p.stack ≠ []) :
    p.text = p.root.text ++ joinComponents p.stack ∧ rootOf p.text = p.root ∧
      behindRoot p.text = p.stack := by
  have filled := joinComponents_ne_nil proper some
  have written := text_of_ne_nil (List.append_ne_nil_of_right_ne_nil p.root.text filled)
  have rooted : rootOf p.text = p.root := by
    rw [written, rootOf_text_append p.root proper.head?_joinComponents]
  refine ⟨written, rooted, ?_⟩
  rw [behindRoot, rooted, written, List.drop_left]
  split
  · next nothing => exact absurd nothing filled
  · exact splitAt_joinComponents some fun _ => proper.stack_whole

/-- The text of a position is canonical. -/
theorem text_isCanonical (proper : p.IsProper) : IsCanonical p.text := by
  by_cases nothing : p.stack = []
  · obtain ⟨root, above, names⟩ := p
    obtain ⟨ups, rfl⟩ := List.append_eq_nil_iff.1 nothing
    obtain rfl : above = 0 := (List.replicate_eq_nil_iff up).1 ups
    cases root with
    | relative =>
        exact ⟨by decide, by decide, by decide, fun _ => rfl, ⟨0, [['.']], rfl, by decide, nofun⟩,
          by decide⟩
    | slash =>
        exact ⟨by decide, by decide, by decide, by decide, ⟨0, [], rfl, by decide, fun _ => rfl⟩,
          fun _ => rfl⟩
    | doubleSlash =>
        exact ⟨by decide, by decide, by decide, by decide, ⟨0, [], rfl, by decide, fun _ => rfl⟩,
          fun _ => rfl⟩
  · obtain ⟨written, rooted, behind⟩ := behindRoot_text proper nothing
    have filled := joinComponents_ne_nil proper nothing
    refine ⟨?_, not_mem_text proper, ?_, ?_, ⟨p.above, p.names, behind, ?_, ?_⟩, ?_⟩
    · exact written ▸ List.append_ne_nil_of_right_ne_nil p.root.text filled
    · exact behind ▸ fun among => proper.stack_some among rfl
    · intro among
      rcases proper.of_mem_stack (behind ▸ among) with isUp | isName
      · exact absurd isUp (by decide)
      · exact absurd rfl isName.notDot
    · exact fun among => (proper.named up among).notUp rfl
    · exact rooted ▸ proper.grounded
    · intro slash
      rw [written, List.getLast?_append_of_ne_nil _ filled] at slash
      obtain ⟨before, same⟩ := List.getLast?_eq_some_iff.1 slash
      -- A slash at the end would have an empty component behind it.
      have empty : [] ∈ Text.splitAt '/' (joinComponents p.stack) := by
        rw [same, Text.splitAt_append]
        exact List.mem_append_right _ (List.mem_singleton_self [])
      rw [splitAt_joinComponents nothing fun _ => proper.stack_whole] at empty
      exact absurd rfl (proper.stack_some empty)

/-- Every canonical text is the text of a position. -/
theorem exists_of_isCanonical (canonical : IsCanonical cs) :
    ∃ p : Position, p.IsProper ∧ p.text = cs := by
  by_cases dotted : cs = ['.']
  · exact ⟨⟨.relative, 0, []⟩, ⟨fun _ => nofun, fun _ => rfl⟩, dotted.symm⟩
  · obtain ⟨above, names, behind, named, grounded⟩ := canonical.ups
    obtain ⟨rest, whole⟩ := rootOf_prefix cs
    have joined : joinComponents (behindRoot cs) = rest ∧
        ∀ component ∈ behindRoot cs, '/' ∉ component ∧ '\\' ∉ component := by
      have dropped : cs.drop (rootOf cs).text.length = rest :=
        (congrArg (List.drop _) whole).symm.trans List.drop_left
      rw [behindRoot, dropped]
      split
      · exact ⟨rfl, fun _ => nofun⟩
      · refine ⟨joinComponents_splitAt _, fun component among => ?_⟩
        refine ⟨Text.not_mem_of_mem_splitAt among, fun here => canonical.forward ?_⟩
        rw [← whole]
        exact List.mem_append_right _ (Text.mem_of_mem_splitAt among here).1
    have written : (rootOf cs).text ++ joinComponents (behindRoot cs) = cs := by
      rw [joined.1, whole]
    refine ⟨⟨rootOf cs, above, names⟩, ⟨fun name among => ?_, grounded⟩, ?_⟩
    · have here : name ∈ behindRoot cs := behind ▸ List.mem_append_right _ among
      refine ⟨?_, ?_, ?_, (joined.2 name here).1, (joined.2 name here).2⟩
      · rintro rfl
        exact canonical.filled here
      · rintro rfl
        exact dotted (canonical.undotted here)
      · rintro rfl
        exact named among
    · have same : stack ⟨rootOf cs, above, names⟩ = behindRoot cs := behind.symm
      have some := canonical.some
      rw [← written, ← same] at some
      rw [text_of_ne_nil some, same, written]

end Position

/-! ## Paths -/

theorem forward_eq_self (plain : '\\' ∉ cs) : forward cs = cs := by
  have kept : ∀ c ∈ cs, (if c = '\\' then '/' else c) = c := by
    intro c among
    rw [if_neg]
    rintro rfl
    exact plain among
  rw [forward, List.map_congr_left kept, List.map_id']

theorem not_mem_forward (cs : List Char) : '\\' ∉ forward cs := by
  intro here
  obtain ⟨c, -, same⟩ := List.mem_map.1 here
  split at same
  · exact absurd same (by decide)
  · next other => exact other same

theorem ofPath_isProper (path : String) : (Position.ofPath path).IsProper :=
  Position.ofChars_isProper (not_mem_forward _)

theorem toList_normalize (path : String) :
    (normalize path).toList = (Position.ofPath path).text := by
  rw [normalize, Text.onChars, String.toList_ofList, Position.normalizeChars_eq (not_mem_forward _),
    Position.ofPath]

/-- The canonical form of a path leads to where the path leads to. -/
theorem ofPath_normalize (path : String) :
    Position.ofPath (normalize path) = Position.ofPath path := by
  have proper := ofPath_isProper path
  rw [Position.ofPath, toList_normalize, forward_eq_self (Position.not_mem_text proper),
    Position.ofChars_text proper]

theorem normalize_eq_iff_ofPath {path other : String} :
    normalize path = normalize other ↔ Position.ofPath path = Position.ofPath other := by
  refine ⟨fun same => ?_, fun same => ?_⟩
  · rw [← ofPath_normalize path, same, ofPath_normalize]
  · exact String.toList_injective (by rw [toList_normalize, toList_normalize, same])

theorem normalize_eq_self_iff {path : String} :
    normalize path = path ↔ IsCanonical path.toList := by
  refine ⟨fun same => ?_, fun canonical => ?_⟩
  · rw [← same, toList_normalize]
    exact Position.text_isCanonical (ofPath_isProper path)
  · obtain ⟨p, proper, written⟩ := Position.exists_of_isCanonical canonical
    refine String.toList_injective ?_
    rw [toList_normalize, Position.ofPath, forward_eq_self canonical.forward, ← written,
      Position.ofChars_text proper]

/-- The position of a root and a stack of components. -/
theorem Position.text_congr {p q : Position} (root : p.root = q.root) (stack : p.stack = q.stack) :
    p.text = q.text := by
  rw [Position.text, Position.text, root, stack]

/-- A relative path that is joined to a directory is walked from there on. -/
theorem ofChars_joinChars {path : List Char} (relative : path.head? ≠ some '/')
    (directory : List Char) :
    Position.ofChars (joinChars directory path) =
      (Text.splitAt '/' path).foldl Position.enter (Position.ofChars directory) := by
  rw [Position.ofChars, rootOf_joinChars relative, joinChars_of_head? relative, Position.ofChars]
  split
  · next closed =>
      obtain rfl | ⟨before, last, rfl⟩ := List.eq_nil_or_concat' directory
      · rfl
      · obtain rfl : last = '/' := by simpa using closed
        rw [List.append_assoc, List.singleton_append, Text.splitAt_append, Text.splitAt_append,
          List.foldl_append, List.foldl_append]
        rfl
  · rw [Text.splitAt_append, List.foldl_append]

theorem not_mem_joinChars {directory path : List Char} (plain : '\\' ∉ directory)
    (plain' : '\\' ∉ path) : '\\' ∉ joinChars directory path := by
  rw [joinChars]
  split
  · exact plain'
  · split <;> simp [plain, plain']

/-- A path that is joined to a directory leads where its characters do. -/
theorem ofPath_join {directory path : String} (plain : '\\' ∉ directory.toList)
    (plain' : '\\' ∉ path.toList) :
    Position.ofPath (join directory path) =
      Position.ofChars (joinChars directory.toList path.toList) := by
  rw [Position.ofPath, join, String.toList_ofList, forward_eq_self (not_mem_joinChars plain plain')]

/-- Where a joined path leads to depends on where the directory leads to. -/
theorem normalize_join {directory path : String} (plain : '\\' ∉ directory.toList)
    (plain' : '\\' ∉ path.toList) :
    normalize (join directory path) = normalize (join (normalize directory) path) := by
  have proper := ofPath_isProper directory
  have plain'' : '\\' ∉ (normalize directory).toList := by
    rw [toList_normalize]
    exact Position.not_mem_text proper
  rw [normalize_eq_iff_ofPath, ofPath_join plain plain', ofPath_join plain'' plain']
  by_cases absolute : path.toList.head? = some '/'
  · rw [joinChars, joinChars, if_pos absolute, if_pos absolute]
  · rw [ofChars_joinChars absolute, ofChars_joinChars absolute, toList_normalize,
      Position.ofChars_text proper, Position.ofPath, forward_eq_self plain]

/-- The canonical form of a path is canonical, and its own canonical form, as every canonical text
is. Two paths have one canonical form exactly if they lead to one position: from the same root, with
the same components on the stack. And what is joined to a path may as well be joined to its
canonical form. -/
theorem normalize_canonical :
    (∀ path, IsCanonical (normalize path).toList ∧ normalize (normalize path) = normalize path) ∧
      (∀ path, normalize path = path ↔ IsCanonical path.toList) ∧
      (∀ path other, normalize path = normalize other ↔
        (Position.ofPath path).root = (Position.ofPath other).root ∧
          (Position.ofPath path).stack = (Position.ofPath other).stack) ∧
      ∀ directory path, '\\' ∉ directory.toList → '\\' ∉ path.toList →
        normalize (join directory path) = normalize (join (normalize directory) path) := by
  have again (path : String) : normalize (normalize path) = normalize path :=
    normalize_eq_iff_ofPath.2 (ofPath_normalize path)
  refine ⟨fun path => ⟨normalize_eq_self_iff.1 (again path), again path⟩,
    fun path => normalize_eq_self_iff, fun path other => ⟨fun same => ?_, fun ⟨root, stack⟩ => ?_⟩,
    fun directory path => normalize_join⟩
  · rw [normalize_eq_iff_ofPath.1 same]
    exact ⟨rfl, rfl⟩
  · refine String.toList_injective ?_
    rw [toList_normalize, toList_normalize, Position.text_congr root stack]

theorem normalize_canonical_doubleSlash :
    '\\' ∉ "//srv/../x/.".toList ∧ '\\' ∉ "../../y//".toList ∧
      normalize (join "//srv/../x/." "../../y//") = "//y" ∧
      normalize (join "//srv/../x/." "../../y//") =
        normalize (join (normalize "//srv/../x/.") "../../y//") := by
  have plain : '\\' ∉ "//srv/../x/.".toList := by decide
  have plain' : '\\' ∉ "../../y//".toList := by decide
  exact ⟨plain, plain', rfl, normalize_canonical.2.2.2 _ _ plain plain'⟩

end TypeGloss.Path
