/-
# TypeGloss.Proofs.Module.Candidates — the nearest package wins

For a package, the way leads from the directory of the importing file upwards. `Walk` is that way as
a loop that remembers which directories it has been to; it ends, in one way only
(`walk_iff`), and the directories on it go up to the project root without a repetition
(`ascends_directoriesFrom`).

Where a candidate stands is a `Spot`: the directory, the package directory in it, the plain package
or its `@types` companion, and the form of the file. `Spot.Precedes` orders the spots, the nearer
directory before everything else. The candidates are what is at the spots, in this order
(`enumerates_candidates`), so the first one that is loaded is that of the least such spot.
-/
import TypeGloss.Checker.Lookup
import TypeGloss.Proofs.Enumeration
import TypeGloss.Proofs.Path.Parts
import Mathlib.Data.List.Chain
import Mathlib.Data.List.Nodup

namespace TypeGloss.Module

set_option autoImplicit false

variable {directory : List Char} {seen visited : List (List Char)}

/-! ## The way up -/

/-- The directory after a directory: the one above it, or the project root where there is no
other above it. -/
def above (directory : List Char) : List Char :=
  if Path.dirnameChars directory = directory then [] else Path.dirnameChars directory

/-- The directories that a loop visits which ends at a directory it has `seen` and after the
project root. -/
inductive Walk : List (List Char) → List Char → List (List Char) → Prop
  | stopped {seen : List (List Char)} {directory : List Char} (known : directory ∈ seen) :
      Walk seen directory []
  | root {seen : List (List Char)} (new : [] ∉ seen) : Walk seen [] [[]]
  | upward {seen visited : List (List Char)} {directory : List Char} (new : directory ∉ seen)
      (below : directory ≠ []) (rest : Walk (directory :: seen) (above directory) visited) :
      Walk seen directory (directory :: visited)

/-- The successive directories above a file: each once, from the file's own up to the project
root. -/
structure Ascends (file : List Char) (visited : List (List Char)) : Prop where
  nearest : visited.head? = some (Path.dirnameChars file)
  upward : visited.IsChain fun lower upper => lower ≠ [] ∧ upper = above lower
  once : visited.Nodup
  root : visited.getLast? = some []

theorem length_above_lt (below : directory ≠ []) : (above directory).length < directory.length := by
  rw [above]
  split
  · exact List.length_pos_iff.2 below
  · next changed => exact Path.length_dirnameChars_lt changed

/-- What holds of the project root, and of a directory where it holds of the one after it, holds
of every directory. -/
theorem above_induction {P : List Char → Prop} (root : P [])
    (upward : ∀ directory, directory ≠ [] → P (above directory) → P directory)
    (directory : List Char) : P directory := by
  by_cases below : directory = []
  · exact below ▸ root
  · exact upward directory below (above_induction root upward (above directory))
termination_by directory.length
decreasing_by exact length_above_lt below

theorem directoriesFrom_nil : directoriesFrom [] = [[]] := by
  rw [directoriesFrom, if_pos rfl]

theorem directoriesFrom_of_ne_nil (below : directory ≠ []) :
    directoriesFrom directory = directory :: directoriesFrom (above directory) := by
  rw [directoriesFrom, if_neg below, above]
  split
  · next shorter => rw [if_neg fun same => absurd shorter (by rw [same]; exact lt_irrefl _)]
  · next longer =>
      rw [if_pos (by_contra fun changed => longer (Path.length_dirnameChars_lt changed)),
        directoriesFrom_nil]

theorem head?_directoriesFrom (directory : List Char) :
    (directoriesFrom directory).head? = some directory := by
  by_cases below : directory = []
  · rw [below, directoriesFrom_nil, List.head?_cons]
  · rw [directoriesFrom_of_ne_nil below, List.head?_cons]

/-- No directory on the way is longer than the one it starts from. -/
theorem length_le_of_mem_directoriesFrom {other : List Char}
    (among : other ∈ directoriesFrom directory) : other.length ≤ directory.length := by
  induction directory using above_induction with
  | root =>
      rw [directoriesFrom_nil, List.mem_singleton] at among
      rw [among]
  | upward directory below ih =>
      rw [directoriesFrom_of_ne_nil below, List.mem_cons] at among
      rcases among with rfl | among
      · exact le_rfl
      · exact (ih among).trans (length_above_lt below).le

/-- The way does not come back to where it started. -/
theorem not_mem_directoriesFrom_above (below : directory ≠ []) :
    directory ∉ directoriesFrom (above directory) := fun among =>
  absurd (length_le_of_mem_directoriesFrom among) (length_above_lt below).not_ge

/-- The loop ends, and it has visited the directories on the way up. -/
theorem walk_iff (new : ∀ other ∈ directoriesFrom directory, other ∉ seen) :
    Walk seen directory visited ↔ visited = directoriesFrom directory := by
  induction directory using above_induction generalizing seen visited with
  | root =>
      rw [directoriesFrom_nil] at new ⊢
      have here := new [] List.mem_cons_self
      constructor
      · rintro (known | _ | ⟨_, below, _⟩)
        · exact absurd known here
        · rfl
        · exact absurd rfl below
      · rintro rfl
        exact .root here
  | upward directory below ih =>
      rw [directoriesFrom_of_ne_nil below] at new ⊢
      have here := new directory List.mem_cons_self
      have later : ∀ other ∈ directoriesFrom (above directory), other ∉ directory :: seen := by
        intro other among known
        rcases List.mem_cons.1 known with rfl | known
        · exact not_mem_directoriesFrom_above below among
        · exact new other (List.mem_cons_of_mem _ among) known
      constructor
      · rintro (known | _ | ⟨_, _, rest⟩)
        · exact absurd known here
        · exact absurd rfl below
        · rw [(ih later).1 rest]
      · rintro rfl
        exact .upward here below ((ih later).2 rfl)

theorem ascends_directoriesFrom (file : List Char) :
    Ascends file (directoriesFrom (Path.dirnameChars file)) where
  nearest := head?_directoriesFrom _
  upward := by
    induction Path.dirnameChars file using above_induction with
    | root => exact directoriesFrom_nil ▸ .singleton _
    | upward directory below ih =>
        rw [directoriesFrom_of_ne_nil below, List.isChain_cons]
        refine ⟨fun upper here => ⟨below, ?_⟩, ih⟩
        rw [head?_directoriesFrom] at here
        exact (Option.some.inj here).symm
  once := by
    induction Path.dirnameChars file using above_induction with
    | root => exact directoriesFrom_nil ▸ List.nodup_singleton _
    | upward directory below ih =>
        rw [directoriesFrom_of_ne_nil below]
        exact List.nodup_cons.2 ⟨not_mem_directoriesFrom_above below, ih⟩
  root := by
    induction Path.dirnameChars file using above_induction with
    | root => exact directoriesFrom_nil ▸ rfl
    | upward directory below ih =>
        rw [directoriesFrom_of_ne_nil below, List.getLast?_cons, ih, Option.getD_some]

/-! ## The files of a place -/

/-- What a file is of the base path of a place; the number is that of the suffix. -/
inductive Form where
  | file
  | source (suffix : Nat)
  | suffixed (suffix : Nat)
  | index (suffix : Nat)

/-- The forms in their order: the kind of file, then the suffix. -/
def Form.rank : Form → Nat × Nat
  | .file => (0, 0)
  | .source suffix => (1, suffix)
  | .suffixed suffix => (2, suffix)
  | .index suffix => (3, suffix)

/-- One form is tried before another. -/
def Form.Precedes (first later : Form) : Prop :=
  first.rank.1 < later.rank.1 ∨
    first.rank.1 = later.rank.1 ∧ first.rank.2 < later.rank.2

/-- The path that a form of a base path is. Only the name of a compiled file has the spellings of
the language. -/
inductive Form.LeadsTo (suffixes : List String) (base : String) : Form → String → Prop
  | file : LeadsTo suffixes base .file base
  | source {k : Nat} {suffix extension : String} {stem : List Char}
      (compiled : extension ∈ compiledExtensions) (named : Path.IsNamed stem)
      (same : base.toList = stem ++ extension.toList) (listed : suffixes[k]? = some suffix) :
      LeadsTo suffixes base (.source k) (String.ofList stem ++ suffix)
  | suffixed {k : Nat} {suffix : String} (listed : suffixes[k]? = some suffix) :
      LeadsTo suffixes base (.suffixed k) (base ++ suffix)
  | index {k : Nat} {suffix : String} (listed : suffixes[k]? = some suffix) :
      LeadsTo suffixes base (.index k) (Path.join base ("index" ++ suffix))

theorem Form.Precedes.asymm {first later : Form} (before : first.Precedes later) :
    ¬ later.Precedes first := by
  unfold Form.Precedes at *
  omega

/-- The extension of a compiled file is a dot and letters. -/
theorem exists_of_mem_compiledExtensions {extension : String}
    (compiled : extension ∈ compiledExtensions) :
    ∃ letters, extension.toList = '.' :: letters ∧ '.' ∉ letters ∧ '/' ∉ letters := by
  simp only [compiledExtensions, List.mem_cons, List.not_mem_nil, or_false] at compiled
  rcases compiled with rfl | rfl | rfl | rfl <;> exact ⟨_, rfl, by decide, by decide⟩

/-- The name of a compiled file is its stem and its extension. -/
theorem splitExtension_eq_iff {base : String} {stem : List Char} {extension : String}
    (compiled : extension ∈ compiledExtensions) :
    Path.splitExtension base.toList = (stem, extension.toList) ↔
      base.toList = stem ++ extension.toList ∧ Path.IsNamed stem := by
  obtain ⟨letters, dotted, plain, whole⟩ := exists_of_mem_compiledExtensions compiled
  rw [dotted]
  constructor
  · exact fun split => Path.of_splitExtension split (List.cons_ne_nil _ _)
  · rintro ⟨same, named⟩
    rw [same, Path.splitExtension_append named plain whole]

section

variable (suffixes : List String) (base : String)

/-- The forms of one kind that a base path has. -/
def Form.OfKind (kind : Nat) (form : Form) (path : String) : Prop :=
  form.rank.1 = kind ∧ form.LeadsTo suffixes base path

theorem enumerates_file : Enumerates (Form.OfKind suffixes base 0) Form.Precedes [base] := by
  refine (Enumerates.singleton Form.file base).congr fun form path => ⟨?_, ?_⟩
  · rintro ⟨rfl, rfl⟩
    exact ⟨rfl, .file⟩
  · rintro ⟨kind, _ | _ | _ | _⟩ <;> cases kind
    exact ⟨rfl, rfl⟩

/-- The spellings of the language of a base path, where it is the name of a compiled file. -/
theorem enumerates_sources :
    Enumerates (Form.OfKind suffixes base 1) Form.Precedes
      (if compiledExtensions.contains (String.ofList (Path.splitExtension base.toList).2) then
        suffixes.map (String.ofList (Path.splitExtension base.toList).1 ++ ·)
      else []) := by
  split
  · next compiled =>
      rw [List.contains_iff_mem] at compiled
      refine (Enumerates.mapped _ suffixes Form.source fun k l lt => .inr ⟨rfl, lt⟩).congr
        fun form path => ⟨?_, ?_⟩
      · rintro ⟨k, suffix, listed, rfl, rfl⟩
        obtain ⟨same, named⟩ := (@splitExtension_eq_iff base _ _ compiled).1
          (by rw [String.toList_ofList])
        exact ⟨rfl, .source compiled named same listed⟩
      · rintro ⟨kind, _ | ⟨compiled, named, same, listed⟩ | _ | _⟩ <;> cases kind
        have split := (splitExtension_eq_iff compiled).2 ⟨same, named⟩
        exact ⟨_, _, listed, rfl, by rw [split]⟩
  · next other =>
      refine .nil ?_
      rintro form path ⟨kind, _ | ⟨compiled, named, same, listed⟩ | _ | _⟩ <;> cases kind
      have split := (splitExtension_eq_iff compiled).2 ⟨same, named⟩
      rw [split, String.ofList_toList] at other
      exact other (List.contains_iff_mem.2 compiled)

theorem enumerates_suffixed :
    Enumerates (Form.OfKind suffixes base 2) Form.Precedes (suffixes.map (base ++ ·)) := by
  refine (Enumerates.mapped _ suffixes Form.suffixed fun k l lt => .inr ⟨rfl, lt⟩).congr
    fun form path => ⟨?_, ?_⟩
  · rintro ⟨k, suffix, listed, rfl, rfl⟩
    exact ⟨rfl, .suffixed listed⟩
  · rintro ⟨kind, _ | _ | listed | _⟩ <;> cases kind
    exact ⟨_, _, listed, rfl, rfl⟩

theorem enumerates_index :
    Enumerates (Form.OfKind suffixes base 3) Form.Precedes
      (suffixes.map fun suffix => Path.join base ("index" ++ suffix)) := by
  refine (Enumerates.mapped _ suffixes Form.index fun k l lt => .inr ⟨rfl, lt⟩).congr
    fun form path => ⟨?_, ?_⟩
  · rintro ⟨k, suffix, listed, rfl, rfl⟩
    exact ⟨rfl, .index listed⟩
  · rintro ⟨kind, _ | _ | _ | listed⟩ <;> cases kind
    exact ⟨_, _, listed, rfl, rfl⟩

/-- The files of a base path, kind by kind. -/
theorem filesAt_eq :
    filesAt suffixes base =
      [base] ++
        (if compiledExtensions.contains (String.ofList (Path.splitExtension base.toList).2) then
          suffixes.map (String.ofList (Path.splitExtension base.toList).1 ++ ·)
        else []) ++
        suffixes.map (base ++ ·) ++
        suffixes.map fun suffix => Path.join base ("index" ++ suffix) := by
  unfold filesAt
  generalize Path.splitExtension base.toList = split
  simp only [List.singleton_append]

/-- The files of a base path are its forms, in their order. -/
theorem enumerates_filesAt :
    Enumerates (Form.LeadsTo suffixes base) Form.Precedes (filesAt suffixes base) := by
  have two := (enumerates_file suffixes base).append (enumerates_sources suffixes base)
    fun p b q c here there => .inl (by rw [here.1, there.1]; decide)
  have three := two.append (enumerates_suffixed suffixes base)
    fun p b q c here there => .inl (by
      rcases here with here | here <;> rw [here.1, there.1] <;> decide)
  have four := three.append (enumerates_index suffixes base)
    fun p b q c here there => .inl (by
      rcases here with (here | here) | here <;> rw [here.1, there.1] <;> decide)
  rw [filesAt_eq]
  refine four.congr fun form path => ⟨?_, fun leads => ?_⟩
  · rintro (((here | here) | here) | here) <;> exact here.2
  · cases form with
    | file => exact .inl (.inl (.inl ⟨rfl, leads⟩))
    | source k => exact .inl (.inl (.inr ⟨rfl, leads⟩))
    | suffixed k => exact .inl (.inr ⟨rfl, leads⟩)
    | index k => exact .inr ⟨rfl, leads⟩

end

/-! ## The spots of a package -/

/-- Where a candidate of a package stands: in which of the directories, in which of the package
directories there, in the plain package or its `@types` companion, and in which form. -/
structure Spot where
  level : Nat
  folder : Nat
  companion : Bool
  form : Form

/-- The order in which the spots are tried. -/
inductive Spot.Precedes : Spot → Spot → Prop
  | nearer {first later : Spot} (level : first.level < later.level) : Precedes first later
  | listed {first later : Spot} (level : first.level = later.level)
      (folder : first.folder < later.folder) : Precedes first later
  | plain {first later : Spot} (level : first.level = later.level)
      (folder : first.folder = later.folder) (here : first.companion = false)
      (there : later.companion = true) : Precedes first later
  | formed {first later : Spot} (level : first.level = later.level)
      (folder : first.folder = later.folder) (companion : first.companion = later.companion)
      (form : first.form.Precedes later.form) : Precedes first later

/-- The place of a package in a package directory, or that of its companion. -/
def packageBase (specifier folder : String) (companion : Bool) : String :=
  Path.normalize (Path.join (if companion then Path.join folder "@types" else folder) specifier)

/-- The path at a spot, for a package that is looked for from some directories. -/
inductive Spot.LeadsTo (visited : List (List Char)) (specifier : String)
    (suffixes packageDirs : List String) : Spot → String → Prop
  | intro {level folder : Nat} {companion : Bool} {form : Form} {directory : List Char}
      {name path : String} (above : visited[level]? = some directory)
      (named : packageDirs[folder]? = some name)
      (leads : form.LeadsTo suffixes
        (packageBase specifier (Path.join (String.ofList directory) name) companion) path) :
      LeadsTo visited specifier suffixes packageDirs ⟨level, folder, companion, form⟩ path

theorem Spot.Precedes.asymm {first later : Spot} (before : first.Precedes later) :
    ¬ later.Precedes first := by
  intro back
  cases before with
  | nearer level => rcases back with back | ⟨back, _⟩ | ⟨back, _⟩ | ⟨back, _⟩ <;> omega
  | listed level folder =>
      rcases back with back | ⟨_, back⟩ | ⟨_, back⟩ | ⟨_, back⟩ <;> omega
  | plain level folder here there =>
      cases back with
      | nearer back => omega
      | listed _ back => omega
      | plain _ _ _ back => exact Bool.false_ne_true (here.symm.trans back)
      | formed _ _ back _ => exact Bool.false_ne_true (here.symm.trans (back.symm.trans there))
  | formed level folder companion form =>
      cases back with
      | nearer back => omega
      | listed _ back => omega
      | plain _ _ here there =>
          exact Bool.false_ne_true (here.symm.trans (companion.symm.trans there))
      | formed _ _ _ back => exact form.asymm back

section

variable (suffixes packageDirs : List String) (specifier : String)

/-- The files of a package in one package directory: the plain package, then its companion. -/
theorem enumerates_package (level folder : Nat) (root : String) :
    Enumerates
      (fun spot path => spot.level = level ∧ spot.folder = folder ∧
        spot.form.LeadsTo suffixes (packageBase specifier root spot.companion) path)
      Spot.Precedes
      (filesAt suffixes (Path.normalize (Path.join root specifier)) ++
        filesAt suffixes (Path.normalize (Path.join (Path.join root "@types") specifier))) := by
  have group (companion : Bool) :=
    (enumerates_filesAt suffixes (packageBase specifier root companion)).map
      (Spot.mk level folder companion) fun p q before => Spot.Precedes.formed rfl rfl rfl before
  refine ((group false).append (group true) ?_).congr ?_
  · rintro _ b _ c ⟨p, rfl, -⟩ ⟨q, rfl, -⟩
    exact .plain rfl rfl rfl rfl
  · rintro ⟨level', folder', companion, form⟩ path
    constructor
    · rintro (⟨p, same, leads⟩ | ⟨p, same, leads⟩) <;> cases same <;> exact ⟨rfl, rfl, leads⟩
    · rintro ⟨rfl, rfl, leads⟩
      cases companion with
      | false => exact .inl ⟨form, rfl, leads⟩
      | true => exact .inr ⟨form, rfl, leads⟩

/-- The files of a package below one directory, one package directory after the other. -/
theorem enumerates_packageFiles (level : Nat) (directory : String) :
    Enumerates
      (fun spot path => ∃ (folder : Nat) (name : String), packageDirs[folder]? = some name ∧
        spot.level = level ∧ spot.folder = folder ∧
        spot.form.LeadsTo suffixes
          (packageBase specifier (Path.join directory name) spot.companion) path)
      Spot.Precedes (packageFiles suffixes packageDirs specifier directory) := by
  refine Enumerates.flatMap (fun folder name _ => ?_) ?_
  · have root : (if directory = "" then name else Path.join directory name) =
        Path.join directory name := by
      split
      · next top => rw [top, Path.join_empty]
      · rfl
    rw [root]
    exact enumerates_package suffixes specifier level folder (Path.join directory name)
  · rintro k name p b l other q c lt ⟨rfl, rfl, -⟩ ⟨same, rfl, -⟩
    exact .listed same.symm lt

/-- The candidates of a package are what is at its spots, in their order. -/
theorem enumerates_candidates (importer : String)
    (bare : Text.startsWith "." specifier = false) :
    Enumerates
      (Spot.LeadsTo (directoriesFrom (Path.dirnameChars importer.toList)) specifier suffixes
        packageDirs)
      Spot.Precedes (candidates importer specifier suffixes packageDirs) := by
  rw [candidates, bare, if_neg Bool.false_ne_true, Path.dirname, Text.onChars,
    String.toList_ofList]
  refine (Enumerates.flatMap (fun level directory _ =>
    enumerates_packageFiles suffixes packageDirs specifier level (String.ofList directory))
      ?_).congr ?_
  · rintro k directory p b l other q c lt ⟨_, _, _, rfl, -⟩ ⟨_, _, _, rfl, -⟩
    exact .nearer lt
  · rintro ⟨level, folder, companion, form⟩ path
    constructor
    · rintro ⟨_, directory, above, _, name, named, rfl, rfl, leads⟩
      exact .intro above named leads
    · rintro ⟨above, named, leads⟩
      exact ⟨_, _, above, _, _, named, rfl, rfl, leads⟩

end

/-- A package is looked for in the directory of the importing file and in all directories above it.
The loop ends, and the directories it visits are the successive ones above the file, each once, up
to the project root. The candidates are what is at the spots of these directories, in the order of
the spots. The module is the source of the first spot that has a loaded one, so it is never one
farther up than another that is loaded; there is none if no spot has a loaded one. -/
theorem nearest_package_wins (importer specifier : String)
    (bare : Text.startsWith "." specifier = false) :
    ∃ visited : List (List Char),
      (∀ directories,
        Walk [] (Path.dirnameChars importer.toList) directories ↔ directories = visited) ∧
      Ascends importer.toList visited ∧
      (∀ suffixes packageDirs,
        Enumerates (Spot.LeadsTo visited specifier suffixes packageDirs) Spot.Precedes
          (candidates importer specifier suffixes packageDirs)) ∧
      ∀ program : Program,
        let leadsTo := Spot.LeadsTo visited specifier program.settings.moduleSuffixes
          program.settings.packageDirs
        let loaded := fun path => Entries.find? path program.sources
        (∀ source, Lookup.module? program importer specifier = some source ↔
          ∃ spot path, leadsTo spot path ∧ loaded path = some source ∧
            ∀ earlier other, leadsTo earlier other → earlier.Precedes spot →
              loaded other = none) ∧
        (Lookup.module? program importer specifier = none ↔
          ∀ spot path, leadsTo spot path → loaded path = none) ∧
        ∀ source, Lookup.module? program importer specifier = some source →
          ∃ spot path, leadsTo spot path ∧ loaded path = some source ∧
            ∀ other there, leadsTo other there → loaded there ≠ none →
              spot.level ≤ other.level := by
  refine ⟨directoriesFrom (Path.dirnameChars importer.toList),
    fun directories => walk_iff fun _ _ => List.not_mem_nil, ascends_directoriesFrom _,
    fun suffixes packageDirs => enumerates_candidates suffixes packageDirs specifier importer bare,
    fun program => ?_⟩
  have listed := enumerates_candidates program.settings.moduleSuffixes
    program.settings.packageDirs specifier importer bare
  have first (source : Source) :=
    listed.findSome?_eq_some_iff (f := fun path => Entries.find? path program.sources)
      (fun _ _ => Spot.Precedes.asymm) source
  refine ⟨first, listed.findSome?_eq_none_iff, fun source found => ?_⟩
  obtain ⟨spot, path, leads, here, nothing⟩ := (first source).1 found
  refine ⟨spot, path, leads, here, fun other there leads' loaded => ?_⟩
  by_contra nearer
  exact loaded (nothing other there leads' (.nearer (Nat.lt_of_not_le nearer)))

/-! ### A package at the root, and its companion farther down -/

def packaged (path : String) : Source := ⟨path, default, .ok {}⟩

def installed : Program :=
  { sources := [
      ("/node_modules/react/index.d.ts", packaged "/node_modules/react/index.d.ts"),
      ("/src/node_modules/@types/react.ts", packaged "/src/node_modules/@types/react.ts")] }

theorem nearest_package_wins_react :
    Text.startsWith "." "react" = false ∧
      ∃ visited : List (List Char), visited = ["/src/app".toList, "/src".toList, ['/'], []] ∧
        (∀ directories,
          Walk [] (Path.dirnameChars "/src/app/main.ts".toList) directories ↔
            directories = visited) ∧
        Lookup.module? installed "/src/app/main.ts" "react" =
          some (packaged "/src/node_modules/@types/react.ts") ∧
        ∃ spot path,
          Spot.LeadsTo visited "react" [".ts", ".tsx", ".d.ts"] ["node_modules"] spot path ∧
          Entries.find? path installed.sources =
            some (packaged "/src/node_modules/@types/react.ts") ∧
          ∀ other there,
            Spot.LeadsTo visited "react" [".ts", ".tsx", ".d.ts"] ["node_modules"] other there →
            Entries.find? there installed.sources ≠ none → spot.level ≤ other.level := by
  have bare : Text.startsWith "." "react" = false := by decide
  obtain ⟨visited, walk, -, -, resolved⟩ := nearest_package_wins "/src/app/main.ts" "react" bare
  have route : Walk [] "/src/app".toList ["/src/app".toList, "/src".toList, ['/'], []] :=
    .upward (by decide) (by decide) (.upward (by decide) (by decide)
      (.upward (by decide) (by decide) (.root (by decide))))
  have found : Lookup.module? installed "/src/app/main.ts" "react" =
      some (packaged "/src/node_modules/@types/react.ts") := by
    with_unfolding_all rfl
  exact ⟨bare, visited, ((walk _).1 route).symm, walk, found,
    (resolved installed).2.2 _ found⟩

end TypeGloss.Module
