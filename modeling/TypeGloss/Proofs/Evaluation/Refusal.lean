/-
# TypeGloss.Proofs.Evaluation.Refusal — which defaults are refused

The initializers of a text may be anything, and what cannot be evaluated is unresolved. If all
number literals and escape sequences are those of the grammar and look-ups find trees, then an
evaluation comes to a value or is unresolved, except in four cases, in which it fails
(`Breaks`):

* a list that holds an object, itself or in a list inside, is turned into text. An object
  alone is unresolved there;
* an integer of too many digits is turned into text;
* a decimal integer literal of too many digits is read;
* an operator computes with an integer beyond all floating-point numbers.

A case counts if the evaluation reaches it, and if it does, nothing saves it
(`defaults_fail_iff`). The same goes for the defaults in a pattern, which evaluates all of its
initializers. A value has no place for something unresolved, so what is returned is resolved
at every depth.
-/
import TypeGloss.Evaluation.Pattern
import TypeGloss.Proofs.Evaluation.Failure
import TypeGloss.Proofs.Evaluation.Values
import TypeGloss.Proofs.Tree.Token

namespace TypeGloss

set_option autoImplicit false

/-! ## Values without a text -/

namespace Value

/-- A list that holds an object, at some depth of lists. -/
inductive HidesObject : Value → Prop where
  | here {items : List Value} {entries : Entries Value} (among : .object entries ∈ items) :
      HidesObject (.list items)
  | inside {items : List Value} {v : Value} (among : v ∈ items) (deeper : HidesObject v) :
      HidesObject (.list items)

/-- An integer with more digits than are written, or a list that holds one, at some depth of
lists. -/
inductive HoldsHuge : Value → Prop where
  | integer {n : Int} (long : Fault.digitLimit < (Nat.toDigits 10 n.natAbs).length) :
      HoldsHuge (.integer n)
  | inside {items : List Value} {v : Value} (among : v ∈ items) (deeper : HoldsHuge v) :
      HoldsHuge (.list items)

/-- Has a value no text because of what it holds? -/
def IsUnwritable (v : Value) : Prop :=
  v.HidesObject ∨ v.HoldsHuge

theorem isUnwritable_list {items : List Value} : (list items).IsUnwritable ↔
    (∃ v ∈ items, v.IsUnwritable) ∨ ∃ entries, object entries ∈ items := by
  constructor
  · rintro (hides | huge)
    · cases hides with
      | here among => exact .inr ⟨_, among⟩
      | inside among deeper => exact .inl ⟨_, among, .inl deeper⟩
    · cases huge with
      | inside among deeper => exact .inl ⟨_, among, .inr deeper⟩
  · rintro (⟨v, among, hides | huge⟩ | ⟨entries, among⟩)
    · exact .inl (.inside among hides)
    · exact .inr (.inside among huge)
    · exact .inl (.here among)

theorem isUnwritable_integer {n : Int} :
    (integer n).IsUnwritable ↔ Fault.digitLimit < (Nat.toDigits 10 n.natAbs).length := by
  constructor
  · rintro (hides | huge)
    · cases hides
    · cases huge with
      | integer long => exact long
  · exact fun long => .inr (.integer long)

/-- Nothing but integers and lists can be unwritable. -/
theorem not_isUnwritable {v : Value} (notInteger : ∀ n, v ≠ integer n)
    (notList : ∀ items, v ≠ list items) : ¬ v.IsUnwritable := by
  rintro (hides | huge)
  · cases hides with
    | here | inside => exact notList _ rfl
  · cases huge with
    | integer => exact notInteger _ rfl
    | inside => exact notList _ rfl

/-- Only an object has no text without being refused. -/
theorem eq_object_of_spelling {v : Value} (spelled : v.spelling = .ok none) :
    ∃ entries, v = object entries := by
  cases v with
  | object entries => exact ⟨entries, rfl⟩
  | integer n =>
      simp only [spelling, integerSpelling] at spelled
      split at spelled <;> simp [Except.map] at spelled
  | list items =>
      simp only [spelling] at spelled
      obtain ⟨parts, -, spelled⟩ := Result.bind_eq_ok.1 spelled
      split at spelled <;> simp at spelled
  | _ => simp [spelling] at spelled

theorem mapM_id_eq_none_iff {α : Type} {items : List (Option α)} :
    items.mapM id = none ↔ none ∈ items := by
  induction items with
  | nil => simp
  | cons item rest ih =>
      cases item with
      | none => simp [List.mapM_cons]
      | some a => cases more : rest.mapM id <;> simp_all [List.mapM_cons]

/-- Among the texts of items one is missing if one of the items is an object. -/
theorem none_mem_spellings {items : List Value} {parts : List (Option String)}
    (read : spellings items = .ok parts) : none ∈ parts ↔ ∃ entries, object entries ∈ items := by
  induction items generalizing parts with
  | nil =>
      obtain rfl : [] = parts := by simpa [spellings] using read
      simp
  | cons item rest ih =>
      obtain ⟨part, others, rfl, more, first⟩ := Script.spellings_cons read
      have here : none = part ↔ ∃ entries, object entries = item := by
        obtain ⟨rfl, rfl⟩ | ⟨present, spelled⟩ := first
        · simp
        · constructor
          · rintro rfl
            obtain ⟨entries, rfl⟩ := eq_object_of_spelling spelled
            exact ⟨entries, rfl⟩
          · rintro ⟨entries, rfl⟩
            simpa [spelling] using spelled
      simp only [List.mem_cons, ih more, here, exists_or]

mutual

/-- A value is refused where a text is needed exactly if it is unwritable. -/
theorem spelling_fails_iff : ∀ v : Value, (∃ fault, v.spelling = .error fault) ↔ v.IsUnwritable
  | integer n => by
      rw [isUnwritable_integer]
      simp only [spelling, integerSpelling, Number.natChars]
      by_cases long : (Nat.toDigits 10 n.natAbs).length > Fault.digitLimit
      · simp [long, Except.map]
      · simp [long, Except.map]
  | list items => by
      rw [isUnwritable_list]
      have inside := spellings_fail_iff items
      simp only [spelling]
      cases read : spellings items with
      | error fault =>
          have refused : ∃ v ∈ items, v.IsUnwritable := inside.1 ⟨fault, read⟩
          simp [bind, Except.bind, refused]
      | ok parts =>
          have accepted : ¬ ∃ v ∈ items, v.IsUnwritable := fun refused => by
            obtain ⟨fault, failed⟩ := inside.2 refused
            simp [failed] at read
          simp only [bind, Except.bind, accepted, false_or]
          rw [← none_mem_spellings read, ← mapM_id_eq_none_iff]
          cases parts.mapM id <;> simp
  | null => by simpa [spelling] using not_isUnwritable (v := null) (by simp) (by simp)
  | flag b => by simpa [spelling] using not_isUnwritable (v := flag b) (by simp) (by simp)
  | number x => by simpa [spelling] using not_isUnwritable (v := number x) (by simp) (by simp)
  | notNumber m => by
      simpa [spelling] using not_isUnwritable (v := notNumber m) (by simp) (by simp)
  | text s => by simpa [spelling] using not_isUnwritable (v := text s) (by simp) (by simp)
  | object entries => by
      simpa [spelling] using not_isUnwritable (v := object entries) (by simp) (by simp)

/-- Items are refused if one of them is. -/
theorem spellings_fail_iff : ∀ items : List Value,
    (∃ fault, spellings items = .error fault) ↔ ∃ v ∈ items, v.IsUnwritable
  | [] => by simp [spellings]
  | item :: rest => by
      have first := spelling_fails_iff item
      have others := spellings_fail_iff rest
      rw [List.exists_mem_cons_iff, ← others]
      by_cases absent : item = null
      · have fine : ¬ item.IsUnwritable := by
          rw [← first]
          simp [absent, spelling]
        subst absent
        cases more : spellings rest <;>
          simp [spellings, more, bind, Except.bind, pure, Except.pure, fine]
      · rw [spellings.eq_3 _ _ absent, ← first]
        cases item.spelling with
        | error fault => simp [bind, Except.bind]
        | ok part => cases spellings rest <;> simp [bind, Except.bind, pure, Except.pure]

end

end Value

/-! ## Trees that are made of the tokens of the grammar -/

/-- Every number literal and every escape sequence in a tree is one of the grammar. -/
inductive Tree.IsLexed : Tree → Prop where
  | node {mark : Mark} {children : List Tree}
      (number : mark.kind = "number" → Literal.Numeric mark.text.toList)
      (escape : mark.kind = "escape_sequence" → Literal.Escape mark.text.toList)
      (below : ∀ child ∈ children, IsLexed child) : IsLexed (.node mark children)

namespace Tree.IsLexed

variable {t u : Tree} (lexed : t.IsLexed)

include lexed

theorem numeric (kind : t.kind = "number") : Literal.Numeric t.text.toList := by
  obtain ⟨number, -, -⟩ := lexed
  exact number kind

theorem child (member : u ∈ t.children) : u.IsLexed := by
  obtain ⟨-, -, below⟩ := lexed
  exact below u member

theorem named (member : u ∈ t.named) : u.IsLexed :=
  lexed.child (mem_children_of_mem_named member)

theorem first (inside : t.named.head? = some u) : u.IsLexed :=
  lexed.named (List.mem_of_mem_head? inside)

theorem field? {name : String} (found : t.field? name = some u) : u.IsLexed :=
  lexed.child (mem_children_of_field? found)

/-- A fragment of a text is read. -/
theorem fragmentValue : ∃ text, Literal.fragmentValue t = .ok text := by
  obtain ⟨-, escape, -⟩ := lexed
  rw [Literal.fragmentValue]
  split
  · next kind =>
      obtain ⟨decoded, read⟩ := Literal.decodeEscapeChars_of_escape (escape (beq_iff_eq.1 kind))
      refine ⟨String.ofList decoded, ?_⟩
      simp [Literal.decodeEscape, Tree.text, Tree.mark, read, Except.map]
  · exact ⟨_, rfl⟩

/-- A literal text is read. -/
theorem stringValue : ∃ text, Literal.stringValue t = .ok text := by
  have all : ∀ parts : List Tree, (∀ part ∈ parts, part.IsLexed) →
      ∃ texts, parts.mapM Literal.fragmentValue = .ok texts := by
    intro parts each
    induction parts with
    | nil => exact ⟨[], rfl⟩
    | cons part rest ih =>
        obtain ⟨text, read⟩ := (each part List.mem_cons_self).fragmentValue
        obtain ⟨texts, more⟩ := ih fun other among => each other (List.mem_cons_of_mem _ among)
        refine ⟨text :: texts, ?_⟩
        simp [List.mapM_cons, read, more, bind, Except.bind, pure, Except.pure]
  unfold Literal.stringValue
  split
  · exact ⟨_, rfl⟩
  · next parts =>
      obtain ⟨texts, read⟩ := all _ fun part among => lexed.named among
      exact ⟨String.join texts, by rw [read]; rfl⟩

/-- The name of a property is read, unless it is a number that is too long. -/
theorem propertyKey?_fails_iff : (∃ fault, Literal.propertyKey? t = .error fault) ↔
    t.kind = "number" ∧ Literal.IsOverlong t.text.toList := by
  unfold Literal.propertyKey?
  split
  · next kind =>
      rw [beq_iff_eq] at kind
      obtain ⟨text, read⟩ := lexed.stringValue
      simp [read, Except.map, kind]
  · split
    · next kind =>
        rw [beq_iff_eq] at kind
        rw [← Literal.numberValue_fails_iff (lexed.numeric kind)]
        cases Literal.numberValue t.text <;> simp [Except.map, kind]
    · next kind =>
        rw [beq_iff_eq] at kind
        split <;> simp [kind]

end Tree.IsLexed

namespace Expression

open Evaluation

/-- Whatever is looked up, the answer is a tree made of the tokens of the grammar, or that there
is none. -/
def Context.IsLexed (context : Context) : Prop :=
  ∀ find ∈ context.lookup, ∀ name, ∃ found, find name = .ok found ∧ ∀ t ∈ found, t.IsLexed

section Lexed

variable {context : Context} {fault : Fault}

/-- What is looked up is a tree made of the tokens of the grammar, or nothing. -/
theorem Context.IsLexed.find (lexed : context.IsLexed) (name : String) :
    ∃ found : Option Tree, context.find name = ofOption found ∧ ∀ t ∈ found, t.IsLexed := by
  unfold Context.find
  cases looks : context.lookup with
  | none => exact ⟨none, rfl, by simp⟩
  | some find =>
      obtain ⟨found, answered, each⟩ := lexed find looks name
      exact ⟨found, by simp [answered], each⟩

variable {depth deep : Nat} {resolving names : List String} {t u : Tree}

theorem Arrives.mem {part : Tree} (arrives : Arrives context depth resolving t part) :
    part ∈ t.named := by
  cases arrives with
  | template _ split | object _ split | array _ split => simp [split]

theorem Inserts.isLexed (inserts : Inserts context depth resolving t u) (lexed : t.IsLexed) :
    u.IsLexed := by
  cases inserts with
  | hole _ arrives _ inside => exact (lexed.named arrives.mem).first inside
  | key _ arrives _ found _ inside => exact ((lexed.named arrives.mem).field? found).first inside

theorem Asks.isLexed (asks : Asks context depth resolving t names u) (known : context.IsLexed)
    (lexed : t.IsLexed) : u.IsLexed := by
  cases asks with
  | wrapped _ inside => exact lexed.first inside
  | name _ _ given =>
      obtain ⟨found, answer, each⟩ := known.find _
      rw [answer, gives_ofOption] at given
      exact each u given
  | inserted inserts => exact inserts.isLexed lexed
  | entry _ arrives _ _ found => exact (lexed.named arrives.mem).field? found
  | spread _ arrives _ inside => exact (lexed.named arrives.mem).first inside
  | item _ arrives _ _ => exact lexed.named arrives.mem
  | operand _ found | left _ found | right _ found | condition _ found | branch _ _ _ found
  | target _ found => exact lexed.field? found
  | frozen _ _ given _ only =>
      refine (lexed.field? given).named (List.mem_filter.1 (?_ : u ∈ Tree.parts _)).1
      simp [only]

theorem Reaches.isLexed (reaches : Reaches context depth resolving t deep names u)
    (known : context.IsLexed) (lexed : t.IsLexed) : u.IsLexed := by
  induction reaches with
  | here => exact lexed
  | deeper asks _ ih => exact ih (asks.isLexed known lexed)

/-! ## What fails -/

section Breaking

variable (context depth resolving)

/-- At a node a number is read, as the value of the node or as the key of an entry. -/
inductive ReadsNumber : Tree → String → Prop where
  | literal {t : Tree} (kind : t.kind = "number") : ReadsNumber t t.text
  | key {t part key : Tree} (kind : t.kind = "object")
      (arrives : Arrives context depth resolving t part) (pair : part.kind = "pair")
      (found : part.field? "key" = some key) (isNumber : key.kind = "number") :
      ReadsNumber t key.text

/-- What fails at a node whose literals are all of the grammar. -/
inductive BreaksAt (t : Tree) : Prop where
  /-- A list with an object inside is turned into text. -/
  | list {v : Value} (converts : Converts context depth resolving t v) (hides : v.HidesObject)
  /-- An integer that is too long, or a list with one inside, is turned into text. -/
  | huge {v : Value} (converts : Converts context depth resolving t v) (huge : v.HoldsHuge)
  /-- A decimal integer that is too long is read. -/
  | overlong {text : String} (reads : ReadsNumber context depth resolving t text)
      (overlong : Literal.IsOverlong text.toList)
  /-- An operator on numbers meets an integer beyond all of them. -/
  | tooLarge {left right : Value} (applies : Applies context depth resolving t left right)
      (large : Operators.IsTooLarge left ∨ Operators.IsTooLarge right)
      (fails : Fails (Operators.binary (operatorOf t) left right) .tooLarge)

end Breaking

theorem breaksAt_iff (known : context.IsLexed) (lexed : t.IsLexed) :
    (∃ fault, Trouble context depth resolving t fault) ↔ BreaksAt context depth resolving t := by
  constructor
  · rintro ⟨fault, trouble⟩
    cases trouble with
    | text kind unread =>
        obtain ⟨text, read⟩ := lexed.stringValue
        simp [read] at unread
    | number kind unread =>
        exact .overlong (.literal kind)
          ((Literal.numberValue_fails_iff (lexed.numeric kind)).1 ⟨_, unread⟩)
    | chunk kind arrives fixed unread =>
        obtain ⟨text, read⟩ := (lexed.named arrives.mem).fragmentValue
        simp [read] at unread
    | key kind arrives pair found fixed unread =>
        obtain ⟨isNumber, overlong⟩ :=
          ((lexed.named arrives.mem).field? found).propertyKey?_fails_iff.1 ⟨_, unread⟩
        exact .overlong (.key kind arrives pair found isNumber) overlong
    | lookup names looked fails =>
        obtain ⟨found, answer, -⟩ := known.find _
        rw [answer] at fails
        exact absurd fails not_fails_ofOption
    | unspelled converts unspelled =>
        obtain hides | huge := (Value.spelling_fails_iff _).1 ⟨_, unspelled⟩
        · exact .list converts hides
        · exact .huge converts huge
    | tooLarge applies apart fails =>
        exact .tooLarge applies (Operators.binary_fails apart fails).2 fails
  · intro breaks
    cases breaks with
    | list converts hides =>
        obtain ⟨fault, unspelled⟩ := (Value.spelling_fails_iff _).2 (.inl hides)
        exact ⟨fault, .unspelled converts unspelled⟩
    | huge converts huge =>
        obtain ⟨fault, unspelled⟩ := (Value.spelling_fails_iff _).2 (.inr huge)
        exact ⟨fault, .unspelled converts unspelled⟩
    | overlong reads overlong =>
        obtain ⟨count, unread⟩ := Literal.numberValue_overlong overlong
        cases reads with
        | literal kind => exact ⟨_, .number kind unread⟩
        | key kind arrives pair found isNumber =>
            refine ⟨.tooManyDigits count, .key kind arrives pair found ?_ ?_⟩
            · simp [isNumber]
            · simp [Literal.propertyKey?, isNumber, unread, Except.map]
    | @tooLarge left right applies large fails =>
        by_cases joins : operatorOf t = "+" ∧ Operators.AreJoined left right
        · obtain ⟨sum, joined⟩ := joins
          rw [sum, Operators.binary_of_areJoined joined, Operators.concat_fails_iff] at fails
          obtain unspelled | ⟨⟨text, before⟩, unspelled⟩ := fails
          · exact ⟨_, .unspelled (.left applies sum joined) unspelled⟩
          · exact ⟨_, .unspelled (.right applies sum joined before) unspelled⟩
        · exact ⟨_, .tooLarge applies joins fails⟩

/-- The evaluation of an initializer reaches a node at which something fails. -/
def Breaks (context : Context) (t : Tree) : Prop :=
  ∃ deep names u, Reaches context (maxDepth + 1) [] t deep names u ∧ BreaksAt context deep names u

theorem value?_fails_iff (known : context.IsLexed) (lexed : t.IsLexed) :
    (∃ fault, value? context (some t) = .error fault) ↔ Breaks context t := by
  constructor
  · rintro ⟨fault, fails⟩
    obtain ⟨deep, names, u, reaches, trouble⟩ := evaluate_fails_iff.1 fails
    have breaks := (breaksAt_iff known (reaches.isLexed known lexed)).1 ⟨_, trouble⟩
    exact ⟨deep, names, u, reaches, breaks⟩
  · rintro ⟨deep, names, u, reaches, breaks⟩
    obtain ⟨fault, trouble⟩ := (breaksAt_iff known (reaches.isLexed known lexed)).2 breaks
    exact ⟨fault, evaluate_fails_iff.2 ⟨deep, names, u, reaches, trouble⟩⟩

end Lexed

end Expression

/-! ## Patterns -/

namespace Pattern

open Expression

/-- A property with a name that is read, and what it is taken apart into. -/
inductive Targets (child : Tree) : Tree → Prop where
  | mk {key target : Tree} {name : String} (pair : child.kind = "pair_pattern")
      (named : child.field? "key" = some key) (read : Literal.propertyKey? key = .ok (some name))
      (found : child.field? "value" = some target) : Targets child target

/-- The initializer of a property. -/
inductive Initializes (child : Tree) : Tree → Prop where
  | shorthand {left u : Tree} (assigned : child.kind = "object_assignment_pattern")
      (named : child.field? "left" = some left)
      (short : left.kind = "shorthand_property_identifier_pattern")
      (given : child.field? "right" = some u) : Initializes child u
  | value {target u : Tree} (targets : Targets child target)
      (assigned : target.kind = "assignment_pattern") (given : target.field? "right" = some u) :
      Initializes child u

/-- The pattern a property is taken apart by. -/
inductive Nests (child : Tree) : Tree → Prop where
  | assigned {target inner : Tree} (targets : Targets child target)
      (assigned : target.kind = "assignment_pattern") (found : target.field? "left" = some inner) :
      Nests child inner
  | bare {inner : Tree} (targets : Targets child inner)
      (isPattern : inner.kind = "object_pattern") : Nests child inner

/-- A number that is too long is the name of a property. -/
def HasOverlongName (child : Tree) : Prop :=
  child.kind = "pair_pattern" ∧
    ∃ key, child.field? "key" = some key ∧ key.kind = "number" ∧ Literal.IsOverlong key.text.toList

/-- Something fails in a pattern: an initializer, a name that is a number, or a pattern inside. -/
inductive Breaks (context : Context) : Tree → Prop where
  | initializer {pattern child u : Tree} (kind : pattern.kind = "object_pattern")
      (among : child ∈ pattern.named) (initializes : Initializes child u)
      (breaks : Expression.Breaks context u) : Breaks context pattern
  | name {pattern child : Tree} (kind : pattern.kind = "object_pattern")
      (among : child ∈ pattern.named) (overlong : HasOverlongName child) : Breaks context pattern
  | nested {pattern child inner : Tree} (kind : pattern.kind = "object_pattern")
      (among : child ∈ pattern.named) (nests : Nests child inner) (breaks : Breaks context inner) :
      Breaks context pattern

/-- What fails at a single property. -/
def PropertyBreaks (context : Context) (child : Tree) : Prop :=
  HasOverlongName child ∨ (∃ u, Initializes child u ∧ Expression.Breaks context u) ∨
    ∃ inner, Nests child inner ∧ Breaks context inner

section Lexed

variable {context : Context} {pattern child key target : Tree} {name : String}

theorem breaks_iff : Breaks context pattern ↔
    pattern.kind = "object_pattern" ∧ ∃ child ∈ pattern.named, PropertyBreaks context child := by
  constructor
  · intro breaks
    cases breaks with
    | initializer kind among initializes breaks =>
        exact ⟨kind, _, among, .inr (.inl ⟨_, initializes, breaks⟩)⟩
    | name kind among overlong => exact ⟨kind, _, among, .inl overlong⟩
    | nested kind among nests breaks => exact ⟨kind, _, among, .inr (.inr ⟨_, nests, breaks⟩)⟩
  · rintro ⟨kind, child, among, overlong | ⟨u, initializes, breaks⟩ | ⟨inner, nests, breaks⟩⟩
    · exact .name kind among overlong
    · exact .initializer kind among initializes breaks
    · exact .nested kind among nests breaks

/-- A property that is neither written short nor with a name of its own has nothing to fail. -/
theorem not_propertyBreaks (short : child.kind ≠ "object_assignment_pattern")
    (long : child.kind ≠ "pair_pattern") : ¬ PropertyBreaks context child := by
  rintro (⟨pair, -⟩ | ⟨_, initializes, -⟩ | ⟨_, nests, -⟩)
  · exact long pair
  · cases initializes with
    | shorthand assigned => exact short assigned
    | value targets =>
        obtain ⟨pair, -, -, -⟩ := targets
        exact long pair
  · cases nests with
    | assigned targets | bare targets =>
        obtain ⟨pair, -, -, -⟩ := targets
        exact long pair

/-- A property in short form fails with its initializer. -/
theorem propertyBreaks_shorthand (assigned : child.kind = "object_assignment_pattern") :
    PropertyBreaks context child ↔ ∃ left u, child.field? "left" = some left ∧
      left.kind = "shorthand_property_identifier_pattern" ∧ child.field? "right" = some u ∧
      Expression.Breaks context u := by
  constructor
  · rintro (⟨pair, -⟩ | ⟨u, initializes, breaks⟩ | ⟨_, nests, -⟩)
    · simp [assigned] at pair
    · cases initializes with
      | shorthand _ named short given => exact ⟨_, _, named, short, given, breaks⟩
      | value targets =>
          obtain ⟨pair, -, -, -⟩ := targets
          simp [assigned] at pair
    · cases nests with
      | assigned targets | bare targets =>
          obtain ⟨pair, -, -, -⟩ := targets
          simp [assigned] at pair
  · rintro ⟨left, u, named, short, given, breaks⟩
    exact .inr (.inl ⟨u, .shorthand assigned named short given, breaks⟩)

/-- A property whose name is read has only its target to fail: the initializer there, and the
pattern. -/
theorem propertyBreaks_of_read (pair : child.kind = "pair_pattern")
    (named : child.field? "key" = some key) (read : Literal.propertyKey? key = .ok (some name))
    (found : child.field? "value" = some target) : PropertyBreaks context child ↔
      (target.kind = "assignment_pattern" ∧
        ((∃ u, target.field? "right" = some u ∧ Expression.Breaks context u) ∨
          ∃ inner, target.field? "left" = some inner ∧ Breaks context inner)) ∨
      (target.kind = "object_pattern" ∧ Breaks context target) := by
  have targets : Targets child target := ⟨pair, named, read, found⟩
  have only {other : Tree} (another : Targets child other) : other = target := by
    obtain ⟨-, -, -, here⟩ := another
    exact Option.some.inj (here.symm.trans found)
  constructor
  · rintro (⟨-, other, named', isNumber, overlong⟩ | ⟨u, initializes, breaks⟩ |
      ⟨inner, nests, breaks⟩)
    · obtain rfl : key = other := Option.some.inj (named.symm.trans named')
      obtain ⟨count, unread⟩ := Literal.numberValue_overlong overlong
      simp [Literal.propertyKey?, isNumber, unread, Except.map] at read
    · cases initializes with
      | shorthand assigned => simp [assigned] at pair
      | value another assigned given =>
          obtain rfl := only another
          exact .inl ⟨assigned, .inl ⟨u, given, breaks⟩⟩
    · cases nests with
      | assigned another assigned inside =>
          obtain rfl := only another
          exact .inl ⟨assigned, .inr ⟨inner, inside, breaks⟩⟩
      | bare another isPattern =>
          obtain rfl := only another
          exact .inr ⟨isPattern, breaks⟩
  · rintro (⟨assigned, ⟨u, given, breaks⟩ | ⟨inner, found, breaks⟩⟩ | ⟨isPattern, breaks⟩)
    · exact .inr (.inl ⟨u, .value targets assigned given, breaks⟩)
    · exact .inr (.inr ⟨inner, .assigned targets assigned found, breaks⟩)
    · exact .inr (.inr ⟨target, .bare targets isPattern, breaks⟩)

/-- A property with a name that cannot be read, or without a target, fails only for its name. -/
theorem propertyBreaks_of_untargeted (pair : child.kind = "pair_pattern")
    (untargeted : ∀ target, ¬ Targets child target) :
    PropertyBreaks context child ↔ HasOverlongName child := by
  constructor
  · rintro (overlong | ⟨_, initializes, -⟩ | ⟨_, nests, -⟩)
    · exact overlong
    · cases initializes with
      | shorthand assigned => simp [assigned] at pair
      | value targets => exact absurd targets (untargeted _)
    · cases nests with
      | assigned targets | bare targets => exact absurd targets (untargeted _)
  · exact .inl

/-- A name is overlong exactly if it cannot be read as a key. -/
theorem hasOverlongName_iff (pair : child.kind = "pair_pattern")
    (named : child.field? "key" = some key) (lexed : key.IsLexed) :
    HasOverlongName child ↔ ∃ fault, Literal.propertyKey? key = .error fault := by
  rw [lexed.propertyKey?_fails_iff]
  simp [HasOverlongName, pair, named]

/-- Steps of which each fails or not, whatever came before, fail if one of them does. -/
theorem foldlM_fails_iff {α β : Type} {f : β → α → Result β} {P : α → Prop} {items : List α}
    (each : ∀ item ∈ items, ∀ b, (∃ fault, f b item = .error fault) ↔ P item) (b : β) :
    (∃ fault, items.foldlM f b = .error fault) ↔ ∃ item ∈ items, P item := by
  induction items generalizing b with
  | nil => simp [pure, Except.pure]
  | cons item rest ih =>
      have first := each item List.mem_cons_self b
      have others := ih fun other among => each other (List.mem_cons_of_mem _ among)
      rw [List.exists_mem_cons_iff, ← first, List.foldlM_cons]
      cases here : f b item with
      | error fault => simp [bind, Except.bind]
      | ok c =>
          simp only [bind, Except.bind, reduceCtorEq, exists_false, false_or]
          exact others c

/-- An initializer fails exactly if it breaks. -/
theorem initializer_fails_iff (known : context.IsLexed) {t : Option Tree}
    (lexed : ∀ u ∈ t, u.IsLexed) : (∃ fault, Expression.value? context t = .error fault) ↔
      ∃ u, t = some u ∧ Expression.Breaks context u := by
  cases t with
  | none => simp [Expression.value?]
  | some u => simpa using value?_fails_iff known (lexed u rfl)

/-- What is made of a result fails with it. -/
theorem map_fails_iff {α β : Type} {x : Result α} {f : α → β} :
    (∃ fault, (do return f (← x) : Result β) = .error fault) ↔ ∃ fault, x = .error fault := by
  cases x <;> simp [bind, Except.bind, pure, Except.pure]

/-- A pattern fails exactly if an initializer in it breaks. -/
theorem patternDefaults_fails_iff (known : context.IsLexed) (pattern : Tree)
    (lexed : pattern.IsLexed) :
    (∃ fault, patternDefaults context pattern = .error fault) ↔ Breaks context pattern := by
  rw [breaks_iff, patternDefaults]
  by_cases kind : pattern.kind = "object_pattern"
  swap
  · simp [kind]
  simp only [bne_iff_ne, ne_eq, kind, not_true_eq_false, if_false, true_and]
  refine (foldlM_fails_iff (P := fun item => PropertyBreaks context item.1) ?_ []).trans
    (by simp)
  rintro ⟨child, among⟩ - defaults
  have inChild := Tree.sizeOf_lt_of_mem_children (Tree.mem_children_of_mem_named among)
  have fine := lexed.named among
  by_cases short : child.kind = "object_assignment_pattern"
  · rw [propertyBreaks_shorthand short]
    simp only [short, beq_self_eq_true, if_true]
    cases named : child.field? "left" with
    | none => simp [pure, Except.pure]
    | some left =>
        by_cases plain : left.kind = "shorthand_property_identifier_pattern"
        · simp only [plain, beq_self_eq_true, if_true, map_fails_iff]
          rw [initializer_fails_iff known fun u given => fine.field? given]
          simp [plain]
        · simp [plain, pure, Except.pure]
  by_cases pair : child.kind = "pair_pattern"
  swap
  · simp [short, pair, not_propertyBreaks short pair, pure, Except.pure]
  rw [if_neg (by simpa using short), if_pos (by simpa using pair)]
  cases named : child.field? "key" with
  | none =>
      have untargeted : ∀ target, ¬ Targets child target := by
        rintro target ⟨-, found, -, -⟩
        simp [named] at found
      rw [propertyBreaks_of_untargeted pair untargeted]
      simp [HasOverlongName, named, pure, Except.pure, bind, Except.bind]
  | some key =>
      have overlong := hasOverlongName_iff pair named (fine.field? named)
      cases read : Literal.propertyKey? key with
      | error fault =>
          have breaks : PropertyBreaks context child := .inl (overlong.2 ⟨fault, read⟩)
          simp [read, breaks, bind, Except.bind]
      | ok name =>
          have fits : ¬ HasOverlongName child := by simp [overlong, read]
          simp only [read, bind, Except.bind]
          split
          · next name target found =>
              have inTarget := Tree.sizeOf_lt_of_mem_children (Tree.mem_children_of_field? found)
              have good := fine.field? found
              rw [propertyBreaks_of_read pair named read found]
              by_cases assigned : target.kind = "assignment_pattern"
              · have evaluated := initializer_fails_iff known
                  fun u (given : u ∈ target.field? "right") => good.field? given
                rw [if_pos (by simpa using assigned)]
                simp only [assigned, true_and, ← evaluated, String.reduceEq, false_and, or_false]
                cases Expression.value? context (target.field? "right") with
                | error fault => simp
                | ok value =>
                    simp only [reduceCtorEq, exists_false, false_or]
                    split
                    · next inner inside =>
                        have inInner :=
                          Tree.sizeOf_lt_of_mem_children (Tree.mem_children_of_field? inside)
                        have nested := patternDefaults_fails_iff known inner (good.field? inside)
                        simp only [inside, Option.some.injEq, exists_eq_left', ← nested]
                        cases patternDefaults context inner <;> simp [pure, Except.pure]
                    · next bare => simp [bare, pure, Except.pure]
              · rw [if_neg (by simpa using assigned)]
                by_cases isPattern : target.kind = "object_pattern"
                · rw [if_pos (by simpa using isPattern)]
                  have nested := patternDefaults_fails_iff known target good
                  simp only [isPattern, String.reduceEq, false_and, true_and, false_or, ← nested]
                  cases patternDefaults context target <;> simp [pure, Except.pure]
                · simp [assigned, isPattern, pure, Except.pure]
          · next absent =>
              have untargeted : ∀ target, ¬ Targets child target := by
                rintro target ⟨-, found, another, given⟩
                obtain rfl : key = _ := Option.some.inj (named.symm.trans found)
                exact absent _ _ (Except.ok.inj (read.symm.trans another)) given
              simp [propertyBreaks_of_untargeted pair untargeted, fits, pure, Except.pure]
termination_by sizeOf pattern

/-- Patterns are evaluated one after the other. -/
theorem patterns_fail_iff (known : context.IsLexed) {patterns : List Tree}
    (lexed : ∀ pattern ∈ patterns, pattern.IsLexed) (inside : Entries Value) :
    (∃ fault, patterns.foldlM (fun defaults pattern => do
        return Entries.putAll defaults (← patternDefaults context pattern)) inside = .error fault) ↔
      ∃ pattern ∈ patterns, Breaks context pattern :=
  foldlM_fails_iff (fun pattern among _ =>
    map_fails_iff.trans (patternDefaults_fails_iff known pattern (lexed pattern among))) inside

/-- Reading the default of a declaration fails exactly if its initializer or a pattern breaks. -/
theorem declarationDefault_fails_iff (known : context.IsLexed) {initializer : Option Tree}
    {patterns : List Tree} (given : ∀ t ∈ initializer, t.IsLexed)
    (lexed : ∀ pattern ∈ patterns, pattern.IsLexed) :
    (∃ fault, declarationDefault context initializer patterns = .error fault) ↔
      (∃ t, initializer = some t ∧ Expression.Breaks context t) ∨
        ∃ pattern ∈ patterns, Breaks context pattern := by
  rw [← initializer_fails_iff known given, ← patterns_fail_iff known lexed []]
  unfold declarationDefault
  cases Expression.value? context initializer with
  | error fault => simp [bind, Except.bind]
  | ok value =>
      simp only [bind, Except.bind, reduceCtorEq, exists_false, false_or]
      split <;> simp_all [pure, Except.pure]

end Lexed

end Pattern

/-! ## The defaults that are refused -/

/-- Where all number literals and escape sequences are those of the grammar, and look-ups find
such trees, an initializer, a pattern or a declaration with both is refused exactly if something
breaks that is evaluated for it. -/
theorem defaults_fail_iff {context : Expression.Context} (known : context.IsLexed) :
    (∀ t : Tree, t.IsLexed → ((∃ fault, Expression.value? context (some t) = .error fault) ↔
      Expression.Breaks context t)) ∧
    (∀ pattern : Tree, pattern.IsLexed →
      ((∃ fault, patternDefaults context pattern = .error fault) ↔
        Pattern.Breaks context pattern)) ∧
    ∀ (initializer : Option Tree) (patterns : List Tree), (∀ t ∈ initializer, t.IsLexed) →
      (∀ pattern ∈ patterns, pattern.IsLexed) →
      ((∃ fault, declarationDefault context initializer patterns = .error fault) ↔
        (∃ t, initializer = some t ∧ Expression.Breaks context t) ∨
          ∃ pattern ∈ patterns, Pattern.Breaks context pattern) := by
  refine ⟨fun t lexed => ?_, fun pattern lexed => ?_, fun initializer patterns given lexed => ?_⟩
  · exact Expression.value?_fails_iff known lexed
  · exact Pattern.patternDefaults_fails_iff known pattern lexed
  · exact Pattern.declarationDefault_fails_iff known given lexed

/-! ### An object in a list

`'' + [{}]` is refused, while `'' + {}` is unresolved. -/

namespace Joining

/-- A named node that may play a field. -/
def node (kind text : String) (field : Option String := none) (children : List Tree := []) : Tree :=
  .node { kind, text, start := 0, stop := 0, first := ⟨0, 0⟩, last := ⟨0, 0⟩, named := true,
          missing := false, field } children

/-- An empty text to which something is added. -/
def joinedTo (text : String) (operand : Tree) : Tree :=
  node "binary_expression" text none
    [node "string" "''" (some "left"), node "+" "+" (some "operator"), operand]

/-- An object. -/
def plain : Tree := joinedTo "'' + {}" (node "object" "{}" (some "right"))

/-- An object in a list. -/
def listed : Tree :=
  joinedTo "'' + [{}]" (node "array" "[{}]" (some "right") [node "object" "{}"])

theorem isLexed_node {kind text : String} {field : Option String} {children : List Tree}
    (number : kind ≠ "number") (escape : kind ≠ "escape_sequence")
    (below : ∀ child ∈ children, child.IsLexed) : (node kind text field children).IsLexed :=
  .node (fun same => absurd same number) (fun same => absurd same escape) below

theorem isLexed_joinedTo {text : String} {operand : Tree} (lexed : operand.IsLexed) :
    (joinedTo text operand).IsLexed := by
  refine isLexed_node (by decide) (by decide) fun child among => ?_
  simp only [List.mem_cons, List.not_mem_nil, or_false] at among
  rcases among with rfl | rfl | rfl
  · exact isLexed_node (by decide) (by decide) nofun
  · exact isLexed_node (by decide) (by decide) nofun
  · exact lexed

theorem isLexed_plain : plain.IsLexed :=
  isLexed_joinedTo (isLexed_node (by decide) (by decide) nofun)

theorem isLexed_listed : listed.IsLexed := by
  refine isLexed_joinedTo (isLexed_node (by decide) (by decide) fun child among => ?_)
  obtain rfl := List.mem_singleton.1 among
  exact isLexed_node (by decide) (by decide) nofun

end Joining

open Joining in
theorem defaults_fail_iff_objectInList :
    Expression.Breaks {} listed ∧ ¬ Expression.Breaks {} plain ∧
      ∃ fault, declarationDefault {} (some listed) [] = .error fault := by
  have known : Expression.Context.IsLexed {} := nofun
  obtain ⟨initializers, -, declarations⟩ := defaults_fail_iff known
  have refused : Expression.value? {} (some listed) = .error .notText := rfl
  have unresolved : Expression.value? {} (some plain) = .ok none := rfl
  have breaks : Expression.Breaks {} listed := (initializers listed isLexed_listed).1 ⟨_, refused⟩
  refine ⟨breaks, fun alike => ?_, ?_⟩
  · obtain ⟨fault, failed⟩ := (initializers plain isLexed_plain).2 alike
    simp [unresolved] at failed
  · refine (declarations (some listed) [] ?_ nofun).2 (.inl ⟨listed, rfl, breaks⟩)
    rintro t ⟨⟩
    exact isLexed_listed

end TypeGloss
