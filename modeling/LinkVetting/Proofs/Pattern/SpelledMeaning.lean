import LinkVetting.Pattern.Meaning

/-!
# Spelled meanings of patterns

The sets of a regular expression are functions, so two expressions cannot be
compared by computation.  A spelled expression writes its sets out and can be.
`spelled?` reads a spelled expression off the syntax of a pattern that keeps to
literals, anchors, brackets without classes by name, repetitions, groups and
choices; `ofPattern_of_spelled?` says that it stands for the meaning of the
pattern.
-/

namespace LinkVetting.Pattern

/-- A set of codes that is written out. -/
inductive SpelledSet where
  | codes (list : List Nat)
  /-- The case variants of a code; they are not computed. -/
  | variants (code : Nat)
  | between (first last : Nat)
  | union (left right : SpelledSet)
  | complement (inside : SpelledSet)
  deriving DecidableEq

namespace SpelledSet

def members : SpelledSet → CodeSet
  | .codes list => .ofList list
  | .variants code => .ofList (Unicode.caseVariants code)
  | .between first last => .between first last
  | .union left right => .union left.members right.members
  | .complement inside => .complement inside.members

/-- The set or its complement. -/
def signed (negated : Bool) (set : SpelledSet) : SpelledSet :=
  if negated then .complement set else set

def unionOf : List SpelledSet → SpelledSet
  | [] => .codes []
  | [set] => set
  | set :: later => .union set (unionOf later)

theorem members_code_iff {c d : Char} :
    (codes [d.toNat]).members c.toNat = true ↔ c = d := by
  rw [← Char.toNat_inj]
  simp [members, CodeSet.ofList]

theorem members_unionOf_iff {sets : List SpelledSet} {code : Nat} :
    (unionOf sets).members code = true ↔
      ∃ set ∈ sets, set.members code = true := by
  induction sets with
  | nil => simp [unionOf, members, CodeSet.ofList]
  | cons set sets induction =>
      cases sets with
      | nil => simp [unionOf]
      | cons next later =>
          simp only [unionOf, members, CodeSet.union, Bool.or_eq_true] at induction ⊢
          simp [induction]

theorem members_someCode_iff {characters : List Char} {c : Char} :
    (∃ set ∈ characters.map fun d => codes [d.toNat], set.members c.toNat = true) ↔
      c ∈ characters := by
  constructor
  · intro found
    obtain ⟨_, member, found⟩ := found
    obtain ⟨d, inCharacters, rfl⟩ := List.mem_map.mp member
    rwa [members_code_iff.mp found]
  · intro inCharacters
    exact ⟨_, List.mem_map_of_mem inCharacters, members_code_iff.mpr rfl⟩

end SpelledSet

/-- A regular expression whose sets are written out. -/
inductive Spelled where
  | never
  | empty
  | boundary (condition : Boundary)
  | set (members : SpelledSet)
  | seq (first second : Spelled)
  | either (left right : Spelled)
  | repeated (body : Spelled) (least : Nat) (most : Option Nat)
  deriving DecidableEq

namespace Spelled

/-- The expression that a spelled expression stands for. -/
def regex : Spelled → Regex
  | .never => .never
  | .empty => .empty
  | .boundary condition => .boundary condition
  | .set members => .ofCodes members.members
  | .seq first second => .seq first.regex second.regex
  | .either left right => .either left.regex right.regex
  | .repeated body least most => body.regex.repeated least most

def sequence : List Spelled → Spelled
  | [] => .empty
  | [part] => part
  | part :: later => .seq part (sequence later)

def choice : List Spelled → Spelled
  | [] => .never
  | [branch] => branch
  | branch :: later => .either branch (choice later)

theorem regex_sequence (parts : List Spelled) :
    (sequence parts).regex = Regex.sequence (parts.map regex) := by
  induction parts with
  | nil => rfl
  | cons part parts induction =>
      cases parts with
      | nil => rfl
      | cons next later =>
          simpa [sequence, regex, Regex.sequence] using induction

theorem regex_choice (branches : List Spelled) :
    (choice branches).regex = Regex.choice (branches.map regex) := by
  induction branches with
  | nil => rfl
  | cons branch branches induction =>
      cases branches with
      | nil => rfl
      | cons next later =>
          simpa [choice, regex, Regex.choice] using induction

end Spelled

mutual

/-- The set inside brackets, written out. -/
def SetTree.spelled? : SetTree → Option SpelledSet
  | .empty _ => some (.codes [])
  | .literal written => some (.codes [written.char.toNat])
  | .range _ first last => some (.between first.char.toNat last.char.toNat)
  | .bracketed _ negated inside => do
      let set ← inside.spelled?
      return set.signed negated
  | .union _ items => (SetTree.allSpelled? items).map SpelledSet.unionOf
  | .ascii .. | .named .. | .escaped .. | .operation .. => none

def SetTree.allSpelled? : List SetTree → Option (List SpelledSet)
  | [] => some []
  | item :: later => do
      let set ← item.spelled?
      let others ← SetTree.allSpelled? later
      return set :: others

end

mutual

/-- The expression of a pattern, written out, and the switches after it. -/
def Tree.spelled? (switches : Switches) : Tree → Option (Spelled × Switches)
  | .empty _ => some (.empty, switches)
  | .flags _ change => some (.empty, switches.apply change)
  | .literal written =>
      if !switches.unicode then
        if written.isHexByte || !switches.caseInsensitive then none
        else
          let code := written.char.toNat
          some (.set (.codes [code, CodeSet.otherAsciiCase code]), switches)
      else if switches.caseInsensitive then
        some (.set (.variants written.char.toNat), switches)
      else some (.set (.codes [written.char.toNat]), switches)
  | .anchor _ kind => some (.boundary (kind.boundary switches), switches)
  | .bracketed _ negated inside =>
      if switches.caseInsensitive || !switches.unicode then none
      else do
        let set ← inside.spelled?
        return (.set (set.signed negated), switches)
  | .repetition _ least most body =>
      if body.isWidthless then none
      else do
        let (inside, after) ← body.spelled? switches
        return (.repeated inside least most, after)
  | .group _ change body => do
      let (inside, _) ← body.spelled? (switches.apply change)
      return (inside, switches)
  | .alternation _ branches => do
      let (parts, after) ← Tree.allSpelled? switches branches
      return (.choice parts, after)
  | .concat _ parts => do
      let (expressions, after) ← Tree.allSpelled? switches parts
      return (.sequence expressions, after)
  | .dot _ | .named .. | .escaped .. => none

def Tree.allSpelled? (switches : Switches) :
    List Tree → Option (List Spelled × Switches)
  | [] => some ([], switches)
  | tree :: later => do
      let (first, between) ← tree.spelled? switches
      let (others, after) ← Tree.allSpelled? between later
      return (first :: others, after)

end

section

variable {switches : Switches}

private theorem finish_members (plain : switches.caseInsensitive = false)
    (unicode : switches.unicode = true) (span : Span) (negated : Bool)
    (set : SpelledSet) :
    CodeSet.finish switches span negated set.members =
      .ok (set.signed negated).members := by
  cases negated <;>
    simp [CodeSet.finish, CodeSet.caseless, plain, unicode,
      SpelledSet.signed, SpelledSet.members]

mutual

theorem SetTree.members_of_spelled? (plain : switches.caseInsensitive = false)
    (unicode : switches.unicode = true) (tree : SetTree) {set : SpelledSet}
    (spelling : tree.spelled? = some set) :
    tree.members switches = .ok set.members := by
  cases tree with
  | empty span =>
      cases spelling
      simp only [SetTree.members, SpelledSet.members]
      rfl
  | literal written =>
      cases spelling
      simp only [SetTree.members, Literal.code, unicode, Bool.true_or, if_true]
      rfl
  | range span first last =>
      cases spelling
      simp only [SetTree.members, Literal.code, unicode, Bool.true_or, if_true]
      rfl
  | bracketed span negated inside =>
      simp only [SetTree.spelled?, Option.bind_eq_bind, Option.bind_eq_some_iff,
        Option.pure_def, Option.some.injEq] at spelling
      obtain ⟨inner, innerSpelling, rfl⟩ := spelling
      have innerMeaning :=
        SetTree.members_of_spelled? plain unicode inside innerSpelling
      rw [SetTree.members, innerMeaning]
      exact finish_members plain unicode span negated inner
  | union span items =>
      simp only [SetTree.spelled?, Option.map_eq_some_iff] at spelling
      obtain ⟨sets, setsSpelling, rfl⟩ := spelling
      simpa only [SetTree.members] using
        SetTree.unionMembers_of_allSpelled? plain unicode items setsSpelling
  | ascii | named | escaped | operation => simp [SetTree.spelled?] at spelling

theorem SetTree.unionMembers_of_allSpelled?
    (plain : switches.caseInsensitive = false) (unicode : switches.unicode = true)
    (items : List SetTree) {sets : List SpelledSet}
    (spelling : SetTree.allSpelled? items = some sets) :
    SetTree.unionMembers switches items =
      .ok (SpelledSet.unionOf sets).members := by
  cases items with
  | nil =>
      cases spelling
      simp only [SetTree.unionMembers, SpelledSet.unionOf, SpelledSet.members]
      rfl
  | cons item items =>
      simp only [SetTree.allSpelled?, Option.bind_eq_bind, Option.bind_eq_some_iff,
        Option.pure_def, Option.some.injEq] at spelling
      obtain ⟨set, itemSpelling, others, othersSpelling, rfl⟩ := spelling
      have itemMeaning := SetTree.members_of_spelled? plain unicode item itemSpelling
      have othersMeaning :=
        SetTree.unionMembers_of_allSpelled? plain unicode items othersSpelling
      cases items with
      | nil =>
          cases othersSpelling
          simpa only [SetTree.unionMembers, SpelledSet.unionOf] using itemMeaning
      | cons next later =>
          have atLeastOne : ∃ second rest, others = second :: rest := by
            simp only [SetTree.allSpelled?, Option.bind_eq_bind,
              Option.bind_eq_some_iff, Option.pure_def, Option.some.injEq]
              at othersSpelling
            obtain ⟨second, _, rest, _, rfl⟩ := othersSpelling
            exact ⟨second, rest, rfl⟩
          obtain ⟨second, rest, rfl⟩ := atLeastOne
          rw [SetTree.unionMembers, itemMeaning, othersMeaning]
          · rfl
          · exact List.cons_ne_nil next later

end

end

mutual

theorem Tree.meaning_of_spelled? {switches after : Switches} (tree : Tree)
    {spelled : Spelled} (spelling : tree.spelled? switches = some (spelled, after)) :
    tree.meaning switches = .ok (spelled.regex, after) := by
  cases tree with
  | empty span =>
      cases spelling
      rfl
  | flags span change =>
      cases spelling
      rfl
  | literal written =>
      simp only [Tree.spelled?] at spelling
      split at spelling
      · rename_i bytes
        simp only [Bool.not_eq_true'] at bytes
        split at spelling
        · cases spelling
        · rename_i supported
          simp only [Bool.or_eq_true, Bool.not_eq_true', not_or, Bool.not_eq_true,
            Bool.not_eq_false] at supported
          obtain ⟨plain, caseless⟩ := supported
          cases spelling
          simp only [Tree.meaning, Literal.codes, bytes, plain, caseless]
          rfl
      · rename_i unicode
        simp only [Bool.not_eq_true', Bool.not_eq_false] at unicode
        split at spelling
        · rename_i caseless
          cases spelling
          simp only [Tree.meaning, Literal.codes, unicode, caseless]
          rfl
        · rename_i plain
          simp only [Bool.not_eq_true] at plain
          cases spelling
          simp only [Tree.meaning, Literal.codes, unicode, plain]
          rfl
  | anchor span kind =>
      cases spelling
      rfl
  | bracketed span negated inside =>
      simp only [Tree.spelled?] at spelling
      split at spelling
      · cases spelling
      · rename_i supported
        simp only [Bool.or_eq_true, Bool.not_eq_true', not_or, Bool.not_eq_true,
          Bool.not_eq_false] at supported
        obtain ⟨plain, unicode⟩ := supported
        simp only [Option.bind_eq_bind, Option.bind_eq_some_iff, Option.pure_def,
          Option.some.injEq, Prod.mk.injEq] at spelling
        obtain ⟨set, setSpelling, rfl, rfl⟩ := spelling
        have setMeaning :=
          SetTree.members_of_spelled? plain unicode inside setSpelling
        have finished := finish_members plain unicode span negated set
        rw [Tree.meaning, setMeaning]
        change (CodeSet.finish switches span negated set.members).bind _ = _
        rw [finished]
        rfl
  | repetition span least most body =>
      simp only [Tree.spelled?] at spelling
      split at spelling
      · cases spelling
      · rename_i consumes
        simp only [Option.bind_eq_bind, Option.bind_eq_some_iff, Option.pure_def,
          Option.some.injEq, Prod.mk.injEq] at spelling
        obtain ⟨⟨inside, last⟩, bodySpelling, rfl, rfl⟩ := spelling
        have bodyMeaning := Tree.meaning_of_spelled? body bodySpelling
        rw [Tree.meaning, bodyMeaning]
        change (if body.isWidthless then _ else _) = _
        rw [if_neg consumes]
        rfl
  | group span change body =>
      simp only [Tree.spelled?, Option.bind_eq_bind, Option.bind_eq_some_iff,
        Option.pure_def, Option.some.injEq, Prod.mk.injEq] at spelling
      obtain ⟨⟨inside, last⟩, bodySpelling, rfl, rfl⟩ := spelling
      have bodyMeaning := Tree.meaning_of_spelled? body bodySpelling
      rw [Tree.meaning, bodyMeaning]
      rfl
  | alternation span branches =>
      simp only [Tree.spelled?, Option.bind_eq_bind, Option.bind_eq_some_iff,
        Option.pure_def, Option.some.injEq, Prod.mk.injEq] at spelling
      obtain ⟨⟨parts, last⟩, branchesSpelling, rfl, rfl⟩ := spelling
      have branchesMeaning := Tree.meanings_of_allSpelled? branches branchesSpelling
      rw [Tree.meaning, branchesMeaning, Spelled.regex_choice]
      rfl
  | concat span parts =>
      simp only [Tree.spelled?, Option.bind_eq_bind, Option.bind_eq_some_iff,
        Option.pure_def, Option.some.injEq, Prod.mk.injEq] at spelling
      obtain ⟨⟨expressions, last⟩, partsSpelling, rfl, rfl⟩ := spelling
      have partsMeaning := Tree.meanings_of_allSpelled? parts partsSpelling
      rw [Tree.meaning, partsMeaning, Spelled.regex_sequence]
      rfl
  | dot | named | escaped => simp [Tree.spelled?] at spelling

theorem Tree.meanings_of_allSpelled? {switches after : Switches}
    (trees : List Tree) {parts : List Spelled}
    (spelling : Tree.allSpelled? switches trees = some (parts, after)) :
    Tree.meanings switches trees = .ok (parts.map Spelled.regex, after) := by
  cases trees with
  | nil =>
      cases spelling
      rfl
  | cons tree trees =>
      simp only [Tree.allSpelled?, Option.bind_eq_bind, Option.bind_eq_some_iff,
        Option.pure_def, Option.some.injEq, Prod.mk.injEq] at spelling
      obtain ⟨⟨first, between⟩, firstSpelling, ⟨others, last⟩, othersSpelling, rfl, rfl⟩ :=
        spelling
      have firstMeaning := Tree.meaning_of_spelled? tree firstSpelling
      have othersMeaning := Tree.meanings_of_allSpelled? trees othersSpelling
      rw [Tree.meanings, firstMeaning]
      change (Tree.meanings between trees).bind _ = _
      rw [othersMeaning]
      rfl

end

/-- The expression of a pattern, written out, if the pattern keeps to what can
be spelled. -/
def Regex.spelled? (pattern : List Char) : Option Spelled := do
  let tree ← (Tree.read pattern).toOption
  let (spelled, _) ← tree.spelled? {}
  return spelled

/-- Whether a check finds a pattern too large. -/
def SizeCheck.refuses (tooLarge : SizeCheck) (pattern : List Char) : Bool :=
  (Tree.read pattern).toOption.any tooLarge

theorem Regex.ofPattern_of_spelled? {pattern : List Char} {spelled : Spelled}
    {tooLarge : SizeCheck} (spelling : Regex.spelled? pattern = some spelled)
    (fits : tooLarge.refuses pattern = false) :
    Regex.ofPattern pattern tooLarge = .ok spelled.regex := by
  cases answer : Tree.read pattern with
  | error fault =>
      simp [Regex.spelled?, answer, Except.toOption] at spelling
  | ok tree =>
      simp only [SizeCheck.refuses, answer, Except.toOption, Option.any_some] at fits
      simp only [Regex.spelled?, answer, Except.toOption, Option.bind_eq_bind, Option.bind_some,
        Option.bind_eq_some_iff, Option.pure_def, Option.some.injEq] at spelling
      obtain ⟨⟨found, last⟩, treeSpelling, rfl⟩ := spelling
      have treeMeaning := Tree.meaning_of_spelled? tree treeSpelling
      rw [Regex.ofPattern, answer]
      change (if tooLarge tree then _ else (tree.meaning {}).bind _) = _
      rw [fits, if_neg Bool.false_ne_true, treeMeaning]
      rfl

end LinkVetting.Pattern
