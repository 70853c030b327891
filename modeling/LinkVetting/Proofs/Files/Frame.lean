import LinkVetting.Proofs.Files.Opening

/-!
# What is left alone on a disk

A disk is touched at one place only if everything away from it stays as it is, apart
from missing directories on the way to it, and what the file there holds stays the
first part of what it holds afterwards.  Adding an empty directory or a file, and
adding to a file, touch a disk in this way.
-/

namespace LinkVetting.Files

namespace Node

/-- Nothing stands below the node. -/
def IsLeaf (node : Node) : Prop := ∀ name later, node.get? (name :: later) = none

theorem isLeaf_file {content : List UInt8} : (file content).IsLeaf := fun _ _ => rfl

theorem isLeaf_emptyDirectory : (directory []).IsLeaf := by
  intro name later
  rw [get?, List.lookup_nil]

section

variable {node new found : Node} {place other first rest : List Name}

theorem get?_append : node.get? (first ++ rest) = (node.get? first).bind (·.get? rest) := by
  induction first generalizing node with
  | nil => rw [List.nil_append, get?, Option.bind_some]
  | cons name first induction =>
      cases node with
      | file content => rfl
      | device isFull => rfl
      | directory entries =>
          rw [List.cons_append, get?, get?]
          cases entries.lookup name with
          | none => rfl
          | some inner => exact induction

theorem exists_directory_of_get?_cons {name : Name}
    (present : node.get? (name :: rest) = some found) : ∃ entries, node = .directory entries := by
  cases node with
  | file content => cases present
  | device isFull => cases present
  | directory entries => exact ⟨entries, rfl⟩

/-- A leaf that is put where nothing or a leaf was changes nothing but on the way to its
place. -/
theorem get?_put_elsewhere (leaf : new.IsLeaf)
    (held : ∀ before, node.get? place = some before → before.IsLeaf)
    (apart : ¬ other <+: place) : (node.put place new).get? other = node.get? other := by
  induction place generalizing node other with
  | nil =>
      cases other with
      | nil => exact absurd List.prefix_rfl apart
      | cons name later =>
          have leafBefore : node.IsLeaf := held node rfl
          rw [put, leaf, leafBefore]
  | cons name later induction =>
      cases node with
      | file content => rfl
      | device isFull => rfl
      | directory entries =>
          cases other with
          | nil => exact absurd List.nil_prefix apart
          | cons next others =>
              by_cases same : next = name
              · subst same
                have apartBelow : ¬ others <+: later := by
                  intro below
                  exact apart ((List.prefix_cons_inj next).mpr below)
                rw [put, get?, get?, lookup_putEntry_self]
                rw [get?] at held
                cases child : entries.lookup next with
                | none =>
                    -- a directory is put first, and nothing but the leaf is below it
                    have heldBelow : ∀ before,
                        (directory []).get? later = some before → before.IsLeaf := by
                      intro before present
                      cases later with
                      | nil =>
                          rw [get?] at present
                          exact Option.some.inj present ▸ isLeaf_emptyDirectory
                      | cons third fourth =>
                          rw [isLeaf_emptyDirectory] at present
                          cases present
                    have below := induction heldBelow apartBelow
                    cases others with
                    | nil => exact absurd List.nil_prefix apartBelow
                    | cons third fourth => exact below.trans (isLeaf_emptyDirectory third fourth)
                | some inner =>
                    rw [child] at held
                    exact induction held apartBelow
              · rw [put, get?, get?, lookup_putEntry_other same]

theorem get?_put_child {name : Name} {entries : List (Name × Node)}
    (inside : node.get? place = some (.directory entries)) :
    (node.put (place ++ [name]) new).get? (place ++ [name]) = some new := by
  induction place generalizing node with
  | nil =>
      obtain rfl := Option.some.inj inside
      rw [List.nil_append, put, get?, lookup_putEntry_self]
      rfl
  | cons first later induction =>
      obtain ⟨others, rfl⟩ := exists_directory_of_get?_cons inside
      rw [get?] at inside
      cases child : others.lookup first with
      | none =>
          rw [child] at inside
          cases inside
      | some inner =>
          rw [child] at inside
          rw [List.cons_append, put, child, get?, lookup_putEntry_self]
          exact induction inside

/-- On the way to the place of a node that is put everything stays there. -/
theorem isSome_get?_put (onWay : other <+: place) (present : (node.get? other).isSome = true) :
    ((node.put place new).get? other).isSome = true := by
  induction place generalizing node other with
  | nil =>
      obtain rfl := List.prefix_nil.mp onWay
      rfl
  | cons name later induction =>
      cases node with
      | file content => exact present
      | device isFull => exact present
      | directory entries =>
          cases other with
          | nil => rfl
          | cons next others =>
              obtain ⟨rfl, onWayBelow⟩ := List.cons_prefix_cons.mp onWay
              rw [put, get?, lookup_putEntry_self]
              rw [get?] at present
              cases child : entries.lookup next with
              | none =>
                  rw [child] at present
                  cases present
              | some inner =>
                  rw [child] at present
                  exact induction onWayBelow present

/-- On the way to the place of a node that is put no file or device comes or changes. -/
theorem get?_put_onWay (plain : found.isDirectory = false) (onWay : other <+: place)
    (different : other ≠ place) :
    (node.put place new).get? other = some found ↔ node.get? other = some found := by
  have notDirectory (entries : List (Name × Node)) : directory entries ≠ found := by
    intro same
    rw [← same] at plain
    cases plain
  induction place generalizing node other with
  | nil => exact absurd (List.prefix_nil.mp onWay) different
  | cons name later induction =>
      cases node with
      | file content => rfl
      | device isFull => rfl
      | directory entries =>
          cases other with
          | nil =>
              rw [put, get?, get?]
              exact iff_of_false (fun same => notDirectory _ (Option.some.inj same))
                fun same => notDirectory _ (Option.some.inj same)
          | cons next others =>
              obtain ⟨rfl, onWayBelow⟩ := List.cons_prefix_cons.mp onWay
              have differentBelow : others ≠ later := by
                intro same
                exact different (by rw [same])
              rw [put, get?, get?, lookup_putEntry_self]
              cases child : entries.lookup next with
              | none =>
                  have below := @induction (directory []) others onWayBelow differentBelow
                  apply below.trans
                  apply iff_of_false
                  · cases others with
                    | nil => exact fun same => notDirectory _ (Option.some.inj same)
                    | cons third fourth =>
                        rw [isLeaf_emptyDirectory]
                        exact Option.some_ne_none found ∘ Eq.symm
                  · exact Option.some_ne_none found ∘ Eq.symm
              | some inner => exact induction onWayBelow differentBelow

/-- A leaf that is put where nothing or a leaf was leaves all files and devices at other
places as they are. -/
theorem get?_put_plain (leaf : new.IsLeaf)
    (held : ∀ before, node.get? place = some before → before.IsLeaf)
    (plain : found.isDirectory = false) (different : other ≠ place) :
    (node.put place new).get? other = some found ↔ node.get? other = some found := by
  by_cases onWay : other <+: place
  · exact get?_put_onWay plain onWay different
  · rw [get?_put_elsewhere leaf held onWay]

end

end Node

namespace Disk

/-- One disk differs from another at most in a file at one place and in directories on the
way to it; without a place it does not differ. -/
structure TouchesOnly (place? : Option (List Name)) (before after : Disk) : Prop where
  /-- All other files and devices stay as they are, and no other ones come. -/
  files : ∀ place node, place? ≠ some place → node.isDirectory = false →
    (after.root.get? place = some node ↔ before.root.get? place = some node)
  /-- Away from the way to the place everything stays as it is. -/
  elsewhere : ∀ place, (∀ touched, place? = some touched → ¬ place <+: touched) →
    after.root.get? place = before.root.get? place
  /-- Nothing goes away. -/
  kept : ∀ place, (before.root.get? place).isSome = true → (after.root.get? place).isSome = true
  /-- What the file at the place held stays the first part of what it holds. -/
  content : ∀ touched, place? = some touched →
    before.contentAt touched <+: after.contentAt touched

section

variable {place? : Option (List Name)} {place touched : List Name}
variable {disk before middle after : Disk} {content more : List UInt8}

theorem TouchesOnly.refl : TouchesOnly place? disk disk where
  files := fun _ _ _ _ => Iff.rfl
  elsewhere := fun _ _ => rfl
  kept := fun _ present => present
  content := fun _ _ => List.prefix_rfl

theorem TouchesOnly.trans (first : TouchesOnly place? before middle)
    (second : TouchesOnly place? middle after) : TouchesOnly place? before after where
  files := fun place node different plain =>
    (second.files place node different plain).trans (first.files place node different plain)
  elsewhere := fun place apart =>
    (second.elsewhere place apart).trans (first.elsewhere place apart)
  kept := fun place present => second.kept place (first.kept place present)
  content := fun touched here => (first.content touched here).trans (second.content touched here)

theorem touchesOnly_put {new : Node} (leaf : new.IsLeaf)
    (held : ∀ found, disk.root.get? place = some found → found.IsLeaf)
    (files : ∀ other node, other ≠ touched → node.isDirectory = false →
      ((disk.put place new).root.get? other = some node ↔ disk.root.get? other = some node))
    (grows : disk.contentAt touched <+: (disk.put place new).contentAt touched)
    (below : place <+: touched) :
    TouchesOnly (some touched) disk (disk.put place new) where
  files := fun other node different plain =>
    files other node (fun same => different (congrArg some same.symm)) plain
  elsewhere := by
    intro other apart
    apply Node.get?_put_elsewhere leaf held
    intro onWay
    exact apart touched rfl (onWay.trans below)
  kept := by
    intro other present
    by_cases onWay : other <+: place
    · exact Node.isSome_get?_put onWay present
    · exact (congrArg Option.isSome (Node.get?_put_elsewhere leaf held onWay)).trans present
  content := by
    intro other same
    obtain rfl := Option.some.inj same
    exact grows

theorem contentAt_eq (same : ∀ content, after.root.get? place = some (.file content) ↔
    before.root.get? place = some (.file content)) :
    after.contentAt place = before.contentAt place := by
  by_cases held : ∃ content, before.root.get? place = some (.file content)
  · obtain ⟨content, file⟩ := held
    rw [contentAt_of_file file, contentAt_of_file ((same content).mpr file)]
  · have noFile (content : List UInt8) : before.root.get? place ≠ some (.file content) :=
      fun file => held ⟨content, file⟩
    have noFileAfter (content : List UInt8) : after.root.get? place ≠ some (.file content) :=
      fun file => noFile content ((same content).mp file)
    rw [contentAt_of_no_file noFile, contentAt_of_no_file noFileAfter]

theorem touchesOnly_put_directory (absent : disk.root.get? place = none)
    (below : place <+: touched) :
    TouchesOnly (some touched) disk (disk.put place (.directory [])) := by
  have files (other : List Name) (node : Node) (plain : node.isDirectory = false) :=
    @Node.get?_put_emptyDirectory disk.root node place other absent plain
  apply touchesOnly_put Node.isLeaf_emptyDirectory _ (fun other node _ => files other node) _ below
  · intro found present
    rw [absent] at present
    cases present
  · have same := @contentAt_eq touched disk (disk.put place (.directory []))
      fun content => files touched (.file content) rfl
    exact same ▸ List.prefix_rfl

theorem touchesOnly_put_file
    (held : disk.root.get? place = none ∨ disk.root.get? place = some (.file content))
    (grows : disk.contentAt place <+: more) :
    TouchesOnly (some place) disk (disk.put place (.file more)) := by
  have leaf : ∀ found, disk.root.get? place = some found → found.IsLeaf := by
    intro found present
    rcases held with absent | file
    · rw [absent] at present
      cases present
    · rw [file] at present
      exact Option.some.inj present ▸ Node.isLeaf_file
  apply touchesOnly_put Node.isLeaf_file leaf _ _ List.prefix_rfl
  · intro other node different plain
    exact Node.get?_put_plain Node.isLeaf_file leaf plain different
  · cases after : (disk.put place (.file more)).root.get? place with
    | some found =>
        obtain rfl : found = .file more := Node.eq_of_get?_put_self after
        rwa [contentAt_of_file after]
    | none =>
        rcases held with absent | file
        · have nothing : disk.contentAt place = [] := by rw [contentAt, absent]
          rw [nothing]
          exact List.nil_prefix
        · have present := @Node.get?_put_self disk.root (.file more) _ place file
          rw [put, present] at after
          cases after

end

end Disk

end LinkVetting.Files
