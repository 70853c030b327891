import LinkVetting.Files.Disk

/-!
# Replaced and added nodes

What is found in a tree after a node has been replaced, and after an empty
directory has been added where nothing was.
-/

namespace LinkVetting.Files

namespace Node

section

variable {entries : List (Name × Node)} {name other : Name} {node : Node}

theorem lookup_putEntry_self :
    (putEntry name node entries).lookup name = some node := by
  induction entries with
  | nil => simp [putEntry]
  | cons entry entries induction =>
      obtain ⟨held, heldNode⟩ := entry
      by_cases same : name = held
      · simp [putEntry, same]
      · have test : (name == held) = false := beq_eq_false_iff_ne.mpr same
        simp [putEntry, same, List.lookup_cons, test, induction]

theorem lookup_putEntry_other (different : other ≠ name) :
    (putEntry name node entries).lookup other = entries.lookup other := by
  have otherTest : (other == name) = false := beq_eq_false_iff_ne.mpr different
  induction entries with
  | nil => simp [putEntry, List.lookup_cons, otherTest]
  | cons entry entries induction =>
      obtain ⟨held, heldNode⟩ := entry
      by_cases same : name = held
      · subst same
        simp [putEntry, List.lookup_cons, otherTest]
      · simp [putEntry, same, List.lookup_cons, induction]

end

section

variable {node new found : Node} {place other : List Name}

theorem get?_put_self (present : node.get? place = some found) :
    (node.put place new).get? place = some new := by
  induction place generalizing node with
  | nil => rfl
  | cons name later induction =>
      cases node with
      | file content => cases present
      | device isFull => cases present
      | directory entries =>
          rw [put, get?, lookup_putEntry_self]
          rw [get?] at present
          cases child : entries.lookup name with
          | none =>
              rw [child] at present
              cases present
          | some inner =>
              rw [child] at present
              exact induction present

theorem eq_of_get?_put_self (present : (node.put place new).get? place = some found) :
    found = new := by
  induction place generalizing node with
  | nil =>
      rw [put, get?] at present
      exact (Option.some.inj present).symm
  | cons name later induction =>
      cases node with
      | file content => cases present
      | device isFull => cases present
      | directory entries =>
          rw [put, get?, lookup_putEntry_self] at present
          exact induction present

private theorem get?_emptyDirectory (plain : found.isDirectory = false) :
    (Node.directory []).get? place ≠ some found := by
  cases place with
  | nil =>
      intro same
      rw [get?] at same
      obtain rfl := Option.some.inj same
      cases plain
  | cons name later => simp [get?]

/-- An empty directory that is added where nothing was leaves all files and
devices where they were, and brings no new ones. -/
theorem get?_put_emptyDirectory (absent : node.get? place = none)
    (plain : found.isDirectory = false) :
    (node.put place (.directory [])).get? other = some found ↔
      node.get? other = some found := by
  induction place generalizing node other with
  | nil => cases absent
  | cons name later induction =>
      cases node with
      | file content => rfl
      | device isFull => rfl
      | directory entries =>
          cases other with
          | nil =>
              have notFound (inside : List (Name × Node)) :
                  (Node.directory inside).get? [] ≠ some found := by
                intro same
                rw [get?] at same
                obtain rfl := Option.some.inj same
                cases plain
              exact iff_of_false (notFound _) (notFound _)
          | cons next rest =>
              by_cases same : next = name
              · subst same
                rw [put, get?, lookup_putEntry_self, get?]
                rw [get?] at absent
                cases child : entries.lookup next with
                | none =>
                    -- the directory is the first one on its way, so it stands alone
                    have alone : ((Node.directory []).put later (.directory [])).get?
                        rest ≠ some found := by
                      cases later with
                      | nil => exact get?_emptyDirectory plain
                      | cons first others =>
                          rw [ne_eq, @induction (.directory []) rest (by simp [get?])]
                          exact get?_emptyDirectory plain
                    exact iff_of_false alone (by simp)
                | some inner =>
                    rw [child] at absent
                    exact induction absent
              · rw [put, get?, lookup_putEntry_other same, get?]

end

end Node

end LinkVetting.Files
