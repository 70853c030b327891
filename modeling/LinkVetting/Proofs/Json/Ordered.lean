import LinkVetting.Proofs.Json.RoundTrip

/-!
# Ordered values

A value that was read has the members of its objects sorted by name, each name once.
Such a value is its own sorted form, and every sorted form is such a value.
-/

namespace LinkVetting.Json

/-- Members that stand in the order of their names, each name once. -/
def InOrder (members : List (String × Json)) : Prop :=
  members.Pairwise fun member later => member.1 < later.1

/-- The values whose objects have their members in order, at any depth. -/
inductive Ordered : Json → Prop where
  | null : Ordered .null
  | bool {value : Bool} : Ordered (.bool value)
  | number {value : Number} : Ordered (.number value)
  | string {text : String} : Ordered (.string text)
  | array {items : List Json} : (∀ item ∈ items, Ordered item) → Ordered (.array items)
  | object {members : List (String × Json)} : InOrder members →
      (∀ member ∈ members, Ordered member.2) → Ordered (.object members)

section

variable {members front : List (String × Json)} {name : String} {value : Json}

/-! ## Members in order -/

theorem insert_of_greatest (greatest : ∀ member ∈ members, member.1 < name) :
    insert name value members = members ++ [(name, value)] := by
  induction members with
  | nil => rfl
  | cons member later induction =>
      obtain ⟨other, held⟩ := member
      have less : other < name := greatest (other, held) List.mem_cons_self
      have different : name ≠ other := by
        rintro rfl
        exact String.lt_irrefl name less
      rw [insert, if_neg (String.lt_asymm less), if_neg different,
        induction fun member inLater => greatest member (List.mem_cons_of_mem _ inLater),
        List.cons_append]

theorem foldl_insert_of_inOrder (inOrder : InOrder (front ++ members)) :
    members.foldl (fun sorted (name, value) => insert name value sorted) front =
      front ++ members := by
  induction members generalizing front with
  | nil => rw [List.foldl_nil, List.append_nil]
  | cons member later induction =>
      obtain ⟨name, value⟩ := member
      have greatest : ∀ member ∈ front, member.1 < name := fun member inFront =>
        (List.pairwise_append.mp inOrder).2.2 member inFront _ List.mem_cons_self
      rw [List.append_cons] at inOrder
      rw [List.foldl_cons]
      dsimp only
      rw [insert_of_greatest greatest, induction inOrder, ← List.append_cons]

theorem ofMembers_of_inOrder (inOrder : InOrder members) :
    ofMembers members = .object members := by
  rw [ofMembers, @foldl_insert_of_inOrder members [] inOrder, List.nil_append]

theorem mem_insert {member : String × Json} (inserted : member ∈ insert name value members) :
    member = (name, value) ∨ member ∈ members := by
  induction members with
  | nil => exact Or.inl (List.mem_singleton.mp inserted)
  | cons first later induction =>
      obtain ⟨other, held⟩ := first
      rw [insert] at inserted
      split at inserted
      · exact List.mem_cons.mp inserted
      · split at inserted
        · exact (List.mem_cons.mp inserted).imp_right (List.mem_cons_of_mem _)
        · rcases List.mem_cons.mp inserted with same | inLater
          · exact Or.inr (same ▸ List.mem_cons_self)
          · exact (induction inLater).imp_right (List.mem_cons_of_mem _)

theorem InOrder.insert (inOrder : InOrder members) : InOrder (insert name value members) := by
  induction members with
  | nil => exact List.pairwise_singleton _ _
  | cons first later induction =>
      obtain ⟨other, held⟩ := first
      have ⟨least, laterInOrder⟩ := List.pairwise_cons.mp inOrder
      rw [Json.insert]
      split
      · rename_i less
        refine List.pairwise_cons.mpr ⟨fun member inMembers => ?_, inOrder⟩
        rcases List.mem_cons.mp inMembers with rfl | inLater
        · exact less
        · exact String.lt_trans less (least member inLater)
      · rename_i notLess
        split
        · rename_i same
          subst same
          exact List.pairwise_cons.mpr ⟨least, laterInOrder⟩
        · rename_i different
          -- the names are ordered in full, so the other one is the lesser one
          have less : other < name :=
            Decidable.byContradiction fun neither =>
              different (String.le_antisymm neither notLess)
          refine List.pairwise_cons.mpr ⟨fun member inserted => ?_, induction laterInOrder⟩
          rcases mem_insert inserted with rfl | inLater
          · exact less
          · exact least member inLater

end

/-! ## Values -/

theorem sortedItems_eq {items : List Json} : sortedItems items = items.map sorted := by
  induction items with
  | nil => rfl
  | cons item later induction => rw [sortedItems, induction, List.map_cons]

theorem sortedMembers_eq {members : List (String × Json)} :
    sortedMembers members = members.map fun member => (member.1, sorted member.2) := by
  induction members with
  | nil => rfl
  | cons member later induction => rw [sortedMembers, induction, List.map_cons]

theorem ordered_ofMembers {members : List (String × Json)}
    (ordered : ∀ member ∈ members, Ordered member.2) : Ordered (ofMembers members) := by
  -- the members gathered so far are in order, and each holds an ordered value
  have gathered (front : List (String × Json)) (inOrder : InOrder front)
      (frontOrdered : ∀ member ∈ front, Ordered member.2) :
      Ordered (.object (members.foldl (fun sorted (name, value) =>
        insert name value sorted) front)) := by
    induction members generalizing front with
    | nil => exact .object inOrder frontOrdered
    | cons member later induction =>
        obtain ⟨name, value⟩ := member
        refine induction (fun member inLater => ordered member (List.mem_cons_of_mem _ inLater))
          _ inOrder.insert fun member inserted => ?_
        rcases mem_insert inserted with rfl | inFront
        · exact ordered (name, value) List.mem_cons_self
        · exact frontOrdered member inFront
  exact gathered [] List.Pairwise.nil (List.forall_mem_nil _)

mutual

/-- Every sorted form is ordered. -/
theorem ordered_sorted (value : Json) : Ordered value.sorted := by
  cases value with
  | null => exact .null
  | bool value => exact .bool
  | number value => exact .number
  | string text => exact .string
  | array items => exact .array (ordered_sortedItems items)
  | object members => exact ordered_ofMembers (ordered_sortedMembers members)

theorem ordered_sortedItems (items : List Json) : ∀ item ∈ sortedItems items, Ordered item := by
  cases items with
  | nil => exact List.forall_mem_nil _
  | cons item later =>
      exact List.forall_mem_cons.mpr ⟨ordered_sorted item, ordered_sortedItems later⟩

theorem ordered_sortedMembers (members : List (String × Json)) :
    ∀ member ∈ sortedMembers members, Ordered member.2 := by
  cases members with
  | nil => exact List.forall_mem_nil _
  | cons member later =>
      obtain ⟨name, value⟩ := member
      exact List.forall_mem_cons.mpr ⟨ordered_sorted value, ordered_sortedMembers later⟩

end

theorem sorted_of_ordered {value : Json} (ordered : Ordered value) : value.sorted = value := by
  induction ordered with
  | null | bool | number | string => rfl
  | @array items _ induction =>
      have same : sortedItems items = items := by
        rw [sortedItems_eq, List.map_congr_left induction, List.map_id']
      rw [sorted, same]
  | @object members inOrder _ induction =>
      have same : sortedMembers members = members := by
        have unchanged : ∀ member ∈ members, (member.1, sorted member.2) = member :=
          fun member inMembers => by rw [induction member inMembers]
        rw [sortedMembers_eq, List.map_congr_left unchanged, List.map_id']
      rw [sorted, same, ofMembers_of_inOrder inOrder]

/-- The ordered values are those that sorting their members does not change. -/
theorem sorted_eq_self_iff {value : Json} : value.sorted = value ↔ Ordered value := by
  constructor
  · intro same
    rw [← same]
    exact ordered_sorted value
  · exact sorted_of_ordered

end LinkVetting.Json
