import Mathlib.Data.List.Induction
import MessageIntake.Json
/-!
# Members in order

The members of an object that is read stand in the order of their keys, each key once. Whatever
order a list gives them in, under each key stands the last value that it has there.

Main statements: members that are read are in order (`ordered_ofList`), under a key they have the
last value (`find?_ofList`), and members in order are read as they are (`ofList_of_ordered`).
-/

namespace MessageIntake.Json.Members

/-! ### Order -/

/-- **Members in order**, each key once. -/
def Ordered (members : Members) : Prop := members.Pairwise fun a b => a.1 < b.1

theorem Ordered.nodup_keys {members : Members} (h : Ordered members) : members.keys.Nodup := by
  rw [keys, List.Nodup, List.pairwise_map]
  exact h.imp String.ne_of_lt

theorem Ordered.without {members : Members} (h : Ordered members) (names : List String) :
    Ordered (members.without names) :=
  h.sublist List.filter_sublist

/-- Of two different keys that are not in one order the other order holds. -/
theorem lt_of_not_lt {a b : String} (ne : a ≠ b) (not_lt : ¬a < b) : b < a := by
  rw [← String.not_le]
  exact fun le => ne (String.le_antisymm le (String.not_lt.1 not_lt))

/-- An insertion brings in nothing else. -/
theorem eq_or_mem_of_mem_insert {key : String} {value : Json} {members : Members}
    {m : String × Json} (mem : m ∈ members.insert key value) : m = (key, value) ∨ m ∈ members := by
  induction members with
  | nil => exact .inl (List.mem_singleton.1 mem)
  | cons member rest ih =>
    obtain ⟨k, v⟩ := member
    unfold insert at mem
    split at mem
    · rcases List.mem_cons.1 mem with rfl | mem
      · exact .inl rfl
      · exact .inr mem
    split at mem
    · rcases List.mem_cons.1 mem with rfl | mem
      · exact .inl rfl
      · exact .inr (List.mem_cons_of_mem _ mem)
    · rcases List.mem_cons.1 mem with rfl | mem
      · exact .inr List.mem_cons_self
      · exact (ih mem).imp_right (List.mem_cons_of_mem _)

/-- **Members stay in order** when one is put in its place. -/
theorem Ordered.insert {members : Members} (h : Ordered members) (key : String) (value : Json) :
    Ordered (members.insert key value) := by
  induction members with
  | nil => exact List.pairwise_singleton _ _
  | cons member rest ih =>
    obtain ⟨k, v⟩ := member
    obtain ⟨after, rest_ordered⟩ := List.pairwise_cons.1 h
    unfold Members.insert
    split
    · next lt =>
      refine List.pairwise_cons.2 ⟨fun m mem => ?_, h⟩
      rcases List.mem_cons.1 mem with rfl | mem
      · exact lt
      · exact String.lt_trans lt (after m mem)
    split
    · next same =>
      rw [beq_iff_eq] at same
      subst same
      exact List.pairwise_cons.2 ⟨after, rest_ordered⟩
    · next not_lt other =>
      refine List.pairwise_cons.2 ⟨fun m mem => ?_, ih rest_ordered⟩
      rcases eq_or_mem_of_mem_insert mem with rfl | mem
      · exact lt_of_not_lt (by simpa using other) not_lt
      · exact after m mem

/-! ### Lists of entries -/

theorem ofList_concat (entries : List (String × Json)) (entry : String × Json) :
    ofList (entries ++ [entry]) = (ofList entries).insert entry.1 entry.2 := by
  rw [ofList, List.foldl_append]
  rfl

/-- **What is read is in order.** -/
theorem ordered_ofList (entries : List (String × Json)) : Ordered (ofList entries) := by
  induction entries using List.reverseRecOn with
  | nil => exact List.Pairwise.nil
  | append_singleton entries entry ih =>
    rw [ofList_concat]
    exact ih.insert _ _

theorem mem_of_mem_ofList {entries : List (String × Json)} {m : String × Json}
    (mem : m ∈ ofList entries) : m ∈ entries := by
  induction entries using List.reverseRecOn with
  | nil => exact mem
  | append_singleton entries entry ih =>
    rw [ofList_concat] at mem
    rcases eq_or_mem_of_mem_insert mem with rfl | mem
    · exact List.mem_append_right _ List.mem_cons_self
    · exact List.mem_append_left _ (ih mem)

/-- **Under a key stands the last value** that a list has there. -/
theorem find?_ofList (entries : List (String × Json)) (key : String) :
    (ofList entries).find? key = entries.reverse.lookup key := by
  -- from the end, since the last entry is the one that is put in last
  induction entries using List.reverseRecOn with
  | nil => rfl
  | append_singleton entries entry ih =>
    obtain ⟨k, v⟩ := entry
    rw [ofList_concat, List.reverse_append, List.reverse_singleton, List.singleton_append,
      List.lookup_cons]
    by_cases same : key = k
    · subst same
      simp
    · have apart : (key == k) = false := by simpa using same
      rw [find?_insert_of_ne _ same, ih, apart]

/-- A key beyond all others is put at the end. -/
theorem insert_of_lt {members : Members} {key : String} (value : Json)
    (beyond : ∀ m ∈ members, m.1 < key) : members.insert key value = members ++ [(key, value)] := by
  induction members with
  | nil => rfl
  | cons member rest ih =>
    obtain ⟨k, v⟩ := member
    have lt : k < key := beyond (k, v) List.mem_cons_self
    rw [insert, if_neg (String.lt_asymm lt), if_neg (by simpa using (String.ne_of_lt lt).symm),
      ih fun m mem => beyond m (List.mem_cons_of_mem _ mem)]
    rfl

/-- **Members in order are read as they are.** -/
theorem ofList_of_ordered {members : Members} (h : Ordered members) : ofList members = members := by
  induction members using List.reverseRecOn with
  | nil => rfl
  | append_singleton members member ih =>
    obtain ⟨before, -, across⟩ := List.pairwise_append.1 h
    rw [ofList_concat, ih before]
    exact insert_of_lt member.2 fun m mem => across m mem member List.mem_cons_self

/-! ### Members under a key -/

theorem find?_without (members : Members) (names : List String) (key : String) :
    (members.without names).find? key = if key ∈ names then none else members.find? key := by
  induction members with
  | nil => simp [without, find?]
  | cons member rest ih =>
    obtain ⟨k, v⟩ := member
    unfold without find? at ih ⊢
    rw [List.filter_cons]
    by_cases same : key = k
    · subst same
      by_cases named : key ∈ names
      · rw [if_neg (by simpa using named), ih, if_pos named, if_pos named]
      · rw [if_pos (by simpa using named), if_neg named, List.lookup_cons_self,
          List.lookup_cons_self]
    · have apart : (key == k) = false := by simpa using same
      rw [List.lookup_cons, apart]
      split
      · rw [List.lookup_cons, apart]
        exact ih
      · exact ih

theorem without_cons_of_mem {names : List String} {key : String} (named : key ∈ names)
    (value : Json) (members : Members) :
    without ((key, value) :: members) names = members.without names :=
  List.filter_cons_of_neg (by simpa using named)

/-- A member that is left out is as if it had not been put in. -/
theorem without_insert {names : List String} {key : String} (named : key ∈ names) (value : Json)
    (members : Members) : (members.insert key value).without names = members.without names := by
  induction members with
  | nil => exact without_cons_of_mem named value []
  | cons member rest ih =>
    obtain ⟨k, v⟩ := member
    unfold insert
    split
    · exact without_cons_of_mem named value _
    split
    · next same =>
      rw [beq_iff_eq] at same
      subst same
      rw [without_cons_of_mem named, without_cons_of_mem named]
    · unfold without at ih ⊢
      rw [List.filter_cons, List.filter_cons, ih]

/-- **What is left out** of a list may be left away at its end. -/
theorem without_ofList_append {names : List String} (entries : List (String × Json))
    {more : List (String × Json)} (named : ∀ m ∈ more, m.1 ∈ names) :
    (ofList (entries ++ more)).without names = (ofList entries).without names := by
  induction more using List.reverseRecOn with
  | nil => rw [List.append_nil]
  | append_singleton more m ih =>
    have before := ih fun n mem => named n (List.mem_append_left _ mem)
    have last := named m (List.mem_append_right _ List.mem_cons_self)
    rw [← List.append_assoc, ofList_concat, without_insert last, before]

theorem without_of_forall_notMem {names : List String} {members : Members}
    (others : ∀ m ∈ members, m.1 ∉ names) : members.without names = members :=
  List.filter_eq_self.2 fun m mem => by simpa using others m mem

end MessageIntake.Json.Members
