import Mathlib.Data.List.DropRight
import MessageIntake.Proofs.Json.Members
import MessageIntake.Proofs.Json.Strings
import MessageIntake.Proofs.Json.WrittenFloats
/-!
# Values read back

What is read *fits* the reader again: its numbers are of 64 bits or finite, the members of its
objects are in order, and it is nested no deeper than the reader allowed.

Main statement: a value that fits reads back as itself, but for its floats, each of which comes to
what its text is read as (`value_chars`).
-/

namespace MessageIntake.Json

open Utf8 (bytesOf)

/-! ### Values that fit -/

/-- **A value fits** a depth if the reader could have come to it there. -/
inductive Fits : Nat → Json → Prop
  | null (depth : Nat) : Fits depth .null
  | bool (depth : Nat) (b : Bool) : Fits depth (.bool b)
  | number (depth : Nat) {n : Number} (h : n.Fits) : Fits depth (.number n)
  | string (depth : Nat) (s : String) : Fits depth (.string s)
  | array {depth : Nat} {items : List Json} (h : ∀ v ∈ items, Fits depth v) :
      Fits (depth + 1) (.array items)
  | object {depth : Nat} {members : Members} (ordered : Members.Ordered members)
      (h : ∀ m ∈ members, Fits depth m.2) : Fits (depth + 1) (.object members)

section Reads

variable {item : Bytes → Reading Json} {P : Json → Prop}

theorem forall_of_moreItems (each : ∀ {bytes v rest}, item bytes = .ok (v, rest) → P v)
    {fuel : Nat} {done : List Json} (before : ∀ v ∈ done, P v) {bytes : Bytes} {vs : List Json}
    {rest : Bytes} (read : moreItems item fuel done bytes = .ok (vs, rest)) : ∀ v ∈ vs, P v := by
  induction fuel generalizing done bytes with
  | zero => cases read
  | succ fuel ih =>
    unfold moreItems at read
    split at read
    · cases read
    · cases read
      simpa using before
    · split at read
      · cases read
      · cases read
      · split at read
        · cases read
        · next v _ first =>
          exact ih (by simpa using ⟨each first, before⟩) read
    · cases read

/-- **Every item** is one that was read. -/
theorem forall_of_items (each : ∀ {bytes v rest}, item bytes = .ok (v, rest) → P v)
    {bytes : Bytes} {vs : List Json} {rest : Bytes} (read : items item bytes = .ok (vs, rest)) :
    ∀ v ∈ vs, P v := by
  unfold items at read
  split at read
  · cases read
  · cases read
    exact List.forall_mem_nil _
  · split at read
    · cases read
    · next first => exact forall_of_moreItems each (by simpa using each first) read

theorem of_member (each : ∀ {bytes v rest}, item bytes = .ok (v, rest) → P v) {bytes : Bytes}
    {m : String × Json} {rest : Bytes} (read : member item bytes = .ok (m, rest)) : P m.2 := by
  unfold member at read
  split at read
  · cases read
  · split at read
    · cases read
    · split at read
      · cases read
      · next first =>
        cases read
        exact each first
    · cases read

theorem forall_of_moreMembers (each : ∀ {bytes v rest}, item bytes = .ok (v, rest) → P v)
    {fuel : Nat} {done : List (String × Json)} (before : ∀ m ∈ done, P m.2) {bytes : Bytes}
    {ms : List (String × Json)} {rest : Bytes}
    (read : moreMembers item fuel done bytes = .ok (ms, rest)) : ∀ m ∈ ms, P m.2 := by
  induction fuel generalizing done bytes with
  | zero => cases read
  | succ fuel ih =>
    unfold moreMembers at read
    split at read
    · cases read
    · cases read
      simpa using before
    · split at read
      · cases read
      · cases read
      · split at read
        · cases read
        · next m _ first =>
          refine ih (fun n mem => ?_) read
          rcases List.mem_cons.1 mem with rfl | mem
          · exact of_member each first
          · exact before n mem
      · cases read
    · cases read

/-- **The value of every member** is one that was read. -/
theorem forall_of_members (each : ∀ {bytes v rest}, item bytes = .ok (v, rest) → P v)
    {bytes : Bytes} {ms : List (String × Json)} {rest : Bytes}
    (read : members item bytes = .ok (ms, rest)) : ∀ m ∈ ms, P m.2 := by
  unfold members at read
  split at read
  · cases read
  · cases read
    exact List.forall_mem_nil _
  · split at read
    · cases read
    · next m _ first =>
      refine forall_of_moreMembers each (fun n mem => ?_) read
      rw [List.mem_singleton.1 mem]
      exact of_member each first
  · cases read

end Reads

theorem fits_of_map {α : Type} {make : α → Json} {reading : Reading α} {depth : Nat}
    (each : ∀ {a rest}, reading = .ok (a, rest) → Fits depth (make a)) {v : Json} {rest : Bytes}
    (read : (reading.map fun (a, rest) => (make a, rest)) = .ok (v, rest)) : Fits depth v := by
  cases reading with
  | error => cases read
  | ok result =>
    cases read
    exact each rfl

theorem fits_of_word {value : Json} {depth : Nat} (h : Fits depth value) {ws : List UInt8}
    {bytes : Bytes} {v : Json} {rest : Bytes} (read : word value ws bytes = .ok (v, rest)) :
    Fits depth v := by
  induction ws generalizing bytes with
  | nil =>
    cases read
    exact h
  | cons w ws ih =>
    cases bytes with
    | nil => cases read
    | cons b bytes =>
      unfold word at read
      split at read
      · exact ih read
      · cases read

/-- **What is read fits** at the depth where it was read. -/
theorem fits_of_value {depth : Nat} {bytes : Bytes} {v : Json} {rest : Bytes}
    (read : value depth bytes = .ok (v, rest)) : Fits depth v := by
  -- on the depth: items and members are read with one less
  induction depth using Nat.strongRecOn generalizing bytes v rest with
  | ind depth ih =>
    unfold value at read
    split at read
    · cases read
    split at read
    · exact fits_of_word (.null depth) read
    split at read
    · exact fits_of_word (.bool depth true) read
    split at read
    · exact fits_of_word (.bool depth false) read
    split at read
    · exact fits_of_map (fun h => .number depth (fits_of_magnitude h)) read
    split at read
    · exact fits_of_map (fun h => .number depth (fits_of_magnitude h)) read
    split at read
    · exact fits_of_map (fun {s _} _ => .string depth s) read
    split at read
    · split at read
      · cases read
      · next depth =>
        exact fits_of_map (fun h => .array (forall_of_items (ih depth (by omega)) h)) read
    split at read
    · split at read
      · cases read
      · next depth =>
        refine fits_of_map (fun {entries _} h => .object (Members.ordered_ofList entries) ?_) read
        have each := forall_of_members (ih depth (by omega)) h
        exact fun m mem => each m (Members.mem_of_mem_ofList mem)
    · cases read

/-! ### Other floats -/

mutual

/-- **A value with other floats** in the places of its own. -/
def mapFloats (f : Binary64 → Binary64) : Json → Json
  | .number (.float x) => .number (.float (f x))
  | .array items => .array (mapItemFloats f items)
  | .object members => .object (mapMemberFloats f members)
  | v => v

/-- The items of an array with other floats. -/
def mapItemFloats (f : Binary64 → Binary64) : List Json → List Json
  | [] => []
  | item :: rest => mapFloats f item :: mapItemFloats f rest

/-- The members of an object with other floats. -/
def mapMemberFloats (f : Binary64 → Binary64) : List (String × Json) → List (String × Json)
  | [] => []
  | (key, value) :: rest => (key, mapFloats f value) :: mapMemberFloats f rest

end

theorem mapItemFloats_eq (f : Binary64 → Binary64) (items : List Json) :
    mapItemFloats f items = items.map (mapFloats f) := by
  induction items with
  | nil => rfl
  | cons item rest ih => rw [mapItemFloats, ih, List.map_cons]

theorem mapMemberFloats_eq (f : Binary64 → Binary64) (members : List (String × Json)) :
    mapMemberFloats f members = members.map fun m => (m.1, mapFloats f m.2) := by
  induction members with
  | nil => rfl
  | cons member rest ih => rw [mapMemberFloats, ih, List.map_cons]

mutual

/-- **The floats of a value**, in order. -/
def floats : Json → List Binary64
  | .number (.float x) => [x]
  | .array items => itemFloats items
  | .object members => memberFloats members
  | _ => []

/-- The floats of the items of an array. -/
def itemFloats : List Json → List Binary64
  | [] => []
  | item :: rest => floats item ++ itemFloats rest

/-- The floats of the members of an object. -/
def memberFloats : List (String × Json) → List Binary64
  | [] => []
  | (_, value) :: rest => floats value ++ memberFloats rest

end

theorem itemFloats_eq (items : List Json) : itemFloats items = items.flatMap floats := by
  induction items with
  | nil => rfl
  | cons item rest ih => rw [itemFloats, ih, List.flatMap_cons]

theorem memberFloats_eq (members : List (String × Json)) :
    memberFloats members = members.flatMap fun m => m.2.floats := by
  induction members with
  | nil => rfl
  | cons member rest ih => rw [memberFloats, ih, List.flatMap_cons]

/-- **The floats of a value that fits** are numeric. -/
theorem Fits.numeric {depth : Nat} {v : Json} (h : Fits depth v) :
    ∀ x ∈ v.floats, Binary64.Numeric x := by
  induction h with
  | null | bool | string => exact List.forall_mem_nil _
  | @number depth n h =>
    cases n with
    | integer n => exact List.forall_mem_nil _
    | float x => exact List.forall_mem_singleton.2 h
  | array _ ih =>
    intro x mem
    rw [floats, itemFloats_eq, List.mem_flatMap] at mem
    obtain ⟨v, mem, own⟩ := mem
    exact ih v mem x own
  | object _ _ ih =>
    intro x mem
    rw [floats, memberFloats_eq, List.mem_flatMap] at mem
    obtain ⟨m, mem, own⟩ := mem
    exact ih m mem x own

section OtherFloats

variable {f : Binary64 → Binary64} {depth : Nat} {v : Json} {members : Members}

/-- **A value of which each float stays** stays as it is. -/
theorem Fits.mapFloats_of_fixed (h : Fits depth v) (fixed : ∀ x ∈ v.floats, f x = x) :
    v.mapFloats f = v := by
  induction h with
  | null | bool | string => rfl
  | @number depth n h =>
    cases n with
    | integer n => rfl
    | float x =>
      have same : f x = x := fixed x List.mem_cons_self
      rw [mapFloats, same]
  | array _ ih =>
    rw [floats, itemFloats_eq] at fixed
    have same := List.map_congr_left fun v mem =>
      ih v mem fun x own => fixed x (List.mem_flatMap.2 ⟨v, mem, own⟩)
    rw [mapFloats, mapItemFloats_eq, same, List.map_id']
  | object _ _ ih =>
    rw [floats, memberFloats_eq] at fixed
    have same := List.map_congr_left fun m mem =>
      congrArg (Prod.mk m.1) (ih m mem fun x own => fixed x (List.mem_flatMap.2 ⟨m, mem, own⟩))
    rw [mapFloats, mapMemberFloats_eq, same, List.map_id']

/-- Floats are replaced twice at once. -/
theorem Fits.mapFloats_mapFloats (h : Fits depth v) (f g : Binary64 → Binary64) :
    (v.mapFloats g).mapFloats f = v.mapFloats (f ∘ g) := by
  induction h with
  | null | bool | string => rfl
  | @number depth n h =>
    cases n with
    | integer n => rfl
    | float x => rfl
  | array _ ih =>
    simp only [mapFloats, mapItemFloats_eq, List.map_map]
    exact congrArg Json.array (List.map_congr_left ih)
  | object _ _ ih =>
    simp only [mapFloats, mapMemberFloats_eq, List.map_map]
    exact congrArg Json.object
      (List.map_congr_left fun m mem => congrArg (Prod.mk m.1) (ih m mem))

/-- Other floats leave the keys as they are. -/
theorem ordered_map {members : Members} (h : Members.Ordered members) (f : Json → Json) :
    Members.Ordered (members.map fun m => (m.1, f m.2)) :=
  List.pairwise_map.2 h

theorem length_mapMemberFloats (f : Binary64 → Binary64) (members : Members) :
    (mapMemberFloats f members).length = members.length := by
  rw [mapMemberFloats_eq, List.length_map]

/-- **Under each key** stands the value with other floats. -/
theorem find?_mapMemberFloats (f : Binary64 → Binary64) (members : Members) (key : String) :
    Members.find? (mapMemberFloats f members) key = (members.find? key).map (mapFloats f) := by
  unfold Members.find?
  induction members with
  | nil => rfl
  | cons m rest ih =>
    obtain ⟨k, v⟩ := m
    rw [mapMemberFloats, List.lookup_cons, List.lookup_cons]
    cases key == k with
    | true => rfl
    | false => exact ih

theorem mapMemberFloats_of_fixed (fits : ∀ m ∈ members, Fits depth m.2)
    (fixed : ∀ x ∈ memberFloats members, f x = x) : mapMemberFloats f members = members := by
  rw [memberFloats_eq] at fixed
  have same := List.map_congr_left fun m mem => congrArg (Prod.mk m.1)
    ((fits m mem).mapFloats_of_fixed fun x own => fixed x (List.mem_flatMap.2 ⟨m, mem, own⟩))
  rw [mapMemberFloats_eq, same, List.map_id']

theorem mapMemberFloats_mapMemberFloats (fits : ∀ m ∈ members, Fits depth m.2)
    (f g : Binary64 → Binary64) :
    mapMemberFloats f (mapMemberFloats g members) = mapMemberFloats (f ∘ g) members := by
  simp only [mapMemberFloats_eq, List.map_map]
  exact List.map_congr_left fun m mem =>
    congrArg (Prod.mk m.1) ((fits m mem).mapFloats_mapFloats f g)

end OtherFloats

/-! ### Written parts -/

theorem itemChars_eq (items : List Json) : itemChars items = items.map chars := by
  induction items with
  | nil => rfl
  | cons item rest ih => rw [itemChars, ih, List.map_cons]

theorem memberChars_eq (members : List (String × Json)) :
    memberChars members = members.map fun m => quote m.1 ++ ':' :: m.2.chars := by
  induction members with
  | nil => rfl
  | cons member rest ih => rw [memberChars, ih, List.map_cons]

theorem commaSeparated_cons (part : List Char) (parts : List (List Char)) :
    commaSeparated (part :: parts) = part ++ parts.flatMap fun p => ',' :: p := by
  induction parts generalizing part with
  | nil => rw [commaSeparated, List.flatMap_nil, List.append_nil]
  | cons next parts ih =>
    rw [commaSeparated, ih, List.flatMap_cons, List.cons_append]
    exact fun h => List.cons_ne_nil _ _ h

theorem length_le_bytesOf (cs : List Char) : cs.length ≤ (bytesOf cs).length := by
  induction cs with
  | nil => exact le_rfl
  | cons c cs ih =>
    obtain ⟨b, bs, bytes, -⟩ := Utf8.next_utf8EncodeChar c []
    rw [Utf8.bytesOf_cons, bytes, List.length_cons, List.length_append, List.length_cons]
    omega

/-! ### Where a value starts -/

theorem skipSpace_skipSpace (bytes : Bytes) : skipSpace (skipSpace bytes) = skipSpace bytes :=
  List.dropWhile_idempotent _ _

theorem value_skipSpace (depth : Nat) (bytes : Bytes) :
    value depth (skipSpace bytes) = value depth bytes := by
  rw [value, value, skipSpace_skipSpace]

/-- **A value starts** with none of the marks between values. -/
theorem exists_skipSpace_of_value {depth : Nat} {bytes : Bytes} {result : Json × Bytes}
    (read : value depth bytes = .ok result) :
    ∃ b rest, skipSpace bytes = b :: rest ∧ b ≠ 0x2c ∧ b ≠ 0x5d ∧ b ≠ 0x7d := by
  cases eq : skipSpace bytes with
  | nil =>
    unfold value at read
    rw [eq] at read
    cases read
  | cons b rest =>
    refine ⟨b, rest, rfl, ?_⟩
    unfold value at read
    rw [eq] at read
    refine ⟨?_, ?_, ?_⟩
    all_goals
      rintro rfl
      cases read

/-! ### Items and members -/

/-- **The text reads as** the value, whatever follows it. -/
def ReadsAs (depth : Nat) (cs : List Char) (v : Json) : Prop :=
  ∀ {rest : Bytes}, Delimited rest → value depth (bytesOf cs ++ rest) = .ok (v, rest)

/-- What follows an item or a member. -/
theorem delimited_parts {α : Type} (text : α → List Char) (parts : List α) {close : UInt8}
    (closes : close = 0x5d ∨ close = 0x7d) (rest : Bytes) :
    Delimited (bytesOf (parts.flatMap fun p => ',' :: text p) ++ close :: rest) := by
  cases parts with
  | nil => exact delimited_cons rest (.inr closes)
  | cons part parts => exact delimited_cons _ (.inl rfl)

/-- There are more bytes than parts. -/
theorem length_lt_parts {α : Type} (text : α → List Char) (parts : List α) (first : List Char)
    (rest : Bytes) :
    parts.length <
      (bytesOf first ++ (bytesOf (parts.flatMap fun p => ',' :: text p) ++ rest)).length + 1 := by
  have bytes := length_le_bytesOf (parts.flatMap fun p => ',' :: text p)
  have chars : parts.length ≤ (parts.flatMap fun p => ',' :: text p).length := by
    induction parts with
    | nil => exact le_rfl
    | cons part parts ih =>
      have := ih (length_le_bytesOf _)
      rw [List.flatMap_cons, List.length_append, List.length_cons, List.length_cons]
      omega
  rw [List.length_append, List.length_append]
  omega

/-- One more item behind a comma. -/
theorem moreItems_comma {depth : Nat} {bytes rest : Bytes} {v : Json}
    (read : value depth bytes = .ok (v, rest)) (fuel : Nat) (done : List Json) :
    moreItems (value depth) (fuel + 1) done (0x2c :: bytes) =
      moreItems (value depth) fuel (v :: done) rest := by
  obtain ⟨b, tail, starts, -, notEnd, -⟩ := exists_skipSpace_of_value read
  rw [← value_skipSpace, starts] at read
  have comma : skipSpace (0x2c :: bytes) = 0x2c :: bytes := rfl
  rw [moreItems, comma]
  split
  · next eq => cases eq
  · next eq => exact absurd (List.cons.inj eq).1 (by decide)
  · next eq =>
    cases eq
    rw [starts]
    split
    · next eq => cases eq
    · next eq => exact absurd (List.cons.inj eq).1 notEnd
    · rw [read]
  · next other => exact absurd rfl (other bytes)

theorem moreItems_written {depth : Nat} {again : Json → Json} {items : List Json}
    (reads : ∀ v ∈ items, ReadsAs depth v.chars (again v)) {fuel : Nat}
    (enough : items.length < fuel) (done : List Json) (rest : Bytes) :
    moreItems (value depth) fuel done
        (bytesOf (items.flatMap fun v => ',' :: v.chars) ++ 0x5d :: rest) =
      .ok (done.reverse ++ items.map again, rest) := by
  induction items generalizing fuel done with
  | nil =>
    obtain ⟨fuel, rfl⟩ := Nat.exists_eq_add_of_lt enough
    rw [List.map_nil, List.append_nil]
    rfl
  | cons v items ih =>
    obtain ⟨fuel, rfl⟩ : ∃ n, fuel = n + 1 := ⟨fuel - 1, by omega⟩
    have first := reads v List.mem_cons_self (delimited_parts chars items (.inl rfl) rest)
    rw [List.flatMap_cons, List.cons_append, Utf8.bytesOf_cons, Utf8.bytesOf_append,
      List.append_assoc, List.append_assoc]
    refine (moreItems_comma first fuel done).trans ?_
    rw [ih (fun w mem => reads w (List.mem_cons_of_mem _ mem)) (by simpa using enough)]
    simp

/-- **The items of an array** read back. -/
theorem items_written {depth : Nat} {again : Json → Json} {vs : List Json}
    (reads : ∀ v ∈ vs, ReadsAs depth v.chars (again v)) (rest : Bytes) :
    items (value depth) (bytesOf (commaSeparated (itemChars vs)) ++ 0x5d :: rest) =
      .ok (vs.map again, rest) := by
  rw [itemChars_eq]
  cases vs with
  | nil => rfl
  | cons v vs =>
    have first := reads v List.mem_cons_self (delimited_parts chars vs (.inl rfl) rest)
    obtain ⟨b, tail, starts, -, notEnd, -⟩ := exists_skipSpace_of_value first
    rw [List.map_cons, commaSeparated_cons, List.flatMap_map, Utf8.bytesOf_append,
      List.append_assoc]
    have enough := length_lt_parts chars vs v.chars (0x5d :: rest)
    rw [← value_skipSpace, starts] at first
    rw [items, starts]
    split
    · next eq => cases eq
    · next eq => exact absurd (List.cons.inj eq).1 notEnd
    · rw [first]
      exact moreItems_written (fun w mem => reads w (List.mem_cons_of_mem _ mem)) enough [again v]
        rest

/-- The characters of a member. -/
def memberText (m : String × Json) : List Char := quote m.1 ++ ':' :: m.2.chars

theorem bytesOf_memberText (m : String × Json) (rest : Bytes) :
    bytesOf (memberText m) ++ rest =
      0x22 :: (bytesOf (m.1.toList.flatMap escapeChar) ++
        0x22 :: 0x3a :: (bytesOf m.2.chars ++ rest)) := by
  rw [memberText, Utf8.bytesOf_append, bytesOf_quote, Utf8.bytesOf_cons]
  simp only [List.cons_append, List.append_assoc]
  rfl

/-- **A member** reads back behind the opening mark of its key. -/
theorem member_written {depth : Nat} (key : String) {bytes rest : Bytes} {v : Json}
    (read : value depth bytes = .ok (v, rest)) :
    member (value depth)
        (bytesOf (key.toList.flatMap escapeChar) ++ 0x22 :: 0x3a :: bytes) =
      .ok ((key, v), rest) := by
  have colon : skipSpace (0x3a :: bytes) = 0x3a :: bytes := rfl
  rw [member, stringBody_quote]
  dsimp only
  rw [colon]
  simp only [read]

/-- The first member, behind its quote. -/
theorem members_quote (item : Bytes → Reading Json) (bytes : Bytes) :
    members item (0x22 :: bytes) =
      match member item bytes with
      | .error fault => .error fault
      | .ok (m, rest) => moreMembers item ((0x22 :: bytes).length + 1) [m] rest := rfl

/-- One more member, behind a comma and its quote. -/
theorem moreMembers_comma (item : Bytes → Reading Json) (bytes : Bytes) (fuel : Nat)
    (done : List (String × Json)) :
    moreMembers item (fuel + 1) done (0x2c :: 0x22 :: bytes) =
      match member item bytes with
      | .error fault => .error fault
      | .ok (m, rest) => moreMembers item fuel (m :: done) rest := rfl

theorem moreMembers_written {depth : Nat} {again : Json → Json} {ms : List (String × Json)}
    (reads : ∀ m ∈ ms, ReadsAs depth m.2.chars (again m.2)) {fuel : Nat}
    (enough : ms.length < fuel) (done : List (String × Json)) (rest : Bytes) :
    moreMembers (value depth) fuel done
        (bytesOf (ms.flatMap fun m => ',' :: memberText m) ++ 0x7d :: rest) =
      .ok (done.reverse ++ ms.map fun m => (m.1, again m.2), rest) := by
  induction ms generalizing fuel done with
  | nil =>
    obtain ⟨fuel, rfl⟩ := Nat.exists_eq_add_of_lt enough
    rw [List.map_nil, List.append_nil]
    rfl
  | cons m ms ih =>
    obtain ⟨fuel, rfl⟩ : ∃ n, fuel = n + 1 := ⟨fuel - 1, by omega⟩
    have first := member_written m.1
      (reads m List.mem_cons_self (delimited_parts memberText ms (.inr rfl) rest))
    rw [List.flatMap_cons, List.cons_append, Utf8.bytesOf_cons, Utf8.bytesOf_append,
      List.append_assoc, List.append_assoc, bytesOf_memberText]
    refine (moreMembers_comma _ _ fuel done).trans ?_
    rw [first]
    refine (ih (fun n mem => reads n (List.mem_cons_of_mem _ mem))
      (by simpa using enough) _).trans ?_
    simp

/-- **The members of an object** read back in the order in which they are written. -/
theorem members_written {depth : Nat} {again : Json → Json} {ms : List (String × Json)}
    (reads : ∀ m ∈ ms, ReadsAs depth m.2.chars (again m.2)) (rest : Bytes) :
    members (value depth) (bytesOf (commaSeparated (memberChars ms)) ++ 0x7d :: rest) =
      .ok (ms.map fun m => (m.1, again m.2), rest) := by
  rw [memberChars_eq]
  cases ms with
  | nil => rfl
  | cons m ms =>
    have first := member_written m.1
      (reads m List.mem_cons_self (delimited_parts memberText ms (.inr rfl) rest))
    have enough := length_lt_parts memberText ms (memberText m) (0x7d :: rest)
    change members (value depth)
      (bytesOf (commaSeparated ((m :: ms).map memberText)) ++ 0x7d :: rest) = _
    rw [List.map_cons, commaSeparated_cons, List.flatMap_map, Utf8.bytesOf_append,
      List.append_assoc]
    rw [bytesOf_memberText] at enough ⊢
    generalize bytesOf (m.1.toList.flatMap escapeChar) ++ 0x22 :: 0x3a :: (bytesOf m.2.chars ++
      (bytesOf (ms.flatMap fun m => ',' :: memberText m) ++ 0x7d :: rest)) = bytes at first enough ⊢
    rw [members_quote, first]
    exact moreMembers_written (fun n mem => reads n (List.mem_cons_of_mem _ mem)) enough
      [(m.1, again m.2)] rest

/-! ### Whole values -/

theorem value_quote (depth : Nat) (bytes : Bytes) :
    value depth (0x22 :: bytes) = (stringBody bytes).map fun (s, rest) => (.string s, rest) := by
  rw [value]
  rfl

theorem value_bracket (depth : Nat) (bytes : Bytes) :
    value (depth + 1) (0x5b :: bytes) =
      (items (value depth) bytes).map fun (vs, rest) => (.array vs, rest) := rfl

theorem value_brace {depth : Nat} {bytes rest : Bytes} (starts : skipSpace bytes = 0x7b :: rest) :
    value (depth + 1) bytes =
      (members (value depth) rest).map fun (ms, rest) => (.ofEntries ms, rest) := by
  rw [value, starts]
  rfl

/-- **A value that fits reads back**, each float as what its text is read as. -/
theorem value_chars {depth : Nat} {v : Json} (h : Fits depth v) :
    ReadsAs depth v.chars (v.mapFloats reread) := by
  induction h with
  | null depth =>
    intro rest _
    rw [value]
    rfl
  | bool depth b =>
    intro rest _
    rw [value]
    cases b with
    | true => rfl
    | false => rfl
  | @number depth n h =>
    intro rest ends
    cases n with
    | integer n => exact value_integer h.1 h.2 depth ends
    | float x => exact value_float h depth ends
  | string depth s =>
    intro rest _
    rw [chars, bytesOf_quote, List.cons_append, List.append_assoc, List.singleton_append,
      value_quote, stringBody_quote]
    rfl
  | @array depth vs _ ih =>
    intro rest _
    have written : bytesOf (array vs).chars ++ rest =
        0x5b :: (bytesOf (commaSeparated (itemChars vs)) ++ 0x5d :: rest) := by
      rw [chars, Utf8.bytesOf_cons, Utf8.bytesOf_append, List.append_assoc, List.append_assoc]
      rfl
    rw [written, value_bracket, items_written ih, mapFloats, mapItemFloats_eq]
    rfl
  | @object depth ms ordered _ ih =>
    intro rest _
    have written : bytesOf (object ms).chars ++ rest =
        0x7b :: (bytesOf (commaSeparated (memberChars ms)) ++ 0x7d :: rest) := by
      rw [chars, Utf8.bytesOf_cons, Utf8.bytesOf_append, List.append_assoc, List.append_assoc]
      rfl
    rw [written, value_brace rfl, members_written ih, mapFloats, mapMemberFloats_eq]
    change Except.ok (ofEntries _, rest) = _
    rw [ofEntries, Members.ofList_of_ordered (ordered_map ordered _)]

end MessageIntake.Json
