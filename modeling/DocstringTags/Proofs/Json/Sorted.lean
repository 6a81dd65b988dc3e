import DocstringTags.Proofs.Json.Reread

set_option autoImplicit false

namespace DocstringTags.Json

def KeysIncrease (members : List (String × Json)) : Prop :=
  members.Pairwise fun first second => first.1 < second.1

instance (members : List (String × Json)) : Decidable (KeysIncrease members) :=
  inferInstanceAs (Decidable (List.Pairwise _ _))

mutual

/-- The keys of all objects in a value increase. -/
def IsSorted : Json → Prop
  | .null | .bool _ | .number _ | .string _ => True
  | .list items => ItemsSorted items
  | .object members => KeysIncrease members ∧ MembersSorted members

def ItemsSorted : List Json → Prop
  | [] => True
  | item :: items => item.IsSorted ∧ ItemsSorted items

def MembersSorted : List (String × Json) → Prop
  | [] => True
  | (_, value) :: members => value.IsSorted ∧ MembersSorted members

end

/-- A member whose key is larger than all others goes to the end. -/
theorem insertMember_of_lt {key : String} (value : Json) {seen : List (String × Json)}
    (h : ∀ m ∈ seen, m.1 < key) : insertMember key value seen = seen ++ [(key, value)] := by
  induction seen with
  | nil => rfl
  | cons m seen ih =>
    obtain ⟨hm, hseen⟩ := List.forall_mem_cons.1 h
    have hlt : ¬key < m.1 := String.lt_asymm hm
    have hne : key ≠ m.1 := by
      rintro rfl
      exact String.lt_irrefl _ hm
    rw [insertMember, if_neg hlt, if_neg hne, ih hseen]
    rfl

theorem foldl_insertMember {members : List (String × Json)} (seen : List (String × Json))
    (h : KeysIncrease (seen ++ members)) :
    members.foldl (fun object m => insertMember m.1 m.2 object) seen = seen ++ members := by
  induction members generalizing seen with
  | nil => simp
  | cons m members ih =>
    have hseen : ∀ earlier ∈ seen, earlier.1 < m.1 := fun earlier hearlier =>
      (List.pairwise_append.1 h).2.2 earlier hearlier m List.mem_cons_self
    have hrest : KeysIncrease ((seen ++ [m]) ++ members) := by
      rwa [List.append_assoc, List.singleton_append]
    rw [List.foldl_cons, insertMember_of_lt m.2 hseen, ih _ hrest, List.append_assoc,
      List.singleton_append]

theorem sorted_of_keysIncrease {members : List (String × Json)} (h : KeysIncrease members) :
    sorted members = .object members := by
  rw [sorted, foldl_insertMember [] h, List.nil_append]

mutual

theorem canonical_of_isSorted : (j : Json) → j.IsSorted → j.canonical = j
  | .null, _ => rfl
  | .bool _, _ => rfl
  | .number _, _ => rfl
  | .string _, _ => rfl
  | .list items, h => by rw [canonical, canonicalItems_of_sorted items h]
  | .object members, h => by
    rw [canonical, canonicalMembers_of_sorted members h.2, sorted_of_keysIncrease h.1]

theorem canonicalItems_of_sorted : (items : List Json) → ItemsSorted items →
    canonicalItems items = items
  | [], _ => rfl
  | item :: items, h => by
    rw [canonicalItems, canonical_of_isSorted item h.1, canonicalItems_of_sorted items h.2]

theorem canonicalMembers_of_sorted : (members : List (String × Json)) → MembersSorted members →
    canonicalMembers members = members
  | [], _ => rfl
  | (key, value) :: members, h => by
    rw [canonicalMembers, canonical_of_isSorted value h.1, canonicalMembers_of_sorted members h.2]

end

theorem readJson_draft_of_isSorted {j : Json} {depth : Nat} (hj : j.IsIntegral)
    (hsorted : j.IsSorted) (hdepth : j.nesting ≤ depth) : readJson depth j.draft = .ok j := by
  rw [readJson_draft j depth hj hdepth, canonical_of_isSorted j hsorted]

end DocstringTags.Json
