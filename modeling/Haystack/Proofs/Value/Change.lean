import Haystack.Proofs.Digest.Fold
import Haystack.Proofs.Value.Path

/-!
# A change in one slot shows in the hash

A hash of 32 bits cannot tell all trees apart. It can tell apart those that differ in one slot only, as
far as the contents of the slot can be told apart themselves: however deep the slot is, and however many
items stand before and behind it, the hash of the whole changes when the hash of the slot does.

A **slot** is where a path leads to, and `Element.replaceAt` puts another element there.

* `Element.structuralHash_replaceAt_inj` — the hash of the whole decides the hash of the slot. The
  induction is on the path: every position of it is one of a list of contributions, and
  `Digest.ofContributions_set_eq_iff` brings the question one level down.
* `FlatKind.contribution_injective` — items of at most 32 bits are told apart by what they contribute,
  so in arrays of such items no change of a single item is hidden.
* `ScalarRule.structuralHash_shows_change` puts the two together, under any rule for opaque values.
-/

namespace Haystack

variable {α : Type}

namespace Element

/-! ### Replacement at a path -/

/-- **The tree with another element at a path.** A path that leads out of the tree changes nothing. -/
def replaceAt : Element α → List Nat → Element α → Element α
  | _, [], new => new
  | .array (.reference xs), i :: path, new =>
    .array (.reference (xs.modify i fun x => replaceAt x path new))
  | t, _ :: _, _ => t

/-- At the empty path the whole is replaced. -/
@[simp] theorem replaceAt_nil (t new : Element α) : t.replaceAt [] new = new := by
  rw [replaceAt]

/-- A longer path replaces something in one of the references. -/
theorem replaceAt_reference_cons (xs : List (Element α)) (i : Nat) (path : List Nat)
    (new : Element α) :
    (array (.reference xs)).replaceAt (i :: path) new
      = array (.reference (xs.modify i fun x => replaceAt x path new)) := by
  rw [replaceAt]

/-- Only in an array of references is there an item to replace. -/
theorem replaceAt_cons_eq_self_or (t : Element α) (i : Nat) (path : List Nat) (new : Element α) :
    t.replaceAt (i :: path) new = t ∨ ∃ xs, t = array (.reference xs) := by
  rcases t with _ | v | (a | xs)
  · exact .inl (by simp [replaceAt])
  · exact .inl (by simp [replaceAt])
  · exact .inl (by simp [replaceAt])
  · exact .inr ⟨xs, rfl⟩

/-- A path that goes somewhere from an element goes into an item of an array of references. -/
theorem exists_of_at?_cons {t u : Element α} {i : Nat} {path : List Nat}
    (h : t.at? (i :: path) = some u) :
    ∃ xs x, t = array (.reference xs) ∧ xs[i]? = some x ∧ x.at? path = some u := by
  rcases t with _ | v | (a | xs)
  · -- neither a null nor a value nor a flat array has anything behind it
    rw [at?_null_cons] at h
    cases h
  · rw [at?_value_cons] at h
    cases h
  · rw [at?_flat_cons] at h
    cases h
  · rw [at?_reference_cons, Option.bind_eq_some_iff] at h
    obtain ⟨x, hx, hu⟩ := h
    exact ⟨xs, x, rfl, hx, hu⟩

/-- Replacing behind the first step replaces one item of the list. -/
theorem replaceAt_of_getElem? {xs : List (Element α)} {x : Element α} {i : Nat}
    (hx : xs[i]? = some x) (path : List Nat) (new : Element α) :
    (array (.reference xs)).replaceAt (i :: path) new
      = array (.reference (xs.set i (x.replaceAt path new))) := by
  rw [replaceAt_reference_cons, List.modify_eq_set_getElem?, hx]
  rfl

/-- **What was put at a path is found there.** -/
theorem at?_replaceAt_self {t u : Element α} {path : List Nat} (h : t.at? path = some u)
    (new : Element α) : (t.replaceAt path new).at? path = some new := by
  induction path generalizing t with
  | nil => rw [replaceAt_nil, at?_nil]
  | cons i path ih =>
    obtain ⟨xs, x, rfl, hx, hu⟩ := exists_of_at?_cons h
    -- the path goes into a reference, and the new one stands in its place
    obtain ⟨hi, -⟩ := List.getElem?_eq_some_iff.1 hx
    rw [replaceAt_of_getElem? hx, at?_reference_cons, List.getElem?_set_self hi, Option.bind_some]
    exact ih hu

/-- **Beside the path nothing changes**: where another path leaves it to the side, it finds what it
found. -/
theorem at?_replaceAt_of_not_prefix {t new : Element α} {path other : List Nat}
    (hbelow : ¬path <+: other) (habove : ¬other <+: path) :
    (t.replaceAt path new).at? other = t.at? other := by
  induction path generalizing t other with
  | nil => exact absurd List.nil_prefix hbelow
  | cons i path ih =>
    cases other with
    | nil => exact absurd List.nil_prefix habove
    | cons j other =>
      obtain hleft | ⟨xs, rfl⟩ := replaceAt_cons_eq_self_or t i path new
      · rw [hleft]
      · rw [replaceAt_reference_cons, at?_reference_cons, at?_reference_cons]
        by_cases hij : i = j
        · -- both paths go into the same item, and part later
          subst hij
          have hsame : ∀ x : Element α, (x.replaceAt path new).at? other = x.at? other := by
            intro x
            apply ih
            · exact fun h => hbelow (List.cons_prefix_cons.2 ⟨rfl, h⟩)
            · exact fun h => habove (List.cons_prefix_cons.2 ⟨rfl, h⟩)
          rw [List.getElem?_modify_eq]
          cases xs[i]? with
          | none => rfl
          | some x => exact hsame x
        · -- they part at once, and the other item is untouched
          rw [List.getElem?_modify_ne _ _ hij]

/-- Putting back what is there changes nothing. -/
theorem replaceAt_at? {t u : Element α} {path : List Nat} (h : t.at? path = some u) :
    t.replaceAt path u = t := by
  induction path generalizing t with
  | nil =>
    rw [at?_nil, Option.some.injEq] at h
    rw [replaceAt_nil, h]
  | cons i path ih =>
    obtain ⟨xs, x, rfl, hx, hu⟩ := exists_of_at?_cons h
    rw [replaceAt_of_getElem? hx, ih hu]
    obtain ⟨hi, hx⟩ := List.getElem?_eq_some_iff.1 hx
    rw [← hx, List.set_getElem_self hi]

/-! ### The hash of a slot -/

/-- **The hash of the whole decides the hash of a slot.** -/
theorem structuralHash_replaceAt_inj (hash : α → Int32) {t u : Element α} {path : List Nat}
    (h : t.at? path = some u) (x y : Element α) :
    structuralHash hash (t.replaceAt path x) = structuralHash hash (t.replaceAt path y)
      ↔ structuralHash hash x = structuralHash hash y := by
  induction path generalizing t with
  | nil => rw [replaceAt_nil, replaceAt_nil]
  | cons i path ih =>
    obtain ⟨xs, s, rfl, hs, hu⟩ := exists_of_at?_cons h
    -- the item that the path goes into is one of the contributions
    have hi : i < (xs.map (structuralHash hash)).length := by
      rw [List.length_map]
      exact (List.getElem?_eq_some_iff.1 hs).1
    calc structuralHash hash ((array (.reference xs)).replaceAt (i :: path) x)
          = structuralHash hash ((array (.reference xs)).replaceAt (i :: path) y)
        ↔ Digest.ofContributions ((xs.map (structuralHash hash)).set i
            (structuralHash hash (s.replaceAt path x)))
          = Digest.ofContributions ((xs.map (structuralHash hash)).set i
            (structuralHash hash (s.replaceAt path y))) := by
          rw [replaceAt_of_getElem? hs, replaceAt_of_getElem? hs, structuralHash_reference,
            structuralHash_reference, List.map_set, List.map_set]
      _ ↔ structuralHash hash (s.replaceAt path x) = structuralHash hash (s.replaceAt path y) :=
          Digest.ofContributions_set_eq_iff hi
      _ ↔ structuralHash hash x = structuralHash hash y := ih hu

end Element

/-! ### Items of flat arrays -/

/-- The bit pattern of a number of 32 bits is a word of 32 bits. -/
theorem Binary.toBits_lt (x : Single) : x.toBits < UInt32.size := by
  have hcode : x.code < 2 ^ 31 := x.code_lt
  show (if x.negative then 2 ^ 31 else 0) + x.code < 2 ^ 32
  split <;> omega

namespace FlatKind

/-- The kinds whose items have no more bits than a contribution. -/
def Narrow (k : FlatKind) : Prop :=
  k ≠ .int64 ∧ k ≠ .float64

/-- **Items of at most 32 bits are told apart by what they contribute.** Each conversion on the way to a
contribution can be undone. -/
theorem contribution_injective {k : FlatKind} (hk : k.Narrow) :
    Function.Injective k.contribution := by
  cases k with
  | int64 => exact absurd rfl hk.1
  | float64 => exact absurd rfl hk.2
  | int32 => exact Function.injective_id
  | int16 => exact Function.LeftInverse.injective Int16.toInt16_toInt32
  | int8 => exact Function.LeftInverse.injective Int8.toInt8_toInt32
  | bool =>
    have hbool : ∀ x y : Bool, contribution .bool x = contribution .bool y → x = y := by decide
    exact hbool
  | char =>
    intro x y h
    exact Char.ext (Function.LeftInverse.injective UInt32.toUInt32_toInt32 h)
  | float32 =>
    intro x y h
    have hword : UInt32.ofNat x.toBits = UInt32.ofNat y.toBits :=
      Function.LeftInverse.injective UInt32.toUInt32_toInt32 h
    have hbits := congrArg UInt32.toNat hword
    rw [UInt32.toNat_ofNat_of_lt' x.toBits_lt, UInt32.toNat_ofNat_of_lt' y.toBits_lt] at hbits
    exact Binary.toBits_injective hbits

/-- **The hash of a flat array decides the contribution of a slot.** -/
theorem hashItems_set_inj (k : FlatKind) {xs : List k.Item} {i : Nat} (hi : i < xs.length)
    (u v : k.Item) :
    k.hashItems (xs.set i u) = k.hashItems (xs.set i v) ↔ k.contribution u = k.contribution v := by
  have hi' : i < (xs.map k.contribution).length := by
    rw [List.length_map]
    exact hi
  -- to replace an item is to replace its contribution
  unfold hashItems
  rw [List.map_set, List.map_set]
  exact Digest.ofContributions_set_eq_iff hi'

/-- A change of one item of at most 32 bits changes the hash. -/
theorem hashItems_set_ne {k : FlatKind} (hk : k.Narrow) {xs : List k.Item} {i : Nat}
    {u v : k.Item} (hu : xs[i]? = some u) (huv : ¬k.Identical u v) :
    k.hashItems (xs.set i v) ≠ k.hashItems xs := by
  obtain ⟨hi, hxs⟩ := List.getElem?_eq_some_iff.1 hu
  -- the array itself is the one with its own item put back
  have hsame : xs.set i u = xs := by
    rw [← hxs, List.set_getElem_self hi]
  intro hhash
  rw [← congrArg k.hashItems hsame, k.hashItems_set_inj hi] at hhash
  exact huv (identical_iff.2 (contribution_injective hk hhash).symm)

end FlatKind

namespace ScalarRule

/-- **The structural hash shows a change in a single slot.** Of two trees that differ in one slot, the
hashes are equal exactly if those of the contents are, for every rule; and of two flat arrays that differ
in one slot, exactly if the contributions are. So in an array of items of at most 32 bits, an item that is
replaced by one that is not identical to it always shows. To replace at a path is to change what is found
there, and nothing beside it. -/
theorem structuralHash_shows_change (α : Type) :
    (∀ (t u : Element α) (path : List Nat), t.at? path = some u →
        (∀ r : ScalarRule α, ∀ x y : Element α,
            r.structuralHash (t.replaceAt path x) = r.structuralHash (t.replaceAt path y)
              ↔ r.structuralHash x = r.structuralHash y)
          ∧ t.replaceAt path u = t
          ∧ ∀ x : Element α, (t.replaceAt path x).at? path = some x
            ∧ ∀ other, ¬path <+: other → ¬other <+: path →
              (t.replaceAt path x).at? other = t.at? other)
      ∧ ∀ (r : ScalarRule α) (k : FlatKind) (xs : List k.Item) (i : Nat) (u : k.Item),
        xs[i]? = some u →
          (∀ v w : k.Item,
              r.structuralHashArray (.flat ⟨k, xs.set i v⟩)
                  = r.structuralHashArray (.flat ⟨k, xs.set i w⟩)
                ↔ k.contribution v = k.contribution w)
            ∧ (k.Narrow → ∀ v, ¬k.Identical u v →
              r.structuralHashArray (.flat ⟨k, xs.set i v⟩)
                ≠ r.structuralHashArray (.flat ⟨k, xs⟩)) := by
  constructor
  · intro t u path hu
    refine ⟨fun r x y => Element.structuralHash_replaceAt_inj r.hash hu x y,
      Element.replaceAt_at? hu, fun x => ⟨Element.at?_replaceAt_self hu x, ?_⟩⟩
    intro other hbelow habove
    exact Element.at?_replaceAt_of_not_prefix hbelow habove
  · intro r k xs i u hu
    -- a flat array is hashed by what its items contribute, under every rule
    have hflat : ∀ ys : List k.Item, r.structuralHashArray (.flat ⟨k, ys⟩) = k.hashItems ys := by
      intro ys
      unfold structuralHashArray
      rw [Element.structuralHashArray]
      rfl
    simp only [hflat]
    refine ⟨fun v w => k.hashItems_set_inj (List.getElem?_eq_some_iff.1 hu).1 v w, ?_⟩
    intro hk v huv
    exact FlatKind.hashItems_set_ne hk hu huv

/-- A list in a list, with a slot in front of other items on both levels. -/
def slotted (x : Element String) : Element String :=
  .array (.reference [.value "a", .array (.reference [x, .null, .value "b"]), .null])

/-- Null and an empty list hash to different numbers, so it shows which of the two is in the slot; and it
shows which of the two zeros stands in front of a NaN. -/
theorem structuralHash_shows_change_slotted :
    (slotted (.value "c")).at? [1, 0] = some (.value "c")
      ∧ ignoringCase.structuralHash ((slotted (.value "c")).replaceAt [1, 0] .null)
        ≠ ignoringCase.structuralHash
          ((slotted (.value "c")).replaceAt [1, 0] (.array (.reference [])))
      ∧ FlatKind.float32.Narrow
      ∧ ¬FlatKind.float32.Identical (Binary.zero false) (Binary.zero true)
      ∧ ignoringCase.structuralHashArray (.flat ⟨.float32, [Binary.zero true, Binary.nan false]⟩)
        ≠ ignoringCase.structuralHashArray
          (.flat ⟨.float32, [Binary.zero false, Binary.nan false]⟩) := by
  have hslot : (slotted (.value "c")).at? [1, 0] = some (.value "c") := rfl
  have hnarrow : FlatKind.float32.Narrow := ⟨by decide, by decide⟩
  have hzeros : ¬FlatKind.float32.Identical (Binary.zero false) (Binary.zero true) := by
    rw [FlatKind.identical_iff]
    decide
  refine ⟨hslot, ?_, hnarrow, hzeros, ?_⟩
  · intro hhash
    rw [((structuralHash_shows_change String).1 _ _ _ hslot).1] at hhash
    exact absurd hhash (by decide)
  · exact ((structuralHash_shows_change String).2 ignoringCase .float32
      [Binary.zero false, Binary.nan false] 0 _ rfl).2 hnarrow _ hzeros

end ScalarRule

end Haystack
