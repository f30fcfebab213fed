import Haystack.Proofs.Json.Reading
import Haystack.Proofs.Json.Rounding
import Haystack.Proofs.Options.Stable

/-!
# Setting fields to values

A field of options can be set to a value of JSON text if the value fits (`Fits`), and it then holds what
the value stands for (`Holds`). A bound takes integers of 64 bits that are written as such, a tolerance
takes any number that rounds to a finite one, and both take `null`, which leaves them absent.

The reader of options sets one field after the other (`settle`). If the fields are different ones, **what
was done can be told from the outcome** (`settle_eq_ok_iff`): each of the fields holds what it was set to,
and all the others are as before. Nothing in this depends on an order.
-/

namespace Haystack

namespace Options

open Json (Token Value string?)
open Json.Number (IsInteger RoundsTo)

variable {o acc acc' : Options} {f : Field} {v : Value} {settings : List (Field × Value)}

/-! ### Values of fields -/

/-- The values of a bound: `null` or an integer of 64 bits, written as one. -/
def FitsIndex (v : Value) : Prop :=
  v = .null ∨ ∃ n i, v = .number n ∧ IsInteger n i ∧ -2 ^ 63 ≤ i ∧ i < 2 ^ 63

/-- The values of a tolerance: `null` or a number that rounds to a finite one. -/
def FitsTolerance (v : Value) : Prop :=
  v = .null ∨ ∃ n x, v = .number n ∧ RoundsTo n x

/-- The values of a field. -/
def Fits (v : Value) : Field → Prop
  | .start => FitsIndex v
  | .stop => FitsIndex v
  | .tolerance => FitsTolerance v

/-- A bound is the one that a value stands for. -/
inductive HoldsIndex : Option Int64 → Value → Prop
  | null : HoldsIndex none .null
  | integer {n : Numeral} {i : Int64} (h : IsInteger n i.toInt) : HoldsIndex (some i) (.number n)

/-- A tolerance is the one that a value stands for. -/
inductive HoldsTolerance : Option Double → Value → Prop
  | null : HoldsTolerance none .null
  | number {n : Numeral} {x : Double} (h : RoundsTo n x) : HoldsTolerance (some x) (.number n)

/-- **Options hold in a field what a value stands for.** -/
def Holds (o : Options) (v : Value) : Field → Prop
  | .start => HoldsIndex o.start? v
  | .stop => HoldsIndex o.stop? v
  | .tolerance => HoldsTolerance o.tolerance? v

/-! ### Reading a value -/

/-- Other values than numbers and `null` are never what belongs in a field. -/
theorem index?_number?_of_not_isAtom (h : ¬v.IsAtom) :
    index? v.token = mismatch v.token .index ∧ number? v.token = mismatch v.token .tolerance := by
  cases v with
  | null => exact absurd (.inl rfl) h
  | number n => exact absurd (.inr ⟨n, rfl⟩) h
  | bool b => exact ⟨rfl, rfl⟩
  | list vs => exact ⟨rfl, rfl⟩
  | object ms => exact ⟨rfl, rfl⟩
  | string ps =>
    -- a string, or half of a pair on its own, which is no token of a value at all
    rw [Value.token, Json.stringToken]
    cases string? ps with
    | none => exact ⟨rfl, rfl⟩
    | some w => exact ⟨rfl, rfl⟩

/-- What a bound stands for is a number or `null`. -/
theorem HoldsIndex.isAtom {i : Option Int64} (h : HoldsIndex i v) : v.IsAtom := by
  cases h with
  | null => exact .inl rfl
  | integer h => exact .inr ⟨_, rfl⟩

/-- What a tolerance stands for is a number or `null`. -/
theorem HoldsTolerance.isAtom {x : Option Double} (h : HoldsTolerance x v) : v.IsAtom := by
  cases h with
  | null => exact .inl rfl
  | number h => exact .inr ⟨_, rfl⟩

/-- **A field holds single tokens only.** -/
theorem Holds.isAtom (h : o.Holds v f) : v.IsAtom := by
  cases f with
  | start => exact HoldsIndex.isAtom h
  | stop => exact HoldsIndex.isAtom h
  | tolerance => exact HoldsTolerance.isAtom h

/-- **A numeral is read as a bound if it is a signed integer of 64 bits**, and as that integer. -/
theorem index?_number_eq_ok_iff {n : Numeral} {i : Option Int64} :
    index? (.number n) = .ok i ↔ HoldsIndex i (.number n) := by
  constructor
  · intro h
    unfold index? Found.ofToken? at h
    dsimp only at h
    cases hread : Json.Number.ofNumeral? n with
    | none =>
      rw [hread] at h
      exact absurd h (mismatch_ne_ok _ _ _)
    | some r =>
      rw [hread] at h
      cases r with
      | float x => exact absurd h (mismatch_ne_ok _ _ _)
      | integer j =>
        -- of the integers that are read those beyond the signed range are refused
        obtain ⟨hinteger, hlow, -⟩ := Json.Number.ofNumeral?_eq_integer_iff.1 hread
        dsimp only at h
        split at h
        · next hhigh =>
          cases h
          refine .integer ?_
          rwa [Int64.toInt_ofInt_of_le hlow (Int.lt_add_one_of_le hhigh)]
        · cases h
  · intro h
    cases h with
    | @integer _ i hinteger =>
      have hread : Json.Number.ofNumeral? n = some (.integer i.toInt) :=
        Json.Number.ofNumeral?_eq_integer_iff.2
          ⟨hinteger, Int64.le_toInt i, (Int64.toInt_lt i).trans (by decide)⟩
      rw [index?, Found.ofToken?, hread]
      dsimp only
      rw [if_pos (Int64.toInt_le i), Int64.ofInt_toInt]

/-- **A numeral is read as a tolerance if it rounds to a finite number**, and as that number. -/
theorem number?_number_eq_ok_iff {n : Numeral} {x : Option Double} :
    number? (.number n) = .ok x ↔ HoldsTolerance x (.number n) := by
  -- an integer is taken as the floating-point number that it rounds to
  have hvalue : ∀ r, Json.Number.ofNumeral? n = some r →
      number? (.number n) = .ok (some r.toDouble) := by
    intro r hr
    rw [number?, Found.ofToken?, hr]
    cases r <;> rfl
  constructor
  · intro h
    cases hread : Json.Number.ofNumeral? n with
    | none =>
      rw [number?, Found.ofToken?, hread] at h
      exact absurd h (mismatch_ne_ok _ _ _)
    | some r =>
      rw [hvalue r hread] at h
      cases h
      exact .number (Json.Number.roundsTo_iff.2 ⟨r, hread, rfl⟩)
  · intro h
    cases h with
    | number hrounds =>
      obtain ⟨r, hr, rfl⟩ := Json.Number.roundsTo_iff.1 hrounds
      exact hvalue r hr

/-- **A bound is read if it fits, and as what it stands for.** -/
theorem index?_token_eq_ok_iff {i : Option Int64} : index? v.token = .ok i ↔ HoldsIndex i v := by
  by_cases hv : v.IsAtom
  · obtain rfl | ⟨n, rfl⟩ := hv
    · exact ⟨fun h => by cases h; exact .null, fun h => by cases h; rfl⟩
    · exact index?_number_eq_ok_iff
  · rw [(index?_number?_of_not_isAtom hv).1]
    exact ⟨fun h => absurd h (mismatch_ne_ok _ _ _), fun h => absurd h.isAtom hv⟩

/-- **A tolerance is read if it fits, and as what it stands for.** -/
theorem number?_token_eq_ok_iff {x : Option Double} :
    number? v.token = .ok x ↔ HoldsTolerance x v := by
  by_cases hv : v.IsAtom
  · obtain rfl | ⟨n, rfl⟩ := hv
    · exact ⟨fun h => by cases h; exact .null, fun h => by cases h; rfl⟩
    · exact number?_number_eq_ok_iff
  · rw [(index?_number?_of_not_isAtom hv).2]
    exact ⟨fun h => absurd h (mismatch_ne_ok _ _ _), fun h => absurd h.isAtom hv⟩

/-- A value fits a bound if there is a bound that it stands for. -/
theorem fitsIndex_iff : FitsIndex v ↔ ∃ i, HoldsIndex i v := by
  constructor
  · rintro (rfl | ⟨n, i, rfl, hinteger, hlow, hhigh⟩)
    · exact ⟨none, .null⟩
    · refine ⟨some (Int64.ofInt i), .integer ?_⟩
      rwa [Int64.toInt_ofInt_of_le hlow hhigh]
  · rintro ⟨i, h⟩
    cases h with
    | null => exact .inl rfl
    | integer h => exact .inr ⟨_, _, rfl, h, Int64.le_toInt _, Int64.toInt_lt _⟩

/-- A value fits a tolerance if there is a tolerance that it stands for. -/
theorem fitsTolerance_iff : FitsTolerance v ↔ ∃ x, HoldsTolerance x v := by
  constructor
  · rintro (rfl | ⟨n, x, rfl, hrounds⟩)
    · exact ⟨none, .null⟩
    · exact ⟨some x, .number hrounds⟩
  · rintro ⟨x, h⟩
    cases h with
    | null => exact .inl rfl
    | number h => exact .inr ⟨_, _, rfl, h⟩

/-! ### Setting a field -/

/-- Two options have a field in common. -/
def SameAt (o acc : Options) : Field → Prop
  | .start => o.start? = acc.start?
  | .stop => o.stop? = acc.stop?
  | .tolerance => o.tolerance? = acc.tolerance?

/-- Options are the same if they have all fields in common. -/
theorem eq_of_sameAt (h : ∀ f, o.SameAt acc f) : o = acc := by
  obtain ⟨start?, stop?, tolerance?⟩ := o
  obtain rfl : start? = _ := h .start
  obtain rfl : stop? = _ := h .stop
  obtain rfl : tolerance? = _ := h .tolerance
  rfl

/-- Options have every field in common with themselves. -/
theorem sameAt_rfl (o : Options) (f : Field) : o.SameAt o f := by
  cases f <;> rfl

/-- A field that is the same in two steps is the same in both. -/
theorem SameAt.trans {b : Options} (h : o.SameAt b f) (h' : b.SameAt acc f) : o.SameAt acc f := by
  cases f <;> exact Eq.trans h h'

/-- To have a field in common goes both ways. -/
theorem SameAt.symm (h : o.SameAt acc f) : acc.SameAt o f := by
  cases f <;> exact Eq.symm h

/-- Options hold the same in a field that they have in common. -/
theorem SameAt.holds (h : o.SameAt acc f) (hacc : acc.Holds v f) : o.Holds v f := by
  cases f with
  | start => exact (congrArg (HoldsIndex · v) h).mpr hacc
  | stop => exact (congrArg (HoldsIndex · v) h).mpr hacc
  | tolerance => exact (congrArg (HoldsTolerance · v) h).mpr hacc

/-- The field that is copied is the one of the other options. -/
theorem sameAt_copy (acc o : Options) (f : Field) : (acc.copy o f).SameAt o f := by
  cases f <;> rfl

/-- Every other field stays as it was. -/
theorem sameAt_copy_of_ne {g : Field} (h : g ≠ f) : (acc.copy o f).SameAt acc g := by
  cases f <;> cases g <;> first | exact absurd rfl h | rfl

/-- A copied field leads to the other options if these agree on everything else. -/
theorem copy_eq_iff : acc.copy o f = o ↔ ∀ g, g ≠ f → o.SameAt acc g := by
  constructor
  · intro h g hg
    rw [← h]
    exact sameAt_copy_of_ne hg
  · intro h
    -- the copied field agrees by the copy, the others by the agreement
    refine eq_of_sameAt fun g => ?_
    by_cases hg : g = f
    · exact hg ▸ sameAt_copy acc o f
    · exact (sameAt_copy_of_ne hg).trans (h g hg).symm

/-- What a reader gives is put into its place. If the place can be read, the outcome shows what it was. -/
theorem map_eq_ok_iff {β : Type} {r : Except DecodeError β} {put : β → Options}
    {P : β → Prop} (get : Options → β) (hget : ∀ b, get (put b) = b) (hread : ∀ b, r = .ok b ↔ P b) :
    r.map put = .ok o ↔ P (get o) ∧ put (get o) = o := by
  constructor
  · intro h
    obtain ⟨b, hb, rfl⟩ := exists_of_map_eq_ok h
    rw [hget]
    exact ⟨(hread b).1 hb, rfl⟩
  · rintro ⟨h, hput⟩
    rw [(hread _).2 h]
    exact congrArg Except.ok hput

/-- **A field is set to what the value stands for, and the others stay.** -/
theorem set_token_eq_ok_iff :
    set acc f v.token = .ok o ↔ o.Holds v f ∧ ∀ g, g ≠ f → o.SameAt acc g := by
  rw [← copy_eq_iff]
  cases f with
  | start => exact map_eq_ok_iff start? (fun _ => rfl) fun _ => index?_token_eq_ok_iff
  | stop => exact map_eq_ok_iff stop? (fun _ => rfl) fun _ => index?_token_eq_ok_iff
  | tolerance => exact map_eq_ok_iff tolerance? (fun _ => rfl) fun _ => number?_token_eq_ok_iff

/-- A value fits a field if some options can hold it there. -/
theorem fits_iff_exists_holds : Fits v f ↔ ∃ o : Options, o.Holds v f := by
  cases f with
  | start => exact fitsIndex_iff.trans ⟨fun ⟨i, h⟩ => ⟨⟨i, none, none⟩, h⟩, fun ⟨o, h⟩ => ⟨_, h⟩⟩
  | stop => exact fitsIndex_iff.trans ⟨fun ⟨i, h⟩ => ⟨⟨none, i, none⟩, h⟩, fun ⟨o, h⟩ => ⟨_, h⟩⟩
  | tolerance =>
    exact fitsTolerance_iff.trans ⟨fun ⟨x, h⟩ => ⟨⟨none, none, x⟩, h⟩, fun ⟨o, h⟩ => ⟨_, h⟩⟩

/-- A field can be set to a value if the value fits. -/
theorem fits_iff (acc : Options) : Fits v f ↔ ∃ o, set acc f v.token = .ok o := by
  rw [fits_iff_exists_holds]
  constructor
  · rintro ⟨o, h⟩
    -- copied from the options that hold it, with everything else as it is
    exact ⟨acc.copy o f, set_token_eq_ok_iff.2
      ⟨(sameAt_copy acc o f).holds h, fun g hg => sameAt_copy_of_ne hg⟩⟩
  · rintro ⟨o, h⟩
    exact ⟨o, (set_token_eq_ok_iff.1 h).1⟩

/-! ### Setting one field after the other -/

/-- Sets fields one after the other. -/
def settle (acc : Options) (settings : List (Field × Value)) : Except DecodeError Options :=
  settings.foldlM (fun o e => set o e.1 e.2.token) acc

/-- Setting goes on after the first field, if that can be set. -/
theorem settle_cons_eq_ok_iff {e : Field × Value} :
    settle acc (e :: settings) = .ok o
      ↔ ∃ acc', set acc e.1 e.2.token = .ok acc' ∧ settle acc' settings = .ok o := by
  rw [settle, List.foldlM_cons]
  cases set acc e.1 e.2.token with
  | error err => exact ⟨nofun, fun ⟨_, h, _⟩ => nomatch h⟩
  | ok acc' => exact ⟨fun h => ⟨acc', rfl, h⟩, fun ⟨_, h, h'⟩ => by cases h; exact h'⟩

/-- **Setting different fields can be told from the outcome.** The induction is on the fields that are
set, and what is set first stays, as no later one is the same. -/
theorem settle_eq_ok_iff (hnodup : (settings.map Prod.fst).Nodup) :
    settle acc settings = .ok o ↔ (∀ e ∈ settings, o.Holds e.2 e.1)
      ∧ ∀ g ∉ settings.map Prod.fst, o.SameAt acc g := by
  induction settings generalizing acc with
  | nil =>
    constructor
    · rintro ⟨⟩
      exact ⟨nofun, fun g _ => sameAt_rfl o g⟩
    · rintro ⟨-, h⟩
      rw [eq_of_sameAt fun g => h g List.not_mem_nil]
      rfl
  | cons e settings ih =>
    obtain ⟨hfirst, hothers⟩ := List.nodup_cons.1 hnodup
    rw [settle_cons_eq_ok_iff]
    constructor
    · rintro ⟨acc', hset, h⟩
      obtain ⟨hholds, hsame⟩ := set_token_eq_ok_iff.1 hset
      obtain ⟨hrest, hkept⟩ := (ih hothers).1 h
      -- the fields behind leave the first one as it is
      refine ⟨List.forall_mem_cons.2 ⟨(hkept e.1 hfirst).holds hholds, hrest⟩, fun g hg => ?_⟩
      obtain ⟨hne, hg⟩ := not_or.1 (mt List.mem_cons.2 hg)
      exact (hkept g hg).trans (hsame g hne)
    · rintro ⟨hall, hkept⟩
      obtain ⟨hholds, hrest⟩ := List.forall_mem_cons.1 hall
      -- on the way is what the options hold in the first field, with all others as before
      have hcopy := sameAt_copy acc o e.1
      refine ⟨acc.copy o e.1, set_token_eq_ok_iff.2
        ⟨hcopy.holds hholds, fun g hg => sameAt_copy_of_ne hg⟩, (ih hothers).2 ⟨hrest, fun g hg => ?_⟩⟩
      by_cases hge : g = e.1
      · exact hge ▸ hcopy.symm
      · exact (hkept g (fun h => (List.mem_cons.1 h).elim hge hg)).trans (sameAt_copy_of_ne hge).symm

/-- Fields can be set if all the values fit. -/
theorem exists_settle_iff (acc : Options) (settings : List (Field × Value)) :
    (∃ o, settle acc settings = .ok o) ↔ ∀ e ∈ settings, Fits e.2 e.1 := by
  induction settings generalizing acc with
  | nil => exact ⟨fun _ => nofun, fun _ => ⟨acc, rfl⟩⟩
  | cons e settings ih =>
    rw [List.forall_mem_cons, fits_iff acc]
    constructor
    · rintro ⟨o, h⟩
      obtain ⟨acc', hset, h⟩ := settle_cons_eq_ok_iff.1 h
      exact ⟨⟨acc', hset⟩, (ih acc').1 ⟨o, h⟩⟩
    · rintro ⟨⟨acc', hset⟩, hrest⟩
      obtain ⟨o, h⟩ := (ih acc').2 hrest
      exact ⟨o, settle_cons_eq_ok_iff.2 ⟨acc', hset, h⟩⟩

end Options

end Haystack
