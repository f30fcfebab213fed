import Haystack.Proofs.Options.RoundTrip

/-!
# Options that were read stay as they are

Whatever text options were read from, with its members in any order, its blanks and its spelling of the
numbers, they can be written and read again and are the same. Options put together by hand can lose an
infinite tolerance that way, as it has no JSON text; but no such tolerance is ever read, since a number
out of range is refused.

The reader builds options up from none at all, one field at a time, so what holds of options without
fields and is kept by setting one of them holds of everything that is read (`decode_induction`).
-/

namespace Haystack

namespace Options

open Json (Token)

variable {o o' : Options} {seen fields : List Field} {f : Field} {t : Token} {ts rest : List Token}
  {text : String}

/-- A mismatch is no result. -/
theorem mismatch_ne_ok {β : Type} (t : Token) (expected : Expected) (b : β) :
    mismatch t expected ≠ .ok b := by
  unfold mismatch
  split <;> exact nofun

/-- What comes of a result came of one. -/
theorem exists_of_map_eq_ok {ε β γ : Type} {g : β → γ} {r : Except ε β} {c : γ}
    (h : r.map g = .ok c) : ∃ b, r = .ok b ∧ g b = c := by
  cases r with
  | error e => cases h
  | ok b => exact ⟨b, rfl, Except.ok.inj h⟩

/-! ### What the reader maintains -/

section Induction

variable {P : Options → Prop} (hset : ∀ o f t o', P o → set o f t = .ok o' → P o')

include hset

/-- What setting a field keeps is kept from the options before a member to those at the end of the
object. -/
theorem members_induction (ho : P o) (h : members seen o ts = .ok (o', rest)) : P o' := by
  fun_induction members seen o ts with
  | case4 seen o name f _ _ t o₁ hread ts ih =>
    -- behind a comma, the members that follow start with the field set
    exact ih (hset o f t o₁ ho hread) h
  | case5 seen o name f _ _ t o₁ hread ts =>
    -- the last member
    cases h
    exact hset o f t _ ho hread
  -- all other texts are refused
  | _ => cases h

/-- The same from the options before an element to those at the end of the list. -/
theorem items_induction (ho : P o) (h : items o fields ts = .ok (o', rest)) : P o' := by
  fun_induction items o fields ts with
  -- behind a comma the next field has its turn
  | case2 o f fields t o₁ hread ts ih => exact ih (hset o f t o₁ ho hread) h
  -- the last element
  | case3 o f fields t o₁ hread ts =>
    cases h
    exact hset o f t _ ho hread
  | _ => cases h

/-- It holds at the end of any value, as all of them start without fields. -/
theorem value_induction (hempty : P empty) (h : value ts = .ok (o, rest)) : P o := by
  unfold value at h
  split at h
  · -- an empty object
    cases h
    exact hempty
  · exact members_induction hset hempty h
  · -- an empty list
    cases h
    exact hempty
  · exact items_induction hset hempty h
  · exact absurd h (mismatch_ne_ok _ _ _)
  · cases h

/-- **What holds without a field and is kept by setting one holds of all options that are read.** -/
theorem decode_induction (hempty : P empty) (h : decode text = .ok o) : P o := by
  unfold decode ofTokens at h
  split at h
  · cases h
  · next hvalue =>
    cases h
    exact value_induction hset hempty hvalue
  · cases h

end Induction

/-! ### Finite tolerances -/

/-- The tolerance is finite, if there is one. -/
def FiniteTolerance (o : Options) : Prop :=
  ∀ x ∈ o.tolerance?, x.isFinite = true

/-- Without a tolerance there is none that is not finite. -/
theorem FiniteTolerance.empty : FiniteTolerance empty := by
  intro x hx
  cases hx

/-- A tolerance that a token stands for is finite, whether it is spelled as an integer or not. -/
theorem isFinite_of_number? {x : Double} (h : number? t = .ok (some x)) : x.isFinite = true := by
  cases t with
  | number n =>
    unfold number? Found.ofToken? at h
    dsimp only at h
    cases hread : Json.Number.ofNumeral? n with
    | none =>
      rw [hread] at h
      exact absurd h (mismatch_ne_ok _ _ _)
    | some r =>
      have hfinite := Json.Number.isFinite_of_ofNumeral? hread
      rw [hread] at h
      -- as an integer or as a floating-point number, what is read is finite
      cases r with
      | integer i =>
        cases h
        exact hfinite
      | float y =>
        cases h
        exact hfinite
  | _ => cases h

/-- **Setting a field keeps the tolerance finite**, be it a bound or the tolerance itself. -/
theorem FiniteTolerance.set (ho : o.FiniteTolerance) (h : o.set f t = .ok o') :
    o'.FiniteTolerance := by
  unfold Options.set at h
  cases f with
  | start =>
    obtain ⟨i, -, rfl⟩ := exists_of_map_eq_ok h
    exact ho
  | stop =>
    obtain ⟨i, -, rfl⟩ := exists_of_map_eq_ok h
    exact ho
  | tolerance =>
    obtain ⟨r, hread, rfl⟩ := exists_of_map_eq_ok h
    intro x hx
    apply isFinite_of_number?
    rw [hread]
    exact congrArg Except.ok hx

/-- **No text sets a tolerance that is not finite.** -/
theorem finiteTolerance_of_decode (h : decode text = .ok o) : o.FiniteTolerance :=
  decode_induction (fun _ _ _ _ ho hset => ho.set hset) FiniteTolerance.empty h

/-! ### Reading again -/

/-- Nothing is lost in writing options without a tolerance or with a finite one. -/
theorem FiniteTolerance.described_eq (ho : o.FiniteTolerance) : o.described = o := by
  -- a finite tolerance has a text
  have hfilter : o.tolerance?.filter Binary.isFinite = o.tolerance? := by
    cases hx : o.tolerance? with
    | none => rfl
    | some x => rw [Option.filter_some, if_pos (ho x hx)]
  unfold described
  rw [hfilter]

/-- **Options that were read are stable**: their tolerance, if they have one, is finite, and the text
that they are written as is read as the same options. -/
theorem decode_encode_of_decode (text : String) (o : Options) (h : decode text = .ok o) :
    (∀ x, o.tolerance? = some x → x.isFinite = true) ∧ decode o.encode = .ok o := by
  have hfinite : o.FiniteTolerance := finiteTolerance_of_decode h
  refine ⟨hfinite, ?_⟩
  rw [decode_encode, hfinite.described_eq]

/-- A text with its members out of order, a bound at the end of its range and a tolerance that is
spelled as an integer, which no number of double precision is equal to. -/
def spelledOut : String :=
  "\x7b \"tolerance\" : 18446744073709551615,\n \"from_index\":-9223372036854775808 \x7d"

/-- What it says: the tolerance is the next power of two. -/
def spelledOutOptions : Options where
  start? := some Int64.minValue
  stop? := none
  tolerance? := some (Binary.ofBits .double 0x43F0000000000000)

/-- The tolerance is rounded when it is read, and from then on it stays. -/
theorem decode_encode_of_decode_spelledOut :
    decode spelledOut = .ok spelledOutOptions
      ∧ (Binary.ofBits .double 0x43F0000000000000).isFinite = true
      ∧ decode spelledOutOptions.encode = .ok spelledOutOptions := by
  have hread : decode spelledOut = .ok spelledOutOptions := by decide +kernel
  obtain ⟨hfinite, hback⟩ := decode_encode_of_decode spelledOut spelledOutOptions hread
  exact ⟨hread, hfinite _ rfl, hback⟩

end Options

end Haystack
