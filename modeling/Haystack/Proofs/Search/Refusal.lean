import Haystack.Proofs.Search.Dispatch

/-!
# Which queries are refused, and why

A query can be wrong in several ways at once, and a caller sees one reason. This file says what each
way to be wrong is, by itself and without looking at the others (`Options.Fault`), ranks the reasons
(`SearchError.precedence`), and proves that a query is refused for its first fault, and answered when it
has none (`Options.search_refused_for_first_fault`).

An absent haystack is no fault. It takes away the only fault that speaks of it, a kind other than that
of the pattern, and no other: a query that is wrong in another way is refused all the same.

The checks of a search come one after the other. What is known after the first `n` of them is
`Options.ClearUpTo n`: there is no fault of a rank below `n`. Each check that is passed raises the rank
by one (`ClearUpTo.succ`), and the check that fails names a fault of the rank that was reached.

The windows that a search goes by are made when it has passed its checks, and the makers check again.
They never refuse anything at that point, as `Options.validate` classifies tolerances as they do.
-/

namespace Haystack

/-- **Which of several reasons is reported**: the one of least rank. -/
def SearchError.precedence : SearchError → Nat
  | nullPattern => 0
  | nanTolerance => 1
  | negativeTolerance _ => 2
  | toleranceUnsupported _ => 3
  | endBoundUnsupported => 4
  | kindMismatch .. => 5

namespace Options

variable {ε : Type} (o : Options) (d : Direction) (h? p? : Option (TypedArray ε))

/-! ### Faults -/

/-- **A fault of a query**, as the reason to refuse it. -/
inductive Fault : SearchError → Prop
  | nullPattern (hp : p? = none) : Fault .nullPattern
  | nanTolerance {t : Double} (ht : o.tolerance? = some t) (hn : t.isNaN = true) :
    Fault .nanTolerance
  | negativeTolerance {t : Double} (ht : o.tolerance? = some t) (hn : t.isNaN = false)
    (hneg : t.toEReal < 0) : Fault (.negativeTolerance t)
  | toleranceUnsupported {t : Double} {p : TypedArray ε} (ht : o.tolerance? = some t)
    (hp : p? = some p) (hk : p.kind.isFloating = false) : Fault (.toleranceUnsupported p.kind)
  | endBoundUnsupported {i : Int64} (hd : d = .backward) (hi : o.stop? = some i) :
    Fault .endBoundUnsupported
  | kindMismatch {h p : TypedArray ε} (hh : h? = some h) (hp : p? = some p)
    (hk : h.kind ≠ p.kind) : Fault (.kindMismatch h.kind p.kind)

/-- There is no fault of a rank below `n`. -/
def ClearUpTo (n : Nat) : Prop :=
  ∀ e, Fault o d h? p? e → n ≤ e.precedence

/-- **The first fault of a query.** -/
def IsFirstFault (e : SearchError) : Prop :=
  Fault o d h? p? e ∧ ClearUpTo o d h? p? e.precedence

variable {o d h? p?}

/-- Before the first check nothing is known. -/
theorem clearUpTo_zero : ClearUpTo o d h? p? 0 := fun _ _ => Nat.zero_le _

/-- Passing one more check. -/
theorem ClearUpTo.succ {n : Nat} (hclear : ClearUpTo o d h? p? n)
    (hcheck : ∀ e, Fault o d h? p? e → e.precedence ≠ n) : ClearUpTo o d h? p? (n + 1) :=
  fun e he => Nat.lt_of_le_of_ne (hclear e he) (hcheck e he).symm

/-- Six ranks are all there are. -/
theorem ClearUpTo.not_fault (hclear : ClearUpTo o d h? p? 6) (e : SearchError) :
    ¬Fault o d h? p? e := by
  intro he
  have hrank : e.precedence < 6 := by
    cases e <;> simp [SearchError.precedence]
  exact absurd (hclear e he) (Nat.not_le.2 hrank)

/-- Two faults of one rank are the same, as every reason is determined by the query. -/
theorem Fault.eq_of_precedence_eq {e e' : SearchError} (he : Fault o d h? p? e)
    (he' : Fault o d h? p? e') (h : e.precedence = e'.precedence) : e = e' := by
  cases he <;> cases he' <;> simp_all [SearchError.precedence]

/-- A query has one first fault at most. -/
theorem IsFirstFault.unique {e e' : SearchError} (he : IsFirstFault o d h? p? e)
    (he' : IsFirstFault o d h? p? e') : e = e' :=
  he.1.eq_of_precedence_eq he'.1 (le_antisymm (he.2 e' he'.1) (he'.2 e he.1))

/-! ### The checks, one by one -/

section Checks

variable {p : TypedArray ε}

/-- The pattern is there. -/
theorem clearUpTo_pattern : ClearUpTo o d h? (some p) 1 := by
  refine clearUpTo_zero.succ fun e he => ?_
  cases he with
  | nullPattern hp => cases hp
  | _ => simp [SearchError.precedence]

/-- **The window is refused for the fault of the tolerance**, which is the first one if the pattern is
there. -/
theorem isFirstFault_of_window_error {e : SearchError} (hwindow : o.window = .error e) :
    IsFirstFault o d h? (some p) e := by
  rw [window] at hwindow
  -- without a tolerance the window is not refused
  cases ht : o.tolerance? with
  | none =>
    rw [ht] at hwindow
    cases hwindow
  | some t =>
    rw [ht] at hwindow
    rcases Tolerance.ofWidth?_eq_error_iff.1 hwindow with ⟨hn, rfl⟩ | ⟨hn, hneg, rfl⟩
    · exact ⟨.nanTolerance ht hn, clearUpTo_pattern⟩
    · rw [Binary.convert_self hn]
      refine ⟨.negativeTolerance ht hn hneg, clearUpTo_pattern.succ fun e he => ?_⟩
      cases he with
      | nanTolerance ht' hn' =>
        -- the tolerance is no NaN, so the fault of a lower rank is not there
        obtain rfl := Option.some.inj (ht.symm.trans ht')
        rw [hn] at hn'
        cases hn'
      | _ => simp [SearchError.precedence]

/-- There is a window, so nothing is wrong with the tolerance. -/
theorem clearUpTo_window {t : Tolerance .double} (hwindow : o.window = .ok t) :
    ClearUpTo o d h? (some p) 3 := by
  -- a width is neither a NaN nor below zero, which are the two faults that a tolerance can have by itself
  have hwidth : ∀ x, o.tolerance? = some x → x.isNaN = false ∧ 0 ≤ x.toEReal := by
    intro x hx
    rw [window_eq_ok_iff, toleranceOrZero, hx] at hwindow
    exact Tolerance.exists_width_iff.1 ⟨t, hwindow⟩
  have hnan : ClearUpTo o d h? (some p) 2 := by
    refine clearUpTo_pattern.succ fun e he => ?_
    cases he with
    | nanTolerance ht hn =>
      rw [(hwidth _ ht).1] at hn
      cases hn
    | _ => simp [SearchError.precedence]
  refine hnan.succ fun e he => ?_
  cases he with
  | negativeTolerance ht _ hneg => exact absurd hneg (not_lt.2 (hwidth _ ht).2)
  | _ => simp [SearchError.precedence]

/-- The kind of the pattern has a use for the tolerance, if there is one. -/
theorem ClearUpTo.kind (hclear : ClearUpTo o d h? (some p) 3)
    (hkind : ¬(o.tolerance?.isSome ∧ ¬p.kind.supportsTolerance)) :
    ClearUpTo o d h? (some p) 4 := by
  refine hclear.succ fun e he => ?_
  cases he with
  | toleranceUnsupported ht hp hk =>
    -- this fault is what the check looks for
    obtain rfl := Option.some.inj hp
    refine absurd ⟨by rw [ht]; rfl, ?_⟩ hkind
    rw [Kind.supportsTolerance, hk]
    exact Bool.false_ne_true
  | _ => simp [SearchError.precedence]

/-- The direction has a use for the end bound, if there is one. -/
theorem ClearUpTo.stop (hclear : ClearUpTo o d h? (some p) 4)
    (hstop : ¬(d = .backward ∧ o.stop?.isSome)) : ClearUpTo o d h? (some p) 5 := by
  refine hclear.succ fun e he => ?_
  cases he with
  | endBoundUnsupported hd hi => exact absurd ⟨hd, by rw [hi]; rfl⟩ hstop
  | _ => simp [SearchError.precedence]

/-- The haystack is of the kind of the pattern, if there is one. -/
theorem ClearUpTo.mismatch (hclear : ClearUpTo o d h? (some p) 5)
    (hkinds : ∀ h, h? = some h → h.kind = p.kind) : ClearUpTo o d h? (some p) 6 := by
  refine hclear.succ fun e he => ?_
  cases he with
  | kindMismatch hh hp hk =>
    obtain rfl := Option.some.inj hp
    exact absurd (hkinds _ hh) hk
  | _ => simp [SearchError.precedence]

end Checks

/-! ### The whole query -/

/-- Arrays are refused when their kinds differ, and scanned otherwise. -/
theorem scanArrays_cases (o : Options) (d : Direction) (equal : ε → ε → Bool)
    (t : Tolerance .double) (h p : TypedArray ε) :
    (h.kind = p.kind ∧ ∃ found, o.scanArrays d equal t h p = .ok found)
      ∨ (h.kind ≠ p.kind ∧ o.scanArrays d equal t h p = .error (.kindMismatch h.kind p.kind)) := by
  rcases h with ⟨k, xs⟩ | xs <;> rcases p with ⟨l, ys⟩ | ys
  · -- flat arrays are scanned if they are of one flat kind
    by_cases hkl : l = k
    · subst hkl
      exact .inl ⟨rfl, _, o.scanArrays_flat d equal t xs ys⟩
    · refine .inr ⟨?_, dif_neg hkl⟩
      simpa only [TypedArray.kind, ne_eq, Kind.flat.injEq] using Ne.symm hkl
  · exact .inr ⟨by simp [TypedArray.kind], rfl⟩
  · exact .inr ⟨by simp [TypedArray.kind], rfl⟩
  · exact .inl ⟨rfl, _, rfl⟩

/-- **A query is refused for its first fault, or has none and is answered.** The cases are the checks of
the search, in order. -/
theorem search_cases (o : Options) (d : Direction) (equal : ε → ε → Bool)
    (h? p? : Option (TypedArray ε)) :
    (∃ e, o.search d equal h? p? = .error e ∧ IsFirstFault o d h? p? e)
      ∨ ∃ found, o.search d equal h? p? = .ok found ∧ ClearUpTo o d h? p? 6
        ∧ (h? = none → found = none) := by
  cases p? with
  | none =>
    -- the pattern is looked for first
    refine .inl ⟨.nullPattern, ?_, .nullPattern rfl, clearUpTo_zero⟩
    cases d <;> rfl
  | some p =>
    rw [search_some, locate]
    cases hwindow : o.window with
    | error e => exact .inl ⟨e, rfl, isFirstFault_of_window_error hwindow⟩
    | ok t =>
      -- the checks that are left come in the order of the ranks
      have hclear : ClearUpTo o d h? (some p) 3 := clearUpTo_window hwindow
      simp only
      split
      · next hkind =>
        obtain ⟨x, hx⟩ := Option.isSome_iff_exists.1 hkind.1
        exact .inl ⟨_, rfl, .toleranceUnsupported hx rfl (Bool.not_eq_true _ ▸ hkind.2), hclear⟩
      · next hkind =>
        replace hclear := hclear.kind hkind
        split
        · next hstop =>
          obtain ⟨i, hi⟩ := Option.isSome_iff_exists.1 hstop.2
          exact .inl ⟨_, rfl, .endBoundUnsupported hstop.1 hi, hclear⟩
        · next hstop =>
          replace hclear := hclear.stop hstop
          cases h? with
          | none => exact .inr ⟨none, rfl, hclear.mismatch (by simp), fun _ => rfl⟩
          | some h =>
            rcases o.scanArrays_cases d equal t h p with ⟨hk, found, hscan⟩ | ⟨hk, hscan⟩
            · refine .inr ⟨found, hscan, hclear.mismatch fun h' hh => ?_, by simp⟩
              obtain rfl := Option.some.inj hh
              exact hk
            · exact .inl ⟨_, hscan, .kindMismatch rfl rfl hk, hclear⟩

section Answers

variable (o d h? p?) (equal : ε → ε → Bool)

/-- **A query is refused for its first fault**, and for nothing else: a first fault is the only one, and
a query without faults is answered. -/
theorem search_eq_error_iff (e : SearchError) :
    o.search d equal h? p? = .error e ↔ IsFirstFault o d h? p? e := by
  rcases search_cases o d equal h? p? with ⟨e', hsearch, hfirst⟩ | ⟨found, hsearch, hclear, -⟩
  · rw [hsearch, Except.error.injEq]
    exact ⟨fun he => he ▸ hfirst, fun he => hfirst.unique he⟩
  · rw [hsearch]
    exact iff_of_false (by simp) fun he => hclear.not_fault e he.1

/-- **A query is answered exactly if it has no fault.** -/
theorem exists_search_eq_ok_iff :
    (∃ found, o.search d equal h? p? = .ok found) ↔ ∀ e, ¬Fault o d h? p? e := by
  rcases search_cases o d equal h? p? with ⟨e', hsearch, hfirst⟩ | ⟨found, hsearch, hclear, -⟩
  · rw [hsearch]
    exact iff_of_false (by simp) fun hnone => hnone e' hfirst.1
  · rw [hsearch]
    exact iff_of_true ⟨found, rfl⟩ hclear.not_fault

/-- In an absent haystack nothing is found. -/
theorem eq_none_of_search_none {found : Option Nat}
    (hfound : o.search d equal none p? = .ok found) : found = none := by
  rcases search_cases o d equal none p? with ⟨e', hsearch, -⟩ | ⟨found', hsearch, -, hempty⟩
  · rw [hsearch] at hfound
    cases hfound
  · rw [hsearch] at hfound
    cases hfound
    exact hempty rfl

end Answers

/-! ### The makers of windows -/

/-- Options pass their check when there is a window for them. -/
theorem validate_eq_ok_iff : o.validate = .ok () ↔ ∃ t, o.window = .ok t := by
  rw [validate]
  cases o.window with
  | error e => simp [Except.map]
  | ok t => simp [Except.map]

/-- Options whose tolerance passes the check are accepted by the floating-point kinds, if the direction has a
use for the end bound that they give. -/
theorem Accepts.of_validate {k : Kind} (hvalid : o.validate = .ok ()) (hk : k.isFloating = true)
    (hstop : d = .backward → o.stop? = none) : o.Accepts d k where
  tolerance x hx := by
    obtain ⟨t, ht⟩ := validate_eq_ok_iff.1 hvalid
    rw [window_eq_ok_iff, toleranceOrZero, hx] at ht
    obtain ⟨hn, h0⟩ := Tolerance.exists_width_iff.1 ⟨t, ht⟩
    exact ⟨hn, h0, hk⟩
  stop := hstop

/-- **No maker refuses a tolerance that passes the check**: there is a window then, and both makers take
its width. -/
theorem exists_windows_of_validate (hvalid : o.validate = .ok ()) :
    (∃ t, Tolerance.ofWidth? o.toleranceOrZero = .ok t)
      ∧ ∃ t, Tolerance.narrowed? o.toleranceOrZero = .ok t := by
  obtain ⟨t, ht⟩ := validate_eq_ok_iff.1 hvalid
  have hmade := Tolerance.ofWidth?_eq_ok_iff.2 (o.window_eq_ok_iff.1 ht)
  exact ⟨⟨t, hmade⟩, t.narrow, by rw [Tolerance.narrowed?, hmade, Except.map]⟩

/-- A tolerance is refused by the check of the options as it is by the makers of windows. -/
theorem validate_withTolerance_eq_error_iff {x : Double} {e : SearchError} :
    (o.withTolerance x).validate = .error e ↔ Tolerance.ofWidth? x = .error e := by
  show (Tolerance.ofWidth? x).map _ = _ ↔ _
  cases Tolerance.ofWidth? x <;> simp [Except.map]

/-- **A query is refused for its first fault, and answered if it has none**; in an absent haystack
nothing is found then. When the tolerance passes the check, no maker of windows refuses it, be it for
numbers of 64 bits or of 32; and check and makers refuse the same tolerances for the same reasons, among
them neither the negative zero nor infinity. -/
theorem search_refused_for_first_fault (o : Options) (d : Direction) (equal : ε → ε → Bool)
    (h? p? : Option (TypedArray ε)) :
    (∀ e, o.search d equal h? p? = .error e ↔ IsFirstFault o d h? p? e)
      ∧ ((∃ found, o.search d equal h? p? = .ok found) ↔ ∀ e, ¬Fault o d h? p? e)
      ∧ (h? = none → ∀ found, o.search d equal h? p? = .ok found → found = none)
      ∧ (o.validate = .ok () →
          (∃ t, Tolerance.ofWidth? o.toleranceOrZero = .ok t)
            ∧ ∃ t, Tolerance.narrowed? o.toleranceOrZero = .ok t)
      ∧ (∀ x e, ((o.withTolerance x).validate = .error e ↔ Tolerance.ofWidth? x = .error e)
          ∧ ((o.withTolerance x).validate = .error e ↔ Tolerance.narrowed? x = .error e))
      ∧ (o.withTolerance (.zero true)).validate = .ok ()
      ∧ (o.withTolerance (.infinity false)).validate = .ok () := by
  refine ⟨search_eq_error_iff o d h? p? equal, exists_search_eq_ok_iff o d h? p? equal, ?_,
    exists_windows_of_validate, fun x e => ⟨validate_withTolerance_eq_error_iff, ?_⟩, rfl, rfl⟩
  · rintro rfl found hfound
    exact eq_none_of_search_none o d p? equal hfound
  · rw [validate_withTolerance_eq_error_iff, Tolerance.narrowed?_eq_error_iff]

/-- Options that ask for a window of half-width `-1` before position `3`. -/
def belowZero : Options :=
  (empty.withStop 3).withTolerance (Binary.ofBits .double 0xBFF0000000000000)

/-- A backward search for truth values among numbers under these options is wrong in four ways, and it is
the tolerance below zero that is reported. -/
theorem search_refused_for_first_fault_belowZero :
    Fault belowZero .backward (some (.flat ⟨.int32, [1]⟩ : TypedArray Nat))
        (some (.flat ⟨.bool, [true]⟩)) (.kindMismatch (.flat .int32) (.flat .bool))
      ∧ Fault belowZero .backward (some (.flat ⟨.int32, [1]⟩ : TypedArray Nat))
          (some (.flat ⟨.bool, [true]⟩)) .endBoundUnsupported
      ∧ IsFirstFault belowZero .backward (some (.flat ⟨.int32, [1]⟩ : TypedArray Nat))
          (some (.flat ⟨.bool, [true]⟩))
          (.negativeTolerance (Binary.ofBits .double 0xBFF0000000000000))
      ∧ (empty.withStop 3).validate = .ok ()
      ∧ (∃ t, Tolerance.narrowed? (empty.withStop 3).toleranceOrZero = .ok t)
      ∧ belowZero.search .forward (· == ·) (none : Option (TypedArray Nat)) none
          = .error .nullPattern := by
  have hvalid : (empty.withStop 3).validate = .ok () := rfl
  refine ⟨.kindMismatch rfl rfl (by decide), .endBoundUnsupported rfl rfl, ?_, hvalid, ?_, ?_⟩
  · refine ((search_refused_for_first_fault belowZero .backward (· == ·) _ _).1 _).1 ?_
    decide +kernel
  · have hmakers := search_refused_for_first_fault (empty.withStop 3) .forward (· == ·)
      (none : Option (TypedArray Nat)) none
    exact (hmakers.2.2.2.1 hvalid).2
  · refine ((search_refused_for_first_fault belowZero .forward (· == ·) _ _).1 _).2 ?_
    exact ⟨.nullPattern rfl, clearUpTo_zero⟩

end Options

end Haystack
