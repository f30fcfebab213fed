import Haystack.Proofs.Options.Settings

/-!
# The texts that options are read from

Options are read from an object whose members have the names of different fields, or from a list of at
most as many elements as there are fields, and in both of them each value has to fit its field
(`Describes`). This file shows that **exactly these texts are read**, whatever value a text spells and
however it spells it, and that the options then hold what was given, a field that is `null` or left out
being absent (`decode_eq_ok_iff_describes`).

The reader goes from the left and decides on names, repetitions and values as it meets them, and one that
it refuses ends it. Each step is therefore taken together with what has to be true for it to go on
(`members_member_eq_ok_iff`, `items_element_eq_ok_iff`), and what is left when all steps were taken is that
different fields were set (`Sets`). As nothing in this depends on an order, the members of an object can be
put in any, and a list is the same as an object with its values.
-/

namespace Haystack

namespace Options

open Json (Token Value Piece Text Elements Member Members string?)
open Json.Token (EndsNumeral)

variable {o acc acc' : Options} {f : Field} {v : Value} {seen fields : List Field}
  {settings : List (Field × Value)} {s rest : List Char} {ts : List Token}

/-! ### What texts say -/

/-- **The values that describe options**: an object whose members have the names of fields, different
ones, or a list of no more elements than there are fields, and in both of them values that fit. -/
def Describes : Value → Prop
  | .object ms => (∀ m ∈ ms, ∃ f : Field, string? m.1 = some f.name ∧ Fits m.2 f)
      ∧ (ms.map fun m => string? m.1).Nodup
  | .list vs => vs.length ≤ Field.all.length ∧ ∀ e ∈ Field.all.zip vs, Fits e.2 e.1
  | _ => False

/-- The names and the values in a text. The elements of a list go by the names of the fields in their
order. -/
def entries : Value → List (Option String × Value)
  | .object ms => ms.map fun m => (string? m.1, m.2)
  | .list vs => (Field.all.zip vs).map fun e => (some e.1.name, e.2)
  | _ => []

/-- The value that is given for a field, which is `null` if none is. -/
def Gives (v : Value) (f : Field) (w : Value) : Prop :=
  (some f.name, w) ∈ entries v ∨ w = .null ∧ ∀ w', (some f.name, w') ∉ entries v

/-! ### Reading members -/

/-- A field is found by its own name only. -/
theorem ofName?_eq_some_iff {w : String} : Field.ofName? w = some f ↔ w = f.name := by
  constructor
  · intro h
    have hname := List.find?_some h
    exact (eq_of_beq hname).symm
  · rintro rfl
    exact Field.ofName?_name f

/-- Different fields have different names. -/
theorem Field.name_injective : Function.Injective Field.name := by
  intro f g h
  have hname := Field.ofName?_name g
  rwa [← h, Field.ofName?_name, Option.some_inj] at hname

/-- A member that is read has the name of a field that was not there before, and a value that fits. -/
theorem exists_of_members_eq_ok {w : String} {t : Token} {r : Options × List Token}
    (h : members seen acc (.string w :: .colon :: t :: ts) = .ok r) :
    ∃ f acc', w = f.name ∧ f ∉ seen ∧ set acc f t = .ok acc' := by
  rw [members] at h
  split at h
  · cases h
  · next f hf =>
    split at h
    · cases h
    · next hseen =>
      dsimp only at h
      split at h
      · cases h
      · -- a known name, not seen before, and a value that could be set: all else ended the reading
        next acc' hset => exact ⟨f, acc', ofName?_eq_some_iff.1 hf, hseen, hset⟩

/-- **A member at the front is read if it can be set**, and reading goes on behind its value. That the
value can be set makes it a single token, so that what follows is the text behind the member. -/
theorem members_member_eq_ok_iff {m : List Piece × Value} {r : Options × List Token}
    (h : Member m s) (hrest : EndsNumeral rest) :
    members seen acc (Token.ofText (s ++ rest)) = .ok r
      ↔ ∃ f acc', string? m.1 = some f.name ∧ f ∉ seen ∧ set acc f m.2.token = .ok acc'
        ∧ members seen acc (.string f.name :: .colon :: m.2.token :: Token.ofText rest) = .ok r := by
  constructor
  · intro hread
    cases hw : string? m.1 with
    | none =>
      -- a name that is no string ends the tokens
      rw [h.ofText_eq_malformed rest hw] at hread
      cases hread
    | some w =>
      obtain ⟨ts, hts, hatom⟩ := h.exists_ofText_eq hrest hw
      rw [hts] at hread
      obtain ⟨f, acc', rfl, hseen, hset⟩ := exists_of_members_eq_ok hread
      -- a value that was set is over with its token
      rw [hatom (set_token_eq_ok_iff.1 hset).1.isAtom] at hread
      exact ⟨f, acc', rfl, hseen, hset, hread⟩
  · rintro ⟨f, acc', hw, hseen, hset, hread⟩
    obtain ⟨ts, hts, hatom⟩ := h.exists_ofText_eq hrest hw
    rw [hts, hatom (set_token_eq_ok_iff.1 hset).1.isAtom]
    exact hread

/-- The members of an object set fields. -/
def Names (ms : List (List Piece × Value)) (settings : List (Field × Value)) : Prop :=
  (ms.map fun m => (string? m.1, m.2)) = settings.map fun e => (some e.1.name, e.2)

/-- The first member sets a field, which is the first one that is set. -/
theorem names_cons_iff {m : List Piece × Value} {ms : List (List Piece × Value)} :
    Names (m :: ms) settings ↔ ∃ f settings', settings = (f, m.2) :: settings'
      ∧ string? m.1 = some f.name ∧ Names ms settings' := by
  unfold Names
  cases settings with
  | nil => exact ⟨nofun, fun ⟨_, _, h, _⟩ => nomatch h⟩
  | cons e settings =>
    simp only [List.map_cons, List.cons.injEq, Prod.mk.injEq]
    constructor
    · rintro ⟨⟨hname, hvalue⟩, hrest⟩
      exact ⟨e.1, settings, ⟨by rw [hvalue], rfl⟩, hname, hrest⟩
    · rintro ⟨f, _, ⟨rfl, rfl⟩, hname, hrest⟩
      exact ⟨⟨hname, rfl⟩, hrest⟩

/-- Members set fields that are different and were not there before. -/
def SetsFresh (ms : List (List Piece × Value)) (seen : List Field) (acc o : Options) : Prop :=
  ∃ settings, Names ms settings ∧ (settings.map Prod.fst).Nodup
    ∧ (∀ f ∈ settings.map Prod.fst, f ∉ seen) ∧ settle acc settings = .ok o

/-- Without members nothing is set. -/
theorem setsFresh_nil_iff : SetsFresh [] seen acc o ↔ acc = o := by
  constructor
  · rintro ⟨settings, hnames, -, -, hsettle⟩
    obtain rfl : settings = [] := List.map_eq_nil_iff.1 hnames.symm
    exact Except.ok.inj hsettle
  · rintro rfl
    exact ⟨[], rfl, List.nodup_nil, nofun, rfl⟩

/-- The first member sets a field, and the others set fresh ones with this one seen. -/
theorem setsFresh_cons_iff {m : List Piece × Value} {ms : List (List Piece × Value)} :
    SetsFresh (m :: ms) seen acc o ↔ ∃ f acc', string? m.1 = some f.name ∧ f ∉ seen
      ∧ set acc f m.2.token = .ok acc' ∧ SetsFresh ms (f :: seen) acc' o := by
  constructor
  · rintro ⟨settings, hnames, hnodup, hseen, hsettle⟩
    obtain ⟨f, settings, rfl, hname, hnames⟩ := names_cons_iff.1 hnames
    obtain ⟨acc', hset, hsettle⟩ := settle_cons_eq_ok_iff.1 hsettle
    obtain ⟨hfirst, hseen⟩ := List.forall_mem_cons.1 hseen
    obtain ⟨hne, hnodup⟩ := List.nodup_cons.1 hnodup
    -- the fields behind are different from the first one, which counts as seen from here on
    refine ⟨f, acc', hname, hfirst, hset, settings, hnames, hnodup, fun g hg hin => ?_, hsettle⟩
    rcases List.mem_cons.1 hin with rfl | hin
    · exact hne hg
    · exact hseen g hg hin
  · rintro ⟨f, acc', hname, hfirst, hset, settings, hnames, hnodup, hseen, hsettle⟩
    -- the other way round, that the first one was seen makes all of them different
    refine ⟨(f, m.2) :: settings, names_cons_iff.2 ⟨f, settings, rfl, hname, hnames⟩,
      List.nodup_cons.2 ⟨fun hf => hseen f hf List.mem_cons_self, hnodup⟩,
      List.forall_mem_cons.2 ⟨hfirst, fun g hg hin => ?_⟩,
      settle_cons_eq_ok_iff.2 ⟨acc', hset, hsettle⟩⟩
    exact hseen g hg (List.mem_cons_of_mem f hin)

/-- **Members are read if they set fresh fields.** -/
theorem members_eq_ok_iff {ms : List (List Piece × Value)} (h : Members ms s) :
    members seen acc (Token.ofText (s ++ '\x7d' :: rest)) = .ok (o, ts)
      ↔ ts = Token.ofText rest ∧ SetsFresh ms seen acc o := by
  -- induction on the members, each of which is read before a comma or before the end of the object
  induction ms generalizing s seen acc with
  | nil => cases h
  | cons m ms ih =>
    rw [setsFresh_cons_iff]
    cases h with
    | last h =>
      rw [members_member_eq_ok_iff h (Json.Token.endsNumeral_endObject _), Token.ofText_endObject]
      constructor
      · rintro ⟨f, acc', hname, hseen, hset, hread⟩
        rw [members_endObject hseen hset] at hread
        cases hread
        exact ⟨rfl, f, o, hname, hseen, hset, setsFresh_nil_iff.2 rfl⟩
      · rintro ⟨rfl, f, acc', hname, hseen, hset, hnil⟩
        obtain rfl := setsFresh_nil_iff.1 hnil
        exact ⟨f, acc', hname, hseen, hset, members_endObject hseen hset⟩
    | more h ht =>
      rw [List.append_assoc, List.cons_append,
        members_member_eq_ok_iff h (Json.Token.endsNumeral_comma _), Token.ofText_comma]
      constructor
      · rintro ⟨f, acc', hname, hseen, hset, hread⟩
        rw [members_comma hseen hset, ih ht] at hread
        exact ⟨hread.1, f, acc', hname, hseen, hset, hread.2⟩
      · rintro ⟨hts, f, acc', hname, hseen, hset, hrest⟩
        exact ⟨f, acc', hname, hseen, hset,
          (members_comma hseen hset).trans ((ih ht).2 ⟨hts, hrest⟩)⟩

/-! ### Reading elements -/

/-- An element that can be set is taken, and behind a comma the next field has its turn. -/
theorem items_comma {t : Token} (hset : set acc f t = .ok acc') :
    items acc (f :: fields) (t :: .comma :: ts) = items acc' fields ts := by
  rw [items, hset]

/-- The last element is taken, and the list is over. -/
theorem items_endList {t : Token} (hset : set acc f t = .ok acc') :
    items acc (f :: fields) (t :: .endList :: ts) = .ok (acc', ts) := by
  rw [items, hset]

/-- An element that is read can be set. -/
theorem exists_of_items_eq_ok {t : Token} {r : Options × List Token}
    (h : items acc (f :: fields) (t :: ts) = .ok r) : ∃ acc', set acc f t = .ok acc' := by
  rw [items] at h
  split at h
  · cases h
  · next acc' hset => exact ⟨acc', hset⟩

/-- **An element at the front is read if the field can be set to it**, and reading goes on behind it. -/
theorem items_element_eq_ok_iff {r : Options × List Token} (h : Json.Element v s)
    (hrest : EndsNumeral rest) :
    items acc (f :: fields) (Token.ofText (s ++ rest)) = .ok r
      ↔ ∃ acc', set acc f v.token = .ok acc'
        ∧ items acc (f :: fields) (v.token :: Token.ofText rest) = .ok r := by
  obtain ⟨ts, hts, hatom⟩ := h.exists_ofText_eq hrest
  rw [hts]
  constructor
  · intro hread
    obtain ⟨acc', hset⟩ := exists_of_items_eq_ok hread
    -- as with members, what was set is over with its token
    rw [hatom (set_token_eq_ok_iff.1 hset).1.isAtom] at hread
    exact ⟨acc', hset, hread⟩
  · rintro ⟨acc', hset, hread⟩
    rw [hatom (set_token_eq_ok_iff.1 hset).1.isAtom]
    exact hread

/-- **Elements are read if there are not too many and the fields can be set to them.** -/
theorem items_eq_ok_iff {vs : List Value} (h : Elements vs s) :
    items acc fields (Token.ofText (s ++ ']' :: rest)) = .ok (o, ts)
      ↔ ts = Token.ofText rest ∧ vs.length ≤ fields.length
        ∧ settle acc (fields.zip vs) = .ok o := by
  induction vs generalizing s acc fields with
  | nil => cases h
  | cons v vs ih =>
    cases fields with
    | nil =>
      -- an element is left, but no field for it
      have hnone : ∀ ts, items acc [] ts = .error .malformed := fun _ => rfl
      rw [hnone]
      exact ⟨nofun, fun h => absurd h.2.1 (Nat.not_succ_le_zero _)⟩
    | cons f fields =>
      rw [List.zip_cons_cons, settle_cons_eq_ok_iff, List.length_cons, List.length_cons,
        Nat.succ_le_succ_iff]
      cases h with
      | last h =>
        -- the last element, at which any number of fields may be left
        rw [items_element_eq_ok_iff h (Json.Token.endsNumeral_endList _), Token.ofText_endList,
          List.zip_nil_right]
        constructor
        · rintro ⟨acc', hset, hread⟩
          rw [items_endList hset] at hread
          cases hread
          exact ⟨rfl, Nat.zero_le _, o, hset, rfl⟩
        · rintro ⟨rfl, -, acc', hset, ⟨⟩⟩
          exact ⟨o, hset, items_endList hset⟩
      | more h ht =>
        rw [List.append_assoc, List.cons_append,
          items_element_eq_ok_iff h (Json.Token.endsNumeral_comma _), Token.ofText_comma]
        constructor
        · rintro ⟨acc', hset, hread⟩
          obtain ⟨hts, hlength, hsettle⟩ := (ih ht).1 ((items_comma hset).symm.trans hread)
          exact ⟨hts, hlength, acc', hset, hsettle⟩
        · rintro ⟨hts, hlength, acc', hset, hsettle⟩
          exact ⟨acc', hset, (items_comma hset).trans ((ih ht).2 ⟨hts, hlength, hsettle⟩)⟩

/-! ### Reading a text -/

/-- **The fields that a text sets**, and the values. -/
def Sets : Value → List (Field × Value) → Prop
  | .object ms, settings => Names ms settings
  | .list vs, settings => vs.length ≤ Field.all.length ∧ settings = Field.all.zip vs
  | _, _ => False

/-- An object with members does not end where it begins. -/
theorem value_beginObject {ms : List (List Piece × Value)} (h : Members ms s) (rest : List Char) :
    value (.beginObject :: Token.ofText (s ++ rest))
      = members [] empty (Token.ofText (s ++ rest)) := by
  -- the next token is that of a name
  obtain ⟨ps, hhead⟩ : ∃ ps, (Token.ofText (s ++ rest)).head? = some (Json.stringToken ps) := by
    cases h with
    | last h => exact ⟨_, h.head?_ofText rest⟩
    | more h _ => rw [List.append_assoc]; exact ⟨_, h.head?_ofText _⟩
  rw [value]
  intro ts hts
  rw [hts, List.head?_cons, Json.stringToken] at hhead
  split at hhead <;> cases hhead

/-- A list with elements does not end where it begins. -/
theorem value_beginList {vs : List Value} (h : Elements vs s) (hrest : EndsNumeral rest) :
    value (.beginList :: Token.ofText (s ++ rest))
      = items empty Field.all (Token.ofText (s ++ rest)) := by
  -- the next token is that of a value, and no value has the token of the end of a list
  obtain ⟨v, ts, hts⟩ : ∃ v ts, Token.ofText (s ++ rest) = Value.token v :: ts := by
    cases h with
    | last h =>
      obtain ⟨ts, hts, -⟩ := h.exists_ofText_eq hrest
      exact ⟨_, ts, hts⟩
    | more h _ =>
      rw [List.append_assoc, List.cons_append]
      obtain ⟨ts, hts, -⟩ := h.exists_ofText_eq (Json.Token.endsNumeral_comma _)
      exact ⟨_, ts, hts⟩
  rw [hts, value]
  intro ts' htoken
  have hend : v.token = .endList := List.head_eq_of_cons_eq htoken
  cases v with
  | string ps =>
    rw [Value.token, Json.stringToken] at hend
    split at hend <;> cases hend
  | _ => cases hend

/-- Nothing but a list or an object is read. -/
theorem value_token_ne_ok {r : Options × List Token} (hlist : ∀ vs, v ≠ .list vs)
    (hobject : ∀ ms, v ≠ .object ms) : value (v.token :: ts) ≠ .ok r := by
  -- any other token is a mismatch, or ends the reading if it is that of no string
  have hmismatch : value (v.token :: ts) = mismatch v.token .options := by
    cases v with
    | list vs => exact absurd rfl (hlist vs)
    | object ms => exact absurd rfl (hobject ms)
    | string ps =>
      rw [Value.token, Json.stringToken]
      cases string? ps <;> rfl
    | null | bool | number => rfl
  rw [hmismatch]
  exact mismatch_ne_ok _ _ _

/-- Nothing but a list or an object sets fields. -/
theorem not_sets (hlist : ∀ vs, v ≠ .list vs) (hobject : ∀ ms, v ≠ .object ms) :
    ¬Sets v settings := by
  cases v with
  | list vs => exact absurd rfl (hlist vs)
  | object ms => exact absurd rfl (hobject ms)
  | null | bool | number | string => exact id

/-- A list has no more than one element for a field. -/
theorem nodup_zip (vs : List Value) : ((Field.all.zip vs).map Prod.fst).Nodup := by
  -- the fields that are set are the first ones of all, in their order
  have hsublist (fields : List Field) (vs : List Value) :
      List.Sublist ((fields.zip vs).map Prod.fst) fields := by
    induction fields generalizing vs with
    | nil => exact List.Sublist.refl []
    | cons f fields ih =>
      cases vs with
      | nil => exact List.nil_sublist _
      | cons v vs => exact (ih vs).cons_cons f
  have hall : Field.all.Nodup := by decide
  exact (hsublist Field.all vs).nodup hall

/-- A value that is neither a list nor an object is not read, and sets nothing. -/
theorem value_scalar_eq_ok_iff (h : Text v s) (hrest : EndsNumeral rest) (hlist : ∀ vs, v ≠ .list vs)
    (hobject : ∀ ms, v ≠ .object ms) :
    value (Token.ofText (s ++ rest)) = .ok (o, ts) ↔ ts = Token.ofText rest
      ∧ ∃ settings, Sets v settings ∧ (settings.map Prod.fst).Nodup
        ∧ settle empty settings = .ok o := by
  obtain ⟨ts', hts, -⟩ := h.exists_ofText_eq hrest
  rw [hts]
  exact iff_of_false (value_token_ne_ok hlist hobject)
    fun ⟨_, _, hsets, _⟩ => not_sets hlist hobject hsets

/-- Where nothing is set all fields are absent. -/
theorem ok_empty_iff {behind : List Token} (hnothing : ∀ settings, Sets v settings ↔ settings = []) :
    (.ok (empty, behind) : Except DecodeError (Options × List Token)) = .ok (o, ts) ↔ ts = behind
      ∧ ∃ settings, Sets v settings ∧ (settings.map Prod.fst).Nodup
        ∧ settle empty settings = .ok o := by
  constructor
  · rintro ⟨⟩
    exact ⟨rfl, [], (hnothing []).2 rfl, List.nodup_nil, rfl⟩
  · rintro ⟨rfl, settings, hsets, -, hsettle⟩
    obtain rfl := (hnothing settings).1 hsets
    cases hsettle
    rfl

/-- **A value is read if it sets different fields to values that fit.** -/
theorem value_eq_ok_iff (h : Text v s) (hrest : EndsNumeral rest) :
    value (Token.ofText (s ++ rest)) = .ok (o, ts) ↔ ts = Token.ofText rest
      ∧ ∃ settings, Sets v settings ∧ (settings.map Prod.fst).Nodup
        ∧ settle empty settings = .ok o := by
  cases h with
  | null => exact value_scalar_eq_ok_iff .null hrest nofun nofun
  | true => exact value_scalar_eq_ok_iff .true hrest nofun nofun
  | false => exact value_scalar_eq_ok_iff .false hrest nofun nofun
  | number h => exact value_scalar_eq_ok_iff (.number h) hrest nofun nofun
  | string ps => exact value_scalar_eq_ok_iff (.string ps) hrest nofun nofun
  | emptyList hb =>
    have hvalue : value (.beginList :: .endList :: Token.ofText rest)
        = .ok (empty, Token.ofText rest) := rfl
    rw [List.cons_append, List.append_assoc, Token.ofText_beginList, Json.Token.ofText_blanks hb,
      List.singleton_append, Token.ofText_endList, hvalue]
    -- no element, and so no field
    exact ok_empty_iff fun settings => and_iff_right (Nat.zero_le _)
  | list h =>
    rw [List.cons_append, List.append_assoc, List.singleton_append, Token.ofText_beginList,
      value_beginList h (Json.Token.endsNumeral_endList _), items_eq_ok_iff h]
    constructor
    · rintro ⟨hts, hlength, hsettle⟩
      exact ⟨hts, _, ⟨hlength, rfl⟩, nodup_zip _, hsettle⟩
    · rintro ⟨hts, _, ⟨hlength, rfl⟩, -, hsettle⟩
      exact ⟨hts, hlength, hsettle⟩
  | emptyObject hb =>
    have hvalue : value (.beginObject :: .endObject :: Token.ofText rest)
        = .ok (empty, Token.ofText rest) := rfl
    rw [List.cons_append, List.append_assoc, Token.ofText_beginObject, Json.Token.ofText_blanks hb,
      List.singleton_append, Token.ofText_endObject, hvalue]
    -- no member, and so no field
    exact ok_empty_iff fun settings => eq_comm.trans List.map_eq_nil_iff
  | object h =>
    rw [List.cons_append, List.append_assoc, List.singleton_append, Token.ofText_beginObject,
      value_beginObject h, members_eq_ok_iff h]
    constructor
    · rintro ⟨hts, settings, hnames, hnodup, -, hsettle⟩
      exact ⟨hts, settings, hnames, hnodup, hsettle⟩
    · rintro ⟨hts, settings, hnames, hnodup, hsettle⟩
      -- nothing was there before
      exact ⟨hts, settings, hnames, hnodup, fun _ _ => List.not_mem_nil, hsettle⟩

/-- Nothing may be left behind the value of a text. -/
theorem ofTokens_eq_ok_iff : ofTokens ts = .ok o ↔ value ts = .ok (o, []) := by
  unfold ofTokens
  constructor
  · intro h
    split at h
    · cases h
    · next hvalue =>
      cases h
      exact hvalue
    · cases h
  · intro h
    rw [h]

/-- **A text is read if it sets different fields to values that fit.** -/
theorem decode_eq_ok_iff_settle (h : Json.Element v s) :
    decode (String.ofList s) = .ok o
      ↔ ∃ settings, Sets v settings ∧ (settings.map Prod.fst).Nodup
        ∧ settle empty settings = .ok o := by
  obtain ⟨hb, h, hb'⟩ := h
  -- what is left behind the value are blanks, and no tokens
  have hafter := Json.Token.ofText_blanks hb' []
  have hrest := Json.Token.endsNumeral_blanks hb' Json.Token.endsNumeral_nil
  rw [List.append_nil] at hafter hrest
  rw [decode, String.toList_ofList, Json.Token.ofText_blanks hb, ofTokens_eq_ok_iff,
    value_eq_ok_iff h hrest, hafter, Json.Token.ofText_nil]
  exact and_iff_right rfl

/-! ### What is given for a field -/

/-- Members have different names if they set different fields. -/
theorem Names.nodup_iff {ms : List (List Piece × Value)} (h : Names ms settings) :
    (ms.map fun m => string? m.1).Nodup ↔ (settings.map Prod.fst).Nodup := by
  have hkeys : (ms.map fun m => string? m.1)
      = (settings.map Prod.fst).map fun f => some f.name := by
    have hfst := congrArg (List.map Prod.fst) h
    rw [List.map_map, List.map_map] at hfst
    rw [List.map_map]
    exact hfst
  rw [hkeys]
  exact List.nodup_map_iff ((Option.some_injective _).comp Field.name_injective)

/-- Members whose values fit can be set. -/
theorem exists_names_iff {ms : List (List Piece × Value)} :
    (∃ settings, Names ms settings ∧ ∀ e ∈ settings, Fits e.2 e.1)
      ↔ ∀ m ∈ ms, ∃ f : Field, string? m.1 = some f.name ∧ Fits m.2 f := by
  induction ms with
  | nil => exact ⟨fun _ => nofun, fun _ => ⟨[], rfl, nofun⟩⟩
  | cons m ms ih =>
    rw [List.forall_mem_cons, ← ih]
    constructor
    · rintro ⟨_, hnames, hfits⟩
      obtain ⟨f, settings, rfl, hname, hnames⟩ := names_cons_iff.1 hnames
      obtain ⟨hfit, hfits⟩ := List.forall_mem_cons.1 hfits
      exact ⟨⟨f, hname, hfit⟩, settings, hnames, hfits⟩
    · rintro ⟨⟨f, hname, hfit⟩, settings, hnames, hfits⟩
      exact ⟨(f, m.2) :: settings, names_cons_iff.2 ⟨f, settings, rfl, hname, hnames⟩,
        List.forall_mem_cons.2 ⟨hfit, hfits⟩⟩

/-- **A value describes options if it sets different fields to values that fit.** -/
theorem describes_iff : Describes v ↔ ∃ settings, Sets v settings ∧ (settings.map Prod.fst).Nodup
    ∧ ∀ e ∈ settings, Fits e.2 e.1 := by
  cases v with
  | object ms =>
    constructor
    · rintro ⟨hknown, hdistinct⟩
      obtain ⟨settings, hnames, hfits⟩ := exists_names_iff.2 hknown
      exact ⟨settings, hnames, hnames.nodup_iff.1 hdistinct, hfits⟩
    · rintro ⟨settings, hnames, hnodup, hfits⟩
      exact ⟨exists_names_iff.1 ⟨settings, hnames, hfits⟩, hnames.nodup_iff.2 hnodup⟩
  | list vs =>
    constructor
    · rintro ⟨hlength, hfits⟩
      exact ⟨_, ⟨hlength, rfl⟩, nodup_zip vs, hfits⟩
    · rintro ⟨_, ⟨hlength, rfl⟩, -, hfits⟩
      exact ⟨hlength, hfits⟩
  | null | bool | number | string => exact ⟨nofun, fun ⟨_, h, _⟩ => nomatch h⟩

/-- What is set is what the text has under the names of the fields. -/
theorem Sets.entries_eq (h : Sets v settings) :
    entries v = settings.map fun e => (some e.1.name, e.2) := by
  cases v with
  | object ms => exact h
  | list vs => exact congrArg _ h.2.symm
  | null | bool | number | string => cases h

/-- Neither fields nor values are lost in going by names. -/
theorem setting_injective : Function.Injective fun e : Field × Value => (some e.1.name, e.2) := by
  rintro ⟨f, v⟩ ⟨g, w⟩ heq
  have hfield : f = g := Field.name_injective (Option.some.inj (congrArg Prod.fst heq))
  have hvalue : v = w := congrArg Prod.snd heq
  rw [hfield, hvalue]

/-- A value is given under the name of a field if the field is set to it. -/
theorem mem_entries_iff {w : Value} (h : Sets v settings) :
    (some f.name, w) ∈ entries v ↔ (f, w) ∈ settings := by
  rw [h.entries_eq]
  exact List.mem_map_of_injective setting_injective (a := (f, w))

/-- A field that is absent holds what `null` stands for. -/
theorem holds_null_iff : o.Holds .null f ↔ o.SameAt empty f := by
  have hindex {i : Option Int64} : HoldsIndex i .null ↔ i = none :=
    ⟨fun h => by cases h; rfl, fun h => h ▸ .null⟩
  have htolerance {x : Option Double} : HoldsTolerance x .null ↔ x = none :=
    ⟨fun h => by cases h; rfl, fun h => h ▸ .null⟩
  cases f with
  | start => exact hindex
  | stop => exact hindex
  | tolerance => exact htolerance

/-- **What fields are set to is what is given for them**, and what is not given is absent. -/
theorem Sets.holds_iff (h : Sets v settings) :
    ((∀ e ∈ settings, o.Holds e.2 e.1) ∧ ∀ g ∉ settings.map Prod.fst, o.SameAt empty g)
      ↔ ∀ f w, Gives v f w → o.Holds w f := by
  -- a field is not set where nothing is given under its name
  have hkey (g : Field) : g ∉ settings.map Prod.fst ↔ ∀ w, (some g.name, w) ∉ entries v := by
    simp only [mem_entries_iff h, List.mem_map, not_exists, not_and]
    exact ⟨fun hg w hw => hg _ hw rfl, fun hg e he heq => hg e.2 (heq ▸ he)⟩
  constructor
  · rintro ⟨hset, habsent⟩ f w (hgiven | ⟨rfl, hnone⟩)
    · exact hset _ ((mem_entries_iff h).1 hgiven)
    · exact holds_null_iff.2 (habsent f ((hkey f).2 hnone))
  · intro hgives
    refine ⟨fun e he => hgives e.1 e.2 (.inl ((mem_entries_iff h).2 he)), fun g hg => ?_⟩
    exact holds_null_iff.1 (hgives g .null (.inr ⟨rfl, (hkey g).1 hg⟩))

/-- **The texts that are read are those of values that describe options.** -/
theorem exists_decode_eq_ok_iff (h : Json.Element v s) :
    (∃ o, decode (String.ofList s) = .ok o) ↔ Describes v := by
  rw [describes_iff]
  constructor
  · rintro ⟨o, hread⟩
    obtain ⟨settings, hsets, hnodup, hsettle⟩ := (decode_eq_ok_iff_settle h).1 hread
    exact ⟨settings, hsets, hnodup, (exists_settle_iff empty settings).1 ⟨o, hsettle⟩⟩
  · rintro ⟨settings, hsets, hnodup, hfits⟩
    obtain ⟨o, hsettle⟩ := (exists_settle_iff empty settings).2 hfits
    exact ⟨o, (decode_eq_ok_iff_settle h).2 ⟨settings, hsets, hnodup, hsettle⟩⟩

/-- **What is read are the options that hold what was given.** -/
theorem decode_eq_ok_iff_holds (h : Json.Element v s) : decode (String.ofList s) = .ok o
    ↔ Describes v ∧ ∀ f w, Gives v f w → o.Holds w f := by
  rw [decode_eq_ok_iff_settle h, describes_iff]
  constructor
  · rintro ⟨settings, hsets, hnodup, hsettle⟩
    exact ⟨⟨settings, hsets, hnodup, (exists_settle_iff empty settings).1 ⟨o, hsettle⟩⟩,
      hsets.holds_iff.1 ((settle_eq_ok_iff hnodup).1 hsettle)⟩
  · rintro ⟨⟨settings, hsets, hnodup, -⟩, hgives⟩
    exact ⟨settings, hsets, hnodup, (settle_eq_ok_iff hnodup).2 (hsets.holds_iff.2 hgives)⟩

/-- Members in another order say the same. -/
theorem decode_object_perm {ms ms' : List (List Piece × Value)} {s' : List Char}
    (hperm : ms'.Perm ms) (h : Json.Element (.object ms) s) (h' : Json.Element (.object ms') s') :
    decode (String.ofList s') = .ok o ↔ decode (String.ofList s) = .ok o := by
  -- neither what describes options nor what is given for a field depends on an order
  have hdescribes : Describes (.object ms') ↔ Describes (.object ms) :=
    and_congr (forall_congr' fun m => imp_congr_left hperm.mem_iff) (hperm.map _).nodup_iff
  have hentries (e : Option String × Value) : e ∈ entries (.object ms') ↔ e ∈ entries (.object ms) :=
    (hperm.map _).mem_iff
  rw [decode_eq_ok_iff_holds h, decode_eq_ok_iff_holds h', hdescribes]
  simp only [Gives, hentries]

/-- An object with the values of a list under the names of the fields says the same as the list. -/
theorem decode_object_eq_list {ms : List (List Piece × Value)} {vs : List Value} {s' : List Char}
    (hlength : vs.length ≤ Field.all.length) (hentries : entries (.object ms) = entries (.list vs))
    (h : Json.Element (.list vs) s) (h' : Json.Element (.object ms) s') :
    decode (String.ofList s') = .ok o ↔ decode (String.ofList s) = .ok o := by
  -- under the names of the fields both set the same fields to the same values
  have hsets (settings : List (Field × Value)) :
      Sets (.object ms) settings ↔ Sets (.list vs) settings := by
    constructor
    · intro hnames
      exact ⟨hlength, (List.map_injective_iff.2 setting_injective (hentries.symm.trans hnames)).symm⟩
    · rintro ⟨-, rfl⟩
      exact hentries
  rw [decode_eq_ok_iff_settle h, decode_eq_ok_iff_settle h']
  simp only [hsets]

/-- **Options are read from the texts of values that describe them, and from no others.** What is read
holds in each field what was given for it, whatever the order of the members, and the elements of a list
are the same as members with the names of the fields. -/
theorem decode_eq_ok_iff_describes {v : Value} {s : List Char} (h : Json.Element v s) :
    ((∃ o, decode (String.ofList s) = .ok o) ↔ Describes v)
      ∧ (∀ o, decode (String.ofList s) = .ok o ↔ Describes v ∧ ∀ f w, Gives v f w → o.Holds w f)
      ∧ (∀ ms ms' s', v = .object ms → ms'.Perm ms → Json.Element (.object ms') s' →
        ∀ o, decode (String.ofList s') = .ok o ↔ decode (String.ofList s) = .ok o)
      ∧ (∀ vs ms s', v = .list vs → vs.length ≤ Field.all.length →
        entries (.object ms) = entries (.list vs) → Json.Element (.object ms) s' →
        ∀ o, decode (String.ofList s') = .ok o ↔ decode (String.ofList s) = .ok o) := by
  refine ⟨exists_decode_eq_ok_iff h, fun o => decode_eq_ok_iff_holds h, ?_, ?_⟩
  · rintro ms ms' s' rfl hperm h' o
    exact decode_object_perm hperm h h'
  · rintro vs ms s' rfl hlength hentries h' o
    exact decode_object_eq_list hlength hentries h h'

/-- The pieces of a string without escapes. -/
def plainPieces (w : List Char) (h : Json.Token.Plain w) : List Piece :=
  w.pmap Piece.plain h

/-- A text with blanks, with an escape in a name and with an exponent. -/
def escapedText : List Char :=
  " \x7b\"end_i\\u006Edex\" : -5,\"tolerance\":25E-1\x7d\n".toList

/-- The code unit that `escapedText` has by its number. -/
def escapedUnit : Json.CodeUnit where
  first := ⟨⟨0, by decide⟩, false⟩
  second := ⟨⟨0, by decide⟩, false⟩
  third := ⟨⟨6, by decide⟩, false⟩
  fourth := ⟨⟨14, by decide⟩, true⟩

/-- The bound in `escapedText`. -/
def escapedIndex : Numeral :=
  ⟨true, [⟨5, by decide⟩], [], none⟩

/-- The tolerance in `escapedText`. -/
def escapedTolerance : Numeral :=
  ⟨false, [⟨2, by decide⟩, ⟨5, by decide⟩], [], some (-1)⟩

/-- What `escapedText` spells. -/
def escapedValue : Value :=
  .object [(plainPieces ['e', 'n', 'd', '_', 'i'] (by decide) ++ .unit escapedUnit
      :: plainPieces ['d', 'e', 'x'] (by decide), .number escapedIndex),
    (plainPieces ['t', 'o', 'l', 'e', 'r', 'a', 'n', 'c', 'e'] (by decide),
      .number escapedTolerance)]

/-- What is read from it. -/
def escapedOptions : Options where
  start? := none
  stop? := some (-5)
  tolerance? := some (Binary.ofBits .double 0x4004000000000000)

/-- The text spells the value by the rules of the grammar, one rule for each of its parts. -/
theorem element_escapedText : Json.Element escapedValue escapedText := by
  have hblank : Json.Blanks [' '] := by decide
  have hnone : Json.Blanks [] := nofun
  have hindex : Text (.number escapedIndex) ['-', '5'] :=
    .number (.intro ⟨List.cons_ne_nil _ _, by decide⟩ .none)
  have hexponent : Json.Token.ExponentText (some (-1)) ['E', '-', '1'] :=
    .minus (.inr rfl) (List.cons_ne_nil Digit.one [])
  have htolerance : Text (.number escapedTolerance) ['2', '5', 'E', '-', '1'] :=
    .number (.intro ⟨List.cons_ne_nil _ _, by decide⟩ hexponent)
  -- two members, with the blanks that stand around their parts
  have helement : Json.Element escapedValue _ := .intro hblank (.object (.more
    (.intro hnone hblank (.intro hblank hindex hnone))
    (.last (.intro hnone hnone (.intro hnone htolerance hnone))))) (by decide : Json.Blanks ['\n'])
  exact helement

/-- The escape, the blanks and the exponent make no difference to what is read from `escapedText`. -/
theorem decode_eq_ok_iff_describes_escapedText :
    Json.Element escapedValue escapedText
      ∧ decode (String.ofList escapedText) = .ok escapedOptions
      ∧ Describes escapedValue ∧ ∀ f w, Gives escapedValue f w → escapedOptions.Holds w f := by
  have hread : decode (String.ofList escapedText) = .ok escapedOptions := by decide +kernel
  obtain ⟨-, hholds, -⟩ := decode_eq_ok_iff_describes element_escapedText
  exact ⟨element_escapedText, hread, (hholds escapedOptions).1 hread⟩

end Options

end Haystack
