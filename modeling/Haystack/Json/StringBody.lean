/-!
# The inside of a JSON string

What stands between the quotes of a JSON string, and the characters it stands for. Control characters
must be escaped. An escape by code unit names a character directly, or a high surrogate that a low
surrogate has to follow; a surrogate on its own is malformed. Every reader here gives what it read and
what is left, which is always shorter than what it was given.
-/

namespace Haystack.Json

/-- The value of a hexadecimal digit. -/
def hexDigit? (c : Char) : Option Nat :=
  if '0' ≤ c ∧ c ≤ '9' then some (c.toNat - '0'.toNat)
  else if 'a' ≤ c ∧ c ≤ 'f' then some (c.toNat - 'a'.toNat + 10)
  else if 'A' ≤ c ∧ c ≤ 'F' then some (c.toNat - 'A'.toNat + 10)
  else none

/-- Reads four hexadecimal digits. -/
def codeUnit? : List Char → Option (Nat × List Char)
  | a :: b :: c :: d :: rest =>
    match hexDigit? a, hexDigit? b, hexDigit? c, hexDigit? d with
    | some a, some b, some c, some d => some (((a * 16 + b) * 16 + c) * 16 + d, rest)
    | _, _, _, _ => none
  | _ => none

/-- Reads the low surrogate that has to follow a high one. -/
def lowSurrogate? : List Char → Option (Nat × List Char)
  | '\\' :: 'u' :: rest =>
    match codeUnit? rest with
    | some (low, rest) => if 0xDC00 ≤ low ∧ low ≤ 0xDFFF then some (low, rest) else none
    | none => none
  | _ => none

/-- Reads the character that an escape by code unit names, from behind the `u`. -/
def unicodeEscape? (s : List Char) : Option (Char × List Char) :=
  match codeUnit? s with
  | none => none
  | some (unit, rest) =>
    if 0xD800 ≤ unit ∧ unit ≤ 0xDBFF then
      match lowSurrogate? rest with
      | some (low, rest) =>
        some (Char.ofNat (0x10000 + (unit - 0xD800) * 0x400 + (low - 0xDC00)), rest)
      | none => none
    else if 0xDC00 ≤ unit ∧ unit ≤ 0xDFFF then none
    else some (Char.ofNat unit, rest)

/-- The character that a letter behind a backslash names. -/
def shortEscape? (c : Char) : Option Char :=
  if c = '"' ∨ c = '\\' ∨ c = '/' then some c
  else if c = 'b' then some '\x08'
  else if c = 'f' then some '\x0c'
  else if c = 'n' then some '\n'
  else if c = 'r' then some '\r'
  else if c = 't' then some '\t'
  else none

/-- Reads an escape, from behind the backslash. -/
def escape? : List Char → Option (Char × List Char)
  | [] => none
  | c :: rest => if c = 'u' then unicodeEscape? rest else (shortEscape? c).map (·, rest)

/-- Four digits are taken off the text. -/
theorem codeUnit?_length {s rest : List Char} {n : Nat} (h : codeUnit? s = some (n, rest)) :
    rest.length < s.length := by
  unfold codeUnit? at h
  split at h
  · split at h
    · simp only [Option.some.injEq, Prod.mk.injEq] at h
      rw [← h.2]
      simp only [List.length_cons]
      omega
    · simp at h
  · simp at h

/-- The second half of a pair takes a backslash, a letter and four digits. -/
theorem lowSurrogate?_length {s rest : List Char} {n : Nat} (h : lowSurrogate? s = some (n, rest)) :
    rest.length < s.length := by
  unfold lowSurrogate? at h
  split at h
  · split at h
    · rename_i hu
      split at h
      · simp only [Option.some.injEq, Prod.mk.injEq] at h
        have := codeUnit?_length hu
        rw [← h.2]
        simp only [List.length_cons]
        omega
      · simp at h
    · simp at h
  · simp at h

/-- An escape by number takes a code unit or two. -/
theorem unicodeEscape?_length {s rest : List Char} {c : Char}
    (h : unicodeEscape? s = some (c, rest)) : rest.length < s.length := by
  unfold unicodeEscape? at h
  split at h
  · simp at h
  · rename_i hu
    have := codeUnit?_length hu
    split at h
    · split at h
      · -- a pair: the second half begins where the first one has ended
        rename_i hl
        have := lowSurrogate?_length hl
        simp only [Option.some.injEq, Prod.mk.injEq] at h
        rw [← h.2]
        omega
      · simp at h
    · split at h
      · simp at h
      · simp only [Option.some.injEq, Prod.mk.injEq] at h
        rw [← h.2]
        exact this

/-- **Every escape takes something off the text**, which is why reading a string comes to an end. -/
theorem escape?_length {s rest : List Char} {c : Char} (h : escape? s = some (c, rest)) :
    rest.length < s.length := by
  match s with
  | [] => simp [escape?] at h
  | d :: tail =>
    simp only [escape?] at h
    split at h
    · exact Nat.lt_succ_of_lt (unicodeEscape?_length h)
    · obtain ⟨e, _, he⟩ := Option.map_eq_some_iff.1 h
      simp only [Prod.mk.injEq] at he
      simp [← he.2]

/-- **Reads the rest of a string**, up to and with the closing quote. -/
def stringBody? (s : List Char) : Option (List Char × List Char) :=
  match s with
  | [] => none
  | c :: rest =>
    if c = '"' then some ([], rest)
    else if c = '\\' then
      match _h : escape? rest with
      | some (d, rest) => (stringBody? rest).map fun r => (d :: r.1, r.2)
      | none => none
    else if c.toNat < 0x20 then none
    else (stringBody? rest).map fun r => (c :: r.1, r.2)
termination_by s.length
decreasing_by
  · have := escape?_length _h
    simp only [List.length_cons]
    omega
  · simp

/-- What is left behind the closing quote is shorter than what there was. -/
theorem stringBody?_length {s t rest : List Char} (h : stringBody? s = some (t, rest)) :
    rest.length < s.length := by
  fun_induction stringBody? s generalizing t with
  | case1 => simp at h
  | case2 c =>
    simp only [Option.some.injEq, Prod.mk.injEq] at h
    simp [h.2]
  | case3 tail d more he _ ih =>
    -- an escape: what it leaves is shorter, and the rest of the string is read from there
    obtain ⟨⟨u, v⟩, hu, hv⟩ := Option.map_eq_some_iff.1 h
    simp only [Prod.mk.injEq] at hv
    obtain ⟨_, rfl⟩ := hv
    have := ih hu
    have := escape?_length he
    simp only [List.length_cons]
    omega
  | case4 => simp at h
  | case5 => simp at h
  | case6 c tail _ _ _ ih =>
    -- a character that stands for itself
    obtain ⟨⟨u, v⟩, hu, hv⟩ := Option.map_eq_some_iff.1 h
    simp only [Prod.mk.injEq] at hv
    obtain ⟨_, rfl⟩ := hv
    have := ih hu
    simp only [List.length_cons]
    omega

end Haystack.Json
