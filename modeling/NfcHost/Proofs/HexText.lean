import NfcHost.Hex
import NfcHost.Proofs.Reading
import NfcHost.Proofs.Wire

/-!
# Hexadecimal text, written and read

What is written is read again, in whatever case its letters are set and wherever white space is put into it
(`parse_restyled`). The converse does not hold as one would wish. A text is read exactly if what is left of it without white
space falls into pairs that each spell a byte, and a plus sign in front of one digit spells a byte as well, so a text that is
read need not be hexadecimal (`parse_hexadecimal_false`). The plus sign is all there is to it: a text without one is read
exactly if it is the written form of the bytes in some case (`parse_accepts`).
-/

namespace NfcHost.Hex

/-! ## Texts and what they spell -/

/-- ASCII white space. -/
def IsBlank (c : Char) : Prop := c = ' ' ∨ c = '\t' ∨ c = '\n' ∨ c = '\x0c' ∨ c = '\r'

instance : DecidablePred IsBlank := fun _ => inferInstanceAs (Decidable (_ ∨ _))

/-- The hexadecimal digits, in either case. -/
def IsDigit (c : Char) : Prop := ('0' ≤ c ∧ c ≤ '9') ∨ ('a' ≤ c ∧ c ≤ 'f') ∨ ('A' ≤ c ∧ c ≤ 'F')

instance : DecidablePred IsDigit := fun _ => inferInstanceAs (Decidable (_ ∨ _))

/-- What is left of a text without white space. -/
def letters (text : String) : List Char := text.toList.filter fun c => !decide (IsBlank c)

/-- Two characters spell a byte: they are its digits in some case, or else a plus sign and the last digit of a byte whose
first one is zero. -/
def Spells (a b : Char) (value : UInt8) : Prop :=
  [a.toLower, b.toLower] = digits value ∨ a = '+' ∧ ['0', b.toLower] = digits value

/-- The characters spell the bytes pair by pair. -/
inductive Spelled : List Char → Bytes → Prop where
  | nil : Spelled [] []
  | cons {a b : Char} {value : UInt8} {rest : List Char} {bytes : Bytes} : Spells a b value → Spelled rest bytes →
    Spelled (a :: b :: rest) (value :: bytes)

/-! ## Digits -/

/-- What holds of each of the 256 bytes holds of any. -/
theorem forall_byte {P : UInt8 → Prop} (h : ∀ n < 256, P (UInt8.ofNat n)) (b : UInt8) : P b := by
  have hb := h b.toNat b.toNat_lt
  rwa [UInt8.ofNat_toNat] at hb

/-- What holds of each of the 128 characters of ASCII holds of any. -/
theorem forall_ascii {P : Char → Prop} (h : ∀ n < 128, P (Char.ofNat n)) {c : Char} (hc : c.toNat < 0x80) : P c := by
  have hchar := h c.toNat hc
  rwa [Char.ofNat_toNat] at hchar

/-- The digits to base sixteen are ASCII. -/
theorem toNat_digitChar_lt : ∀ d < 16, (Nat.digitChar d).toNat < 0x80 := by decide

/-- What is such a digit in some case is ASCII. -/
theorem ascii_of_toLower {c : Char} {d : Nat} (hd : d < 16) (h : c.toLower = Nat.digitChar d) : c.toNat < 0x80 := by
  unfold Char.toLower at h
  split at h
  · rename_i hupper
    exact Nat.lt_of_le_of_lt hupper.2 (by decide)
  · exact h ▸ toNat_digitChar_lt d hd

/-- A byte that is read as a digit is ASCII, and the value of a digit is less than sixteen. -/
theorem lt_of_digitValue? {b value : UInt8} (h : digitValue? b = some value) : b < 0x80 ∧ value.toNat < 16 :=
  forall_byte (P := fun b => ∀ value ∈ digitValue? b, b < 0x80 ∧ value.toNat < 16) (by decide +kernel) b value h

/-- A character of ASCII is read as the digit that it is in some case. -/
theorem digitValue?_eq_some_iff {c : Char} (hc : c.toNat < 0x80) {value : UInt8} :
    digitValue? (UInt8.ofNat c.toNat) = some value ↔ value.toNat < 16 ∧ c.toLower = Nat.digitChar value.toNat := by
  have hdigit : ∀ d < 16, digitValue? (UInt8.ofNat c.toNat) = some (UInt8.ofNat d) ↔ c.toLower = Nat.digitChar d :=
    forall_ascii (P := fun c => ∀ d < 16, digitValue? (UInt8.ofNat c.toNat) = some (UInt8.ofNat d) ↔
      c.toLower = Nat.digitChar d) (by decide +kernel) hc
  constructor
  · intro h
    have hvalue := (lt_of_digitValue? h).2
    rw [← UInt8.ofNat_toNat (x := value)] at h
    exact ⟨hvalue, (hdigit _ hvalue).1 h⟩
  · rintro ⟨hvalue, h⟩
    have hread := (hdigit _ hvalue).2 h
    rwa [UInt8.ofNat_toNat] at hread

/-- The hexadecimal digits are the characters that are a digit to base sixteen in some case. -/
theorem isDigit_of_toLower {c : Char} {d : Nat} (hd : d < 16) (h : c.toLower = Nat.digitChar d) : IsDigit c :=
  forall_ascii (P := fun c => ∀ d < 16, c.toLower = Nat.digitChar d → IsDigit c) (by decide +kernel)
    (ascii_of_toLower hd h) d hd h

/-! ## Pairs -/

theorem toNat_halves (value : UInt8) : value.toNat / 16 < 16 ∧ value.toNat % 16 < 16 := by
  have := value.toNat_lt
  omega

/-- A byte is its first digit times sixteen and its last one. -/
theorem eq_mul_add_iff {value high low : UInt8} (hhigh : high.toNat < 16) (hlow : low.toNat < 16) :
    high * 16 + low = value ↔ high.toNat = value.toNat / 16 ∧ low.toNat = value.toNat % 16 := by
  have hsum : (high * 16 + low).toNat = high.toNat * 16 + low.toNat := by
    rw [UInt8.toNat_add, UInt8.toNat_mul, show (16 : UInt8).toNat = 16 from rfl]
    omega
  rw [← UInt8.toNat_inj, hsum]
  omega

/-- The digits of a byte, one by one. -/
theorem pair_eq_digits_iff {a b : Char} {value : UInt8} :
    [a, b] = digits value ↔ a = Nat.digitChar (value.toNat / 16) ∧ b = Nat.digitChar (value.toNat % 16) := by
  simp [digits]

/-- Two digits are read as the byte whose digits they are in some case. -/
theorem digitsValue_eq_some_iff {a b : Char} (ha : a.toNat < 0x80) (hb : b.toNat < 0x80) {value : UInt8} :
    (do return (← digitValue? (UInt8.ofNat a.toNat)) * 16 + (← digitValue? (UInt8.ofNat b.toNat))) = some value ↔
      [a.toLower, b.toLower] = digits value := by
  obtain ⟨hdiv, hmod⟩ := toNat_halves value
  rw [pair_eq_digits_iff]
  constructor
  · intro h
    obtain ⟨high, hhigh, hrest⟩ := Option.bind_eq_some_iff.1 h
    obtain ⟨low, hlow, hsum⟩ := Option.bind_eq_some_iff.1 hrest
    obtain ⟨hhigh, ha⟩ := (digitValue?_eq_some_iff ha).1 hhigh
    obtain ⟨hlow, hb⟩ := (digitValue?_eq_some_iff hb).1 hlow
    obtain ⟨hfirst, hlast⟩ := (eq_mul_add_iff hhigh hlow).1 (Option.some.inj hsum)
    rw [← hfirst, ← hlast]
    exact ⟨ha, hb⟩
  · rintro ⟨hfirst, hlast⟩
    obtain ⟨high, hhigh⟩ : ∃ high : UInt8, high.toNat = value.toNat / 16 := ⟨_, Bytes.toNat_ofNat_le (by omega)⟩
    obtain ⟨low, hlow⟩ : ∃ low : UInt8, low.toNat = value.toNat % 16 := ⟨_, Bytes.toNat_ofNat_le (by omega)⟩
    have hsum := (eq_mul_add_iff (hhigh ▸ hdiv) (hlow ▸ hmod)).2 ⟨hhigh, hlow⟩
    rw [← hhigh] at hdiv hfirst
    rw [← hlow] at hmod hlast
    rw [(digitValue?_eq_some_iff ha).2 ⟨hdiv, hfirst⟩, (digitValue?_eq_some_iff hb).2 ⟨hmod, hlast⟩]
    exact congrArg some hsum

/-- A digit is read as the byte that it is the last digit of, behind a zero. -/
theorem digitValue?_eq_some_iff_digits {b : Char} (hb : b.toNat < 0x80) {value : UInt8} :
    digitValue? (UInt8.ofNat b.toNat) = some value ↔ ['0', b.toLower] = digits value := by
  have hzero : ∀ d < 16, '0' = Nat.digitChar d ↔ d = 0 := by decide
  rw [digitValue?_eq_some_iff hb, pair_eq_digits_iff, hzero _ (toNat_halves value).1]
  constructor
  · rintro ⟨hvalue, hdigit⟩
    rw [Nat.div_eq_of_lt hvalue, Nat.mod_eq_of_lt hvalue]
    exact ⟨rfl, hdigit⟩
  · rintro ⟨hfirst, hlast⟩
    have hvalue : value.toNat < 16 := by omega
    rw [Nat.mod_eq_of_lt hvalue] at hlast
    exact ⟨hvalue, hlast⟩

/-- The two characters of a pair that spells a byte are ASCII. -/
theorem Spells.ascii {a b : Char} {value : UInt8} (h : Spells a b value) : a.toNat < 0x80 ∧ b.toNat < 0x80 := by
  obtain ⟨hhigh, hlow⟩ := toNat_halves value
  obtain h | ⟨rfl, h⟩ := h
  · obtain ⟨ha, hb⟩ := pair_eq_digits_iff.1 h
    exact ⟨ascii_of_toLower hhigh ha, ascii_of_toLower hlow hb⟩
  · exact ⟨by decide, ascii_of_toLower hlow (pair_eq_digits_iff.1 h).2⟩

/-- A pair of ASCII characters is read as the byte that it spells. -/
theorem pairValue?_eq_some_iff {a b : Char} (ha : a.toNat < 0x80) (hb : b.toNat < 0x80) {value : UInt8} :
    pairValue? (UInt8.ofNat a.toNat) (UInt8.ofNat b.toNat) = some value ↔ Spells a b value := by
  have hplus : UInt8.ofNat a.toNat = 0x2B ↔ a = '+' :=
    forall_ascii (P := fun c => UInt8.ofNat c.toNat = 0x2B ↔ c = '+') (by decide +kernel) ha
  have hnone : ∀ d < 16, '+' ≠ Nat.digitChar d := by decide
  unfold pairValue? Spells
  split
  · rename_i hsign
    obtain rfl := hplus.1 hsign
    rw [digitValue?_eq_some_iff_digits hb]
    refine ⟨fun h => Or.inr ⟨rfl, h⟩, ?_⟩
    rintro (h | ⟨-, h⟩)
    · exact absurd (pair_eq_digits_iff.1 h).1 (hnone _ (toNat_halves value).1)
    · exact h
  · rename_i hsign
    rw [digitsValue_eq_some_iff ha hb]
    refine ⟨Or.inl, ?_⟩
    rintro (h | ⟨ha, -⟩)
    · exact h
    · exact absurd (hplus.2 ha) hsign

/-- A pair that is read is ASCII. -/
theorem ascii_of_pairValue? {a b value : UInt8} (h : pairValue? a b = some value) : a < 0x80 ∧ b < 0x80 := by
  unfold pairValue? at h
  split at h
  · rename_i hplus
    exact ⟨hplus ▸ by decide, (lt_of_digitValue? h).1⟩
  · obtain ⟨high, hhigh, hrest⟩ := Option.bind_eq_some_iff.1 h
    obtain ⟨low, hlow, -⟩ := Option.bind_eq_some_iff.1 hrest
    exact ⟨(lt_of_digitValue? hhigh).1, (lt_of_digitValue? hlow).1⟩

/-- A pair that is read has a text. -/
theorem pairText_of_ascii {a b : UInt8} (ha : a < 0x80) (hb : b < 0x80) : ∃ text, pairText a b = .ok text := by
  unfold pairText
  rw [if_pos ha, if_pos hb]
  exact ⟨_, rfl⟩

/-- Pairs are read one after the other. -/
theorem parsePairs_cons_eq_ok_iff {a b : UInt8} {rest bytes : Bytes} :
    parsePairs (a :: b :: rest) = .ok bytes ↔
      ∃ value more, pairValue? a b = some value ∧ parsePairs rest = .ok more ∧ bytes = value :: more := by
  constructor
  · intro h
    obtain ⟨text, -, hread⟩ := ok_of_bind h
    split at hread
    · rename_i value hvalue
      obtain ⟨more, hmore, hbytes⟩ := ok_of_bind hread
      exact ⟨value, more, hvalue, hmore, (Except.ok.inj hbytes).symm⟩
    · nomatch hread
  · rintro ⟨value, more, hvalue, hmore, rfl⟩
    obtain ⟨ha, hb⟩ := ascii_of_pairValue? hvalue
    obtain ⟨text, htext⟩ := pairText_of_ascii ha hb
    simp [parsePairs, htext, hvalue, hmore, bind, Except.bind, pure, Except.pure]

/-- Bytes that are read are none, or a pair and more bytes that are read; so many as not to leave one over. -/
theorem parsePairs_cases {kept bytes : Bytes} (heven : kept.length % 2 = 0) (h : parsePairs kept = .ok bytes) :
    (kept = [] ∧ bytes = []) ∨ ∃ a b rest value more, kept = a :: b :: rest ∧ bytes = value :: more ∧
      pairValue? a b = some value ∧ parsePairs rest = .ok more := by
  match kept, heven, h with
  | [], _, h => exact Or.inl ⟨rfl, (Except.ok.inj h).symm⟩
  | a :: b :: rest, _, h =>
    obtain ⟨value, more, hvalue, hmore, hbytes⟩ := parsePairs_cons_eq_ok_iff.1 h
    exact Or.inr ⟨a, b, rest, value, more, rfl, hbytes, hvalue, hmore⟩

/-! ## Characters and their bytes -/

/-- A character of ASCII is one byte. -/
theorem utf8EncodeChar_ascii {c : Char} (hc : c.toNat < 0x80) : String.utf8EncodeChar c = [UInt8.ofNat c.toNat] :=
  if_pos (Nat.le_of_lt_succ hc)

theorem not_ofNat_lt {n : Nat} (hn : 0x80 ≤ n) (hn' : n ≤ 255) : ¬UInt8.ofNat n < 0x80 := by
  rw [UInt8.lt_iff_toNat_lt, Bytes.toNat_ofNat_le hn']
  exact Nat.not_lt.2 hn

/-- Any other character is two bytes or more, and none of these is ASCII. -/
theorem utf8EncodeChar_other {c : Char} (hc : ¬c.toNat < 0x80) :
    String.utf8EncodeChar c ≠ [] ∧ ∀ b ∈ String.utf8EncodeChar c, ¬b < 0x80 := by
  have hcode : ¬c.val.toNat ≤ 127 := fun h => hc (Nat.lt_succ_of_le h)
  unfold String.utf8EncodeChar
  simp only [if_neg hcode]
  split
  · refine ⟨nofun, ?_⟩
    simp only [List.forall_mem_cons]
    exact ⟨not_ofNat_lt (by omega) (by omega), not_ofNat_lt (by omega) (by omega), nofun⟩
  split
  · refine ⟨nofun, ?_⟩
    simp only [List.forall_mem_cons]
    exact ⟨not_ofNat_lt (by omega) (by omega), not_ofNat_lt (by omega) (by omega), not_ofNat_lt (by omega) (by omega), nofun⟩
  · refine ⟨nofun, ?_⟩
    simp only [List.forall_mem_cons]
    exact ⟨not_ofNat_lt (by omega) (by omega), not_ofNat_lt (by omega) (by omega), not_ofNat_lt (by omega) (by omega),
      not_ofNat_lt (by omega) (by omega), nofun⟩

/-- Every character is some bytes. -/
theorem eq_nil_of_utf8 {cs : List Char} (h : cs.flatMap String.utf8EncodeChar = []) : cs = [] := by
  obtain _ | ⟨c, more⟩ := cs
  · rfl
  · obtain ⟨hc, -⟩ := List.append_eq_nil_iff.1 (List.flatMap_cons.symm.trans h)
    have hlength := congrArg List.length hc
    rw [String.length_utf8EncodeChar] at hlength
    exact absurd hlength (Nat.ne_of_gt c.utf8Size_pos)

/-- Bytes that begin with an ASCII byte begin with an ASCII character. -/
theorem ascii_of_utf8_cons {cs : List Char} {b : UInt8} {rest : Bytes} (h : cs.flatMap String.utf8EncodeChar = b :: rest)
    (hb : b < 0x80) :
    ∃ c more, cs = c :: more ∧ c.toNat < 0x80 ∧ b = UInt8.ofNat c.toNat ∧ rest = more.flatMap String.utf8EncodeChar := by
  obtain _ | ⟨c, more⟩ := cs
  · nomatch h
  · rw [List.flatMap_cons] at h
    by_cases hc : c.toNat < 0x80
    · rw [utf8EncodeChar_ascii hc] at h
      obtain ⟨hfirst, hrest⟩ := List.cons.inj h
      exact ⟨c, more, rfl, hc, hfirst.symm, hrest.symm⟩
    · obtain ⟨hne, hhigh⟩ := utf8EncodeChar_other hc
      obtain ⟨first, others, hbytes⟩ := List.exists_cons_of_ne_nil hne
      rw [hbytes] at h hhigh
      obtain rfl := (List.cons.inj h).1
      exact absurd hb (hhigh _ List.mem_cons_self)

theorem IsBlank.ascii {c : Char} (h : IsBlank c) : c.toNat < 0x80 := by
  obtain rfl | rfl | rfl | rfl | rfl := h <;> decide

theorem ascii_of_isBlank (b : UInt8) : isBlank b = true → b < 0x80 :=
  forall_byte (P := fun b => isBlank b = true → b < 0x80) (by decide +kernel) b

/-- White space is passed over as a byte. -/
theorem isBlank_byte {c : Char} (hc : c.toNat < 0x80) : isBlank (UInt8.ofNat c.toNat) = decide (IsBlank c) :=
  forall_ascii (P := fun c => isBlank (UInt8.ofNat c.toNat) = decide (IsBlank c)) (by decide +kernel) hc

/-- Taking white space away from the bytes leaves the bytes of the letters. -/
theorem filter_utf8 (text : String) :
    ((utf8 text).filter fun b => !isBlank b) = (letters text).flatMap String.utf8EncodeChar := by
  unfold utf8 letters
  induction text.toList with
  | nil => rfl
  | cons c cs ih =>
    have hbytes : ((String.utf8EncodeChar c).filter fun b => !isBlank b) =
        if IsBlank c then [] else String.utf8EncodeChar c := by
      by_cases hc : c.toNat < 0x80
      · rw [utf8EncodeChar_ascii hc, List.filter_cons, isBlank_byte hc]
        by_cases hblank : IsBlank c <;> simp [hblank]
      · rw [if_neg fun h => hc h.ascii]
        refine List.filter_eq_self.2 fun b hb => ?_
        simpa using fun h => (utf8EncodeChar_other hc).2 b hb (ascii_of_isBlank b h)
    rw [List.flatMap_cons, List.filter_append, ih, List.filter_cons, hbytes]
    by_cases hblank : IsBlank c <;> simp [hblank]

/-! ## What is read -/

/-- Whole pairs of bytes are read exactly if the characters spell them. -/
theorem parsePairs_eq_ok_iff {cs : List Char} {bytes : Bytes} :
    (cs.flatMap String.utf8EncodeChar).length % 2 = 0 ∧ parsePairs (cs.flatMap String.utf8EncodeChar) = .ok bytes ↔
      Spelled cs bytes := by
  constructor
  · rintro ⟨heven, hread⟩
    induction bytes generalizing cs with
    | nil =>
      obtain ⟨hnil, -⟩ | ⟨_, _, _, _, _, _, hcons, -⟩ := parsePairs_cases heven hread
      · rw [eq_nil_of_utf8 hnil]
        exact .nil
      · nomatch hcons
    | cons value bytes ih =>
      obtain ⟨-, hcons⟩ | ⟨a, b, rest, _, _, hbytes, hcons, hpair, hrest⟩ := parsePairs_cases heven hread
      · nomatch hcons
      · obtain ⟨rfl, rfl⟩ := List.cons.inj hcons
        obtain ⟨ha, hb⟩ := ascii_of_pairValue? hpair
        obtain ⟨c, more, rfl, hc, rfl, hmore⟩ := ascii_of_utf8_cons hbytes ha
        obtain ⟨c', more, rfl, hc', rfl, rfl⟩ := ascii_of_utf8_cons hmore.symm hb
        rw [hbytes, List.length_cons, List.length_cons] at heven
        exact .cons ((pairValue?_eq_some_iff hc hc').1 hpair) (ih (by omega) hrest)
  · intro h
    induction h with
    | nil => exact ⟨rfl, rfl⟩
    | @cons a b value rest bytes hpair _ ih =>
      obtain ⟨ha, hb⟩ := hpair.ascii
      obtain ⟨heven, hread⟩ := ih
      rw [List.flatMap_cons, List.flatMap_cons, utf8EncodeChar_ascii ha, utf8EncodeChar_ascii hb]
      refine ⟨?_, parsePairs_cons_eq_ok_iff.2 ⟨value, bytes, (pairValue?_eq_some_iff ha hb).2 hpair, hread, rfl⟩⟩
      simp only [List.singleton_append, List.length_cons]
      omega

/-- A text is read as bytes exactly if its letters spell them. -/
theorem parse_eq_ok_iff {text : String} {bytes : Bytes} : parse text = .ok bytes ↔ Spelled (letters text) bytes := by
  rw [parse, filter_utf8, ← parsePairs_eq_ok_iff]
  split
  · rename_i hodd
    exact iff_of_false nofun fun h => hodd h.1
  · rename_i heven
    exact (and_iff_right (Decidable.not_not.1 heven)).symm

/-- Characters that are the digits of bytes in some case spell the bytes. -/
theorem spelled_of_toLower {cs : List Char} {bytes : Bytes} (h : cs.map Char.toLower = bytes.flatMap digits) :
    Spelled cs bytes := by
  induction bytes generalizing cs with
  | nil =>
    rw [List.map_eq_nil_iff.1 h]
    exact .nil
  | cons value bytes ih =>
    obtain ⟨pair, rest, rfl, hpair, hrest⟩ := List.map_eq_append_iff.1 h
    obtain ⟨a, tail, rfl, ha, htail⟩ := List.map_eq_cons_iff.1 hpair
    obtain ⟨b, tail, rfl, hb, hnil⟩ := List.map_eq_cons_iff.1 htail
    obtain rfl := List.map_eq_nil_iff.1 hnil
    exact .cons (Or.inl (pair_eq_digits_iff.2 ⟨ha, hb⟩)) (ih hrest)

/-- Of the texts that are read those without a plus sign are the hexadecimal ones. -/
theorem spelled_iff_hexadecimal {cs : List Char} {bytes : Bytes} :
    Spelled cs bytes ∧ '+' ∉ cs ↔
      cs.length = 2 * bytes.length ∧ (∀ c ∈ cs, IsDigit c) ∧ cs.map Char.toLower = bytes.flatMap digits := by
  constructor
  · rintro ⟨h, hplus⟩
    induction h with
    | nil => exact ⟨rfl, nofun, rfl⟩
    | @cons a b value rest bytes hpair _ ih =>
      obtain ⟨ha, -, hrest⟩ : '+' ≠ a ∧ '+' ≠ b ∧ '+' ∉ rest := by simpa using hplus
      obtain ⟨hlength, hdigits, hlower⟩ := ih hrest
      obtain hpair | ⟨hsign, -⟩ := hpair
      · obtain ⟨hfirst, hlast⟩ := pair_eq_digits_iff.1 hpair
        obtain ⟨hdiv, hmod⟩ := toNat_halves value
        refine ⟨?_, ?_, ?_⟩
        · simp only [List.length_cons, hlength]
          omega
        · simp only [List.forall_mem_cons]
          exact ⟨isDigit_of_toLower hdiv hfirst, isDigit_of_toLower hmod hlast, hdigits⟩
        · rw [List.map_cons, List.map_cons, hlower, hfirst, hlast]
          rfl
      · exact absurd hsign.symm ha
  · rintro ⟨-, hdigits, hlower⟩
    exact ⟨spelled_of_toLower hlower, fun hplus => absurd (hdigits _ hplus) (by decide)⟩

/-- What a text is read as, and which texts that are read are hexadecimal. A text is read exactly if its letters spell bytes,
and then as these; every other text is refused. A text is read and has no plus sign exactly if it is hexadecimal: the letters
are two for each byte, all of them are digits, and in lower case they are the written form of the bytes. -/
theorem parse_accepts (text : String) :
    (∀ bytes, parse text = .ok bytes ↔ Spelled (letters text) bytes) ∧
    ((∃ flaw, parse text = .error flaw) ↔ ¬∃ bytes, Spelled (letters text) bytes) ∧
    ∀ bytes, parse text = .ok bytes ∧ '+' ∉ text.toList ↔
      (letters text).length = 2 * bytes.length ∧ (∀ c ∈ letters text, IsDigit c) ∧
        (letters text).map Char.toLower = (render bytes).toList := by
  have hplus : '+' ∈ text.toList ↔ '+' ∈ letters text := by simp [letters, IsBlank]
  refine ⟨fun bytes => parse_eq_ok_iff, ?_, fun bytes => ?_⟩
  · simp only [← parse_eq_ok_iff]
    cases parse text <;> simp
  · rw [parse_eq_ok_iff, hplus, spelled_iff_hexadecimal, render, String.toList_ofList]

/-- That only hexadecimal text is read is false: a plus sign and one digit are read as a byte. -/
theorem parse_hexadecimal_false :
    ¬∀ (text : String) (bytes : Bytes), parse text = .ok bytes →
      (letters text).length = 2 * bytes.length ∧ (∀ c ∈ letters text, IsDigit c) ∧
        (letters text).map Char.toLower = (render bytes).toList := by
  intro h
  have hread : parse "+5" = .ok [5] := rfl
  exact absurd ((h "+5" [5] hread).2.1 '+' List.mem_cons_self) (by decide)

/-! ## What is written is read again -/

/-- A text in another style: every character in either case, and white space put in anywhere. -/
inductive Restyled : List Char → List Char → Prop where
  | nil : Restyled [] []
  | letter {c c' : Char} {text styled : List Char} : c' = c ∨ c' = c.toUpper ∨ c' = c.toLower → Restyled text styled →
    Restyled (c :: text) (c' :: styled)
  | blank {c : Char} {text styled : List Char} : IsBlank c → Restyled text styled → Restyled text (c :: styled)

theorem Restyled.refl (text : List Char) : Restyled text text := by
  induction text with
  | nil => exact .nil
  | cons c text ih => exact .letter (Or.inl rfl) ih

/-- A digit stays the same digit in either case. -/
theorem IsDigit.styled {c c' : Char} (h : IsDigit c) (hc : c' = c ∨ c' = c.toUpper ∨ c' = c.toLower) :
    ¬IsBlank c' ∧ c'.toLower = c.toLower := by
  have hascii : c.toNat < 0x80 := by
    obtain ⟨-, h⟩ | ⟨-, h⟩ | ⟨-, h⟩ := h <;> exact Nat.lt_of_le_of_lt h (by decide)
  obtain ⟨⟨hself, hupper, hlower⟩, hupperLower, hlowerLower⟩ := forall_ascii (P := fun c => IsDigit c →
    (¬IsBlank c ∧ ¬IsBlank c.toUpper ∧ ¬IsBlank c.toLower) ∧ c.toUpper.toLower = c.toLower ∧ c.toLower.toLower = c.toLower)
    (by decide +kernel) hascii h
  obtain rfl | rfl | rfl := hc
  · exact ⟨hself, rfl⟩
  · exact ⟨hupper, hupperLower⟩
  · exact ⟨hlower, hlowerLower⟩

/-- The letters of digits in another style are the digits. -/
theorem Restyled.toLower_letters {text styled : List Char} (h : Restyled text styled) (hdigits : ∀ c ∈ text, IsDigit c) :
    (styled.filter fun c => !decide (IsBlank c)).map Char.toLower = text.map Char.toLower := by
  induction h with
  | nil => rfl
  | letter hc _ ih =>
    obtain ⟨hdigit, hrest⟩ := List.forall_mem_cons.1 hdigits
    obtain ⟨hblank, hlower⟩ := hdigit.styled hc
    rw [List.filter_cons_of_pos (by simpa using hblank), List.map_cons, List.map_cons, hlower, ih hrest]
  | blank hc _ ih => rw [List.filter_cons_of_neg (by simpa using hc), ih hdigits]

/-- Bytes are written in digits, and these in lower case. -/
theorem lower_of_mem_digits {bytes : Bytes} {c : Char} (h : c ∈ bytes.flatMap digits) : IsDigit c ∧ c.toLower = c := by
  obtain ⟨value, -, hc⟩ := List.mem_flatMap.1 h
  have hlower : ∀ d < 16, IsDigit (Nat.digitChar d) ∧ (Nat.digitChar d).toLower = Nat.digitChar d := by decide
  obtain ⟨hdiv, hmod⟩ := toNat_halves value
  obtain rfl | rfl : c = Nat.digitChar (value.toNat / 16) ∨ c = Nat.digitChar (value.toNat % 16) := by simpa [digits] using hc
  · exact hlower _ hdiv
  · exact hlower _ hmod

/-- What is written is read again: the bytes are read from their written form in any style. No two byte strings are written
alike, and each byte takes two characters. -/
theorem parse_restyled :
    (∀ (bytes : Bytes) (text : String), Restyled (render bytes).toList text.toList → parse text = .ok bytes) ∧
    Function.Injective render ∧ ∀ bytes, (render bytes).length = 2 * bytes.length := by
  have hread (bytes : Bytes) (text : String) (h : Restyled (render bytes).toList text.toList) : parse text = .ok bytes := by
    rw [render, String.toList_ofList] at h
    refine parse_eq_ok_iff.2 (spelled_of_toLower ?_)
    rw [letters, h.toLower_letters fun c hc => (lower_of_mem_digits hc).1]
    exact (List.map_congr_left fun c hc => (lower_of_mem_digits hc).2).trans (List.map_id _)
  refine ⟨hread, fun bytes bytes' h => ?_, fun bytes => ?_⟩
  · have hbytes := hread bytes (render bytes) (.refl _)
    rw [h, hread bytes' (render bytes') (.refl _)] at hbytes
    exact (Except.ok.inj hbytes).symm
  · rw [render, String.length_ofList]
    simp [digits, List.map_const', Nat.mul_comm]

/-- A byte in capitals, one parted by a tab, and a line feed behind the last one. -/
theorem parse_restyled_parted :
    Restyled (render [0xD5, 0x4B, 0x00]).toList "D5 4\tb00\n".toList ∧ parse "D5 4\tb00\n" = .ok [0xD5, 0x4B, 0x00] := by
  have hstyle : Restyled (render [0xD5, 0x4B, 0x00]).toList "D5 4\tb00\n".toList :=
    .letter (by decide) (.letter (by decide) (.blank (by decide) (.letter (by decide) (.blank (by decide)
      (.letter (by decide) (.letter (by decide) (.letter (by decide) (.blank (by decide) .nil))))))))
  exact ⟨hstyle, parse_restyled.1 _ _ hstyle⟩

end NfcHost.Hex
